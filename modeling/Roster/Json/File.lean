import Roster.Json.Reader
import Roster.Text.Layout
import Roster.Text.Utf8

/-!
# Documents in files

A file's bytes are decoded, its line ends are made alike, and the text is read as a document.
-/

namespace Roster.Json

/-- Why bytes are no document: they are no text, or the text is refused. -/
inductive FileError where
  | notText (fault : Text.Utf8Fault)
  | refused (text : Text) (error : ReadError)

/-- The document in a text. -/
def ofText {α : Type} [Numeral α] (text : Text) : Except FileError (Json α) :=
  (read text).mapError (.refused text)

/-- The document in a file's bytes. -/
def ofBytes {α : Type} [Numeral α] (bytes : List UInt8) : Except FileError (Json α) :=
  match Text.decodeUtf8 bytes with
  | .error fault => .error (.notText fault)
  | .ok cs => ofText (.ofChars (Text.unifyLineEnds cs))

/-- What is said of an error; `what` says where a flawed text was found. -/
def FileError.message (what : Text) : FileError → Text
  | .notText fault => fault.message
  | .refused text (.malformed flaw position) =>
    "Invalid JSON in " ++ what ++ ": " ++ (ReadError.malformed flaw position).message text
  | .refused text error => error.message text

end Roster.Json
