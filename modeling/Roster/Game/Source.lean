import Roster.FileState
import Roster.Game.Document
import Roster.Json.File
import Roster.Text.Casing

/-!
# Where games and settings come from

A game comes from a file, from a text or from a document that is already read; settings come from a
file of their own. A game's path is taken without the parts that lead nowhere, that of settings as
it is written. A game whose document has no name is named after its file: the file's name without
its last extension, with underscores and hyphens as spaces, in title case.
-/

namespace Roster

/-- Why a game or its settings could not be loaded. -/
inductive LoadError (Flaw : Type) where
  /-- There is no such file. -/
  | missing (path : Text)
  | unreadable (fault : FileFault) (path : Text)
  | document (error : Json.FileError)
  | flawed (flaw : Flaw)

namespace Game

/-- What is said where a game cannot be loaded; `what` says where its document was found. -/
def loadMessage {α : Type} [Numeral α] (what : Text) : LoadError (Flaw α) → Text
  | .missing path => "Game file not found: " ++ path
  | .unreadable fault path => fault.message path
  | .document error => error.message what
  | .flawed flaw => flaw.message

/-- What there is too much of in a document, if it cannot be loaded for that. -/
def overrun? {α : Type} : LoadError (Flaw α) → Option Overrun
  | .document (.refused _ (.tooDeep bracket)) => some (.depth bracket)
  | .flawed flaw => flaw.overrun?
  | _ => none

/-- What comes of loading a game: the game or the error, and the reports up to there. -/
structure Loading (α : Type) where
  result : Except (LoadError (Flaw α)) (Game α)
  notices : List Notice

/-- A document's reading as a loading. -/
def Reading.loading {α : Type} (reading : Reading α) : Loading α :=
  ⟨reading.result.mapError .flawed, reading.notices⟩

/-- The name of a game after its file. -/
def nameOfFile (path : Text) : Text :=
  Text.title
    ⟨(fileStem (fileName path)).toList.map fun c =>
      if c = .char '_' || c = .char '-' then .char ' ' else c⟩

variable {α : Type} [Numeral α]

/-- Reads a game from a document that a text or a file gave. -/
def ofDocument (given : Option Text) : Except Json.FileError (Json α) → Loading α
  | .error error => ⟨.error (.document error), []⟩
  | .ok document => (read given document).loading

/-- Loads a game from a text. -/
def ofText (given : Option Text) (text : Text) : Loading α :=
  ofDocument given (Json.ofText text)

/-- Loads a game from what stands at the normal form of a path. -/
def ofFile (path : Text) (state : FileState) : Loading α :=
  match state.sighted with
  | .missing => ⟨.error (.missing path), []⟩
  | .unreadable fault => ⟨.error (.unreadable fault (normalPath path)), []⟩
  | .content bytes => ofDocument (some (nameOfFile path)) (Json.ofBytes bytes)

/-- How a text is named where its flaws are told. -/
def textPlace : Text := "game data"

/-- How a file is named where its flaws are told. -/
def filePlace (path : Text) : Text := "game file " ++ fileName path

end Game

namespace Settings

/-- What is said where settings cannot be loaded. -/
def loadMessage {α : Type} [Numeral α] : LoadError (Flaw α) → Text
  | .missing path => "Settings file not found: " ++ path
  | .unreadable fault path => fault.message path
  | .document error => error.message "settings file"
  | .flawed flaw => flaw.message

/-- Loads settings from what stands at a path. -/
def ofFile {α : Type} [Numeral α] (path : Text) :
    FileState → Except (LoadError (Flaw α)) (Settings α)
  | .missing => .error (.missing path)
  | .unreadable fault => .error (.unreadable fault path)
  | .content bytes =>
    match Json.ofBytes bytes with
    | .error error => .error (.document error)
    | .ok document => (ofJson document).mapError .flawed

end Settings

example : Game.nameOfFile "./my_first-run.json" = "My First Run" := by decide +kernel

end Roster
