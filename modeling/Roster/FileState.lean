import Roster.Text.Quoted
import Roster.Text.Split
import Roster.Text.Utf8

/-!
# Files

Paths, and what stands at them. A path is a text of parts between slashes; empty parts and single
points lead nowhere. What stands at a path is the content of a file, nothing, or something that
cannot be read as a file.
-/

namespace Roster

/-- Why a path cannot be read although it may lead somewhere. -/
inductive FileFault where
  | isDirectory
  /-- A part in front of the last is a file. -/
  | notDirectory
  | nameTooLong
  /-- The path holds the character with the number zero, which no path does. -/
  | nulInName
  /-- The path holds halves, which no path does. -/
  | halves (run : Text.HalfRun)
  deriving DecidableEq, Repr

/-- What is said of a fault at a path. -/
def FileFault.message (path : Text) : FileFault → String
  | .isDirectory => "[Errno 21] Is a directory: " ++ Text.quoted path
  | .notDirectory => "[Errno 20] Not a directory: " ++ Text.quoted path
  | .nameTooLong => "[Errno 36] File name too long: " ++ Text.quoted path
  | .nulInName => "embedded null byte"
  | .halves run => run.message

/-- What stands at a path. -/
inductive FileState where
  | missing
  | content (bytes : List UInt8)
  | unreadable (fault : FileFault)
  deriving DecidableEq, Repr

namespace FileState

/-- What a look at a path tells before the file is opened: a path through a file, or one that no
file can have, counts as missing. -/
def sighted : FileState → FileState
  | .unreadable .notDirectory => .missing
  | .unreadable .nulInName => .missing
  | .unreadable (.halves _) => .missing
  | state => state

end FileState

/-- The parts of a path that lead somewhere. -/
def pathParts (path : Text) : List Text :=
  (Text.split '/' path).filter fun part => !part.isEmpty && part != "."

/-- The slashes that a path from the root begins with: two stay two, more are one. -/
def rootOf (path : Text) : Text :=
  match (path.toList.takeWhile (· = .char '/')).length with
  | 0 => ""
  | 2 => "//"
  | _ => "/"

/-- A path of the parts that lead somewhere; a point if there are none. -/
def normalPath (path : Text) : Text :=
  let plain := rootOf path ++ Text.intercalate "/" (pathParts path)
  if plain.isEmpty then "." else plain

/-- The name of the file that a path leads to: its last part. -/
def fileName (path : Text) : Text := (pathParts path).getLast?.getD ""

/-- A file's name without its last extension. A point at either end begins none. -/
def fileStem (name : Text) : Text :=
  let cs := name.toList
  let extension := cs.reverse.takeWhile (· ≠ .char '.')
  let stem := cs.take (cs.length - extension.length - 1)
  if stem.isEmpty || extension.isEmpty then name else ⟨stem⟩

/-- The extension of a path's last part: its last point and what stands behind it. Points at the
front of the part begin none. -/
def fileExtension (path : Text) : Text :=
  let name := (path.toList.reverse.takeWhile (· ≠ .char '/')).reverse.dropWhile (· = .char '.')
  if .char '.' ∈ name then ⟨.char '.' :: (name.reverse.takeWhile (· ≠ .char '.')).reverse⟩ else ""

example : normalPath "./a//b/." = "a/b" ∧ normalPath "" = "." ∧ normalPath "//x" = "//x" := by
  decide +kernel

example : fileName "a/b.json/" = "b.json" ∧ fileName "." = "" := by decide +kernel

example : fileStem "v1.2-final.json" = "v1.2-final" := by decide +kernel

example : fileStem ".json" = ".json" ∧ fileStem "name." = "name." := by decide +kernel

example : fileExtension "a.json.txt" = ".txt" ∧ fileExtension "a." = "." ∧
    fileExtension "..." = "" ∧ fileExtension "a.b/c" = "" := by decide +kernel

end Roster
