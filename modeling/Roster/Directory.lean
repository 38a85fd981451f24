import Roster.FileState
import Roster.Keyed

/-!
# A working directory

A directory that holds plain files and nothing else, and what the paths from it lead to. A path is
walked part by part; names and paths have a longest size in bytes. Halves that stand for a byte may
occur in a path, others may not. Nothing is known of what lies outside.
-/

namespace Roster

/-- Files by their names. -/
abbrev Directory := Keyed Text (List UInt8)

namespace Directory

/-- Where a walk has led. -/
inductive Place where
  | inside
  | outside
  | file (bytes : List UInt8)
  deriving DecidableEq, Repr

/-- The longest name of a file, in bytes. -/
def nameLimit : Nat := 255

/-- The longest path, in bytes. -/
def pathLimit : Nat := 4095

/-- The number of bytes that a text is written in. -/
def byteCount (s : Text) : Nat := s.toList.foldl (fun n c => n + c.toChar.utf8Size) 0

/-- What the parts of a path lead to from a place. -/
def walk (files : Directory) : Place → List Text → FileState
  | .inside, [] | .outside, [] => .unreadable .isDirectory
  | .file bytes, [] => .content bytes
  | .file _, _ :: _ => .unreadable .notDirectory
  | place, part :: rest =>
    if part.isEmpty ∨ part = "." then walk files place rest
    else if part = ".." then walk files .outside rest
    else if nameLimit < byteCount part then .unreadable .nameTooLong
    else
      match place, Keyed.get? part files with
      | .inside, some bytes => walk files (.file bytes) rest
      | _, _ => .missing

/-- Whether a code point is a half that stands for a byte. -/
def isByteHalf (c : CodePoint) : Bool := 0xDC80 ≤ c.toNat && c.toNat ≤ 0xDCFF

/-- The halves of a path that may not occur in it. -/
def badHalves? (path : Text) : Option Text.HalfRun :=
  Text.halves? ⟨path.toList.map fun c => if isByteHalf c then .char '?' else c⟩

/-- Where the walk along a path begins. -/
def startOf (path : Text) : Place :=
  if path.toList.head? = some (.char '/') then .outside else .inside

/-- What stands at a path. -/
def stateAt (files : Directory) (path : Text) : FileState :=
  match badHalves? path with
  | some run => .unreadable (.halves run)
  | none =>
    if .char '\x00' ∈ path.toList then .unreadable .nulInName
    else if path.isEmpty then .missing
    else if pathLimit < byteCount path then .unreadable .nameTooLong
    else walk files (startOf path) (Text.split '/' path)

example : stateAt [("a.json", [1])] "./a.json" = .content [1] := by decide +kernel

example : stateAt [("a.json", [1])] "a.json/b" = .unreadable .notDirectory := by decide +kernel

example : stateAt [("a.json", [1])] "../a.json" = .missing := by decide +kernel

end Directory

end Roster
