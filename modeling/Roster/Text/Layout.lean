import Roster.Text.Blank
import Roster.Text.Split

/-!
# Laying out text

Line ends made alike, the common indentation of a block taken away, and columns of a given width.
Widths count code points.
-/

namespace Roster.Text

/-- Every line end, a carriage return with or without a line feed, made a line feed. -/
def unifyLineEnds : List Char → List Char
  | [] => []
  | '\r' :: '\n' :: rest => '\n' :: unifyLineEnds rest
  | c :: rest => (if c = '\r' then '\n' else c) :: unifyLineEnds rest

/-- A space or a tab. -/
def isIndent (c : CodePoint) : Bool := c == .char ' ' || c == .char '\t'

/-- A line's leading spaces and tabs. -/
def indentOf (line : List CodePoint) : List CodePoint := line.takeWhile isIndent

/-- The longest text that both texts begin with. -/
def commonFront : List CodePoint → List CodePoint → List CodePoint
  | a :: as, b :: bs => if a = b then a :: commonFront as bs else []
  | _, _ => []

/-- The indentation that all the given lines share. -/
def commonIndent : List (List CodePoint) → List CodePoint
  | [] => []
  | [line] => indentOf line
  | line :: rest => commonFront (indentOf line) (commonIndent rest)

/-- The lines of a block without the indentation that those with content share; lines of nothing
but spaces and tabs become empty. -/
def dedentLines (block : List (List CodePoint)) : List (List CodePoint) :=
  let block := block.map fun line => if line.all isIndent then [] else line
  let margin := commonIndent (block.filter fun line => !line.isEmpty)
  block.map fun line => line.drop margin.length

/-- A block of text without its common indentation and without blanks at its ends. -/
def dedent (s : Text) : Text :=
  trim ⟨joinWith (.char '\n') (dedentLines (splitAt (.char '\n') s.toList))⟩

/-- The first code points of a text, up to a width. -/
def truncate (width : Nat) (s : Text) : Text := ⟨s.toList.take width⟩

/-- A text filled up with spaces at its back to a width. -/
def padEnd (width : Nat) (s : Text) : Text :=
  s ++ ⟨List.replicate (width - s.length) (.char ' ')⟩

/-- A text filled up with spaces at its front to a width. -/
def padStart (width : Nat) (s : Text) : Text :=
  ⟨List.replicate (width - s.length) (.char ' ')⟩ ++ s

/-- A text cut or filled up to exactly a width. -/
def column (width : Nat) (s : Text) : Text := padEnd width (truncate width s)

/-- A text repeated. -/
def repeated (n : Nat) (s : Text) : Text := Text.join (List.replicate n s)

example : dedent "\n   - a\n     b\n \t\n   c" = "- a\n  b\n\nc" := by decide +kernel

end Roster.Text
