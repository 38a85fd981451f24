import Roster.Text.Basic
import Roster.Text.Range

/-!
# Blank characters

The characters that count as white space at the ends of a text, and trimming by them. The set holds
the control characters from file separator to unit separator, next line, the no-break spaces and
the ideographic space; it does not hold the zero-width space or the byte-order mark.
-/

namespace Roster.Text

/-- The blank code points. -/
def blankRanges : Ranges :=
  [(0x9, 0xD), (0x1C, 0x20), (0x85, 0x85), (0xA0, 0xA0), (0x1680, 0x1680), (0x2000, 0x200A),
   (0x2028, 0x2029), (0x202F, 0x202F), (0x205F, 0x205F), (0x3000, 0x3000)]

/-- Whether a character is blank. -/
def isBlank (c : Char) : Bool := blankRanges.covers c.toNat

/-- A list without the elements of a class at its front. -/
def trimStartBy {β : Type} (p : β → Bool) (s : List β) : List β := s.dropWhile p

/-- A list without the elements of a class at its back. -/
def trimEndBy {β : Type} (p : β → Bool) (s : List β) : List β := (s.reverse.dropWhile p).reverse

/-- A list without the elements of a class at either end. -/
def trimBy {β : Type} (p : β → Bool) (s : List β) : List β := trimEndBy p (trimStartBy p s)

/-- Code points without the blank characters at either end. -/
def trimmed (s : List CodePoint) : List CodePoint := trimBy (CodePoint.satisfies isBlank) s

/-- A text without the blank characters at either end. -/
def trim (s : Text) : Text := ⟨trimmed s.toList⟩

/-- Nothing is left of a text that is blank throughout. -/
def isBlankText (s : Text) : Bool := s.toList.all (CodePoint.satisfies isBlank)

@[simp] theorem toList_trim (s : Text) : (trim s).toList = trimmed s.toList := rfl

end Roster.Text
