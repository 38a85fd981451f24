import Roster.Text.Basic
import Roster.Text.Casing.Table

/-!
# Lower case and title case

Lower case goes letter by letter but for one rule: a capital sigma that ends a word becomes the
final small sigma. It ends a word when a cased character stands before it and none after it,
characters that are passed over (points, apostrophes, accents) not counting. Title case raises each
letter that follows a character without case and lowers the others. A half has no case.
-/

namespace Roster.Text

/-- Whether a character has a case. -/
def isCased (c : Char) : Bool :=
  if c.toNat < 128 then c.isAlpha else casedRanges.covers c.toNat

/-- Whether a character is passed over when a letter's neighbours are looked for. -/
def isCaseIgnorable (c : Char) : Bool :=
  if c.toNat < 128 then c == '\x27' || c == '.' || c == ':' || c == '^' || c == '\x60'
  else caseIgnorableRanges.covers c.toNat

/-- The image of a character in a table of runs and sequences, the character itself by default. -/
def casingOf (runs : List Run) (sequences : List (Nat × List Nat)) (c : Char) : List Char :=
  match sequences.lookup c.toNat with
  | some image => image.map Char.ofNat
  | none =>
    match Run.image? c.toNat runs with
    | some n => [Char.ofNat n]
    | none => [c]

/-- The lower case of one character, outside any word. -/
def lowerChar (c : Char) : List Char :=
  if c.toNat < 128 then [c.toLower] else casingOf lowerRuns lowerSequences c

/-- The title case of one character. -/
def titleChar (c : Char) : List Char :=
  if c.toNat < 128 then [c.toUpper] else casingOf titleRuns titleSequences c

/-- The case standing after a code point: that of the character unless it is passed over. -/
def caseAfter (cased : Bool) : CodePoint → Bool
  | .char c => if isCaseIgnorable c then cased else isCased c
  | .half _ => false

/-- Whether the first code point that is not passed over has a case. -/
def startsCased : List CodePoint → Bool
  | .char c :: rest => if isCaseIgnorable c then startsCased rest else isCased c
  | _ => false

/-- The lower case of a character with a cased character before it or not, and a text behind it. -/
def lowerWithin (cased : Bool) (c : Char) (rest : List CodePoint) : List Char :=
  if c = 'Σ' then [if cased && !startsCased rest then 'ς' else 'σ'] else lowerChar c

/-- The lower case of a text that follows a cased character or not. -/
def lowerAfter (cased : Bool) : List CodePoint → List CodePoint
  | [] => []
  | .half index :: rest => .half index :: lowerAfter false rest
  | .char c :: rest =>
    (lowerWithin cased c rest).map .char ++ lowerAfter (caseAfter cased (.char c)) rest

/-- The lower case of a text. -/
def lowered (s : List CodePoint) : List CodePoint := lowerAfter false s

/-- The title case of a text: `word` says whether the character before has a case, `cased` whether
the last character that is not passed over has one. -/
def titleAfter (word cased : Bool) : List CodePoint → List CodePoint
  | [] => []
  | .half index :: rest => .half index :: titleAfter false false rest
  | .char c :: rest =>
    (if word then lowerWithin cased c rest else titleChar c).map .char
      ++ titleAfter (isCased c) (caseAfter cased (.char c)) rest

/-- The title case of a text. -/
def titled (s : List CodePoint) : List CodePoint := titleAfter false false s

/-- The lower case of a text. -/
def lower (s : Text) : Text := ⟨lowered s.toList⟩

/-- The title case of a text. -/
def title (s : Text) : Text := ⟨titled s.toList⟩

@[simp] theorem toList_lower (s : Text) : (lower s).toList = lowered s.toList := rfl

/-- A capital sigma closes a word, unless a letter follows. -/
example : lower "ΟΔΟΣ ΣΑΣ'Α" = "οδος σασ'α" := by decide +kernel

example : title "they're bill_gates ǆ" = "They'Re Bill_Gates ǅ" := by decide +kernel

end Roster.Text
