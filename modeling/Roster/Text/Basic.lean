/-!
# Texts

Documents give characters by their sixteen-bit units, and a unit that is half of a pair may stand
alone. So a text is a list of code points, each a character or such a half. A `String` is a text
without halves and stands for one wherever a text is wanted; `toString` is the way back, with a
replacement character for every half.
-/

namespace Roster

/-- A code point: a character, or half of a pair of units, counted from the first half. -/
inductive CodePoint where
  | char (c : Char)
  | half (index : Fin 0x800)
  deriving DecidableEq, Repr

namespace CodePoint

/-- The number of the first half. -/
def firstHalf : Nat := 0xD800

/-- The number of a code point. -/
def toNat : CodePoint → Nat
  | .char c => c.toNat
  | .half index => firstHalf + index

/-- The code point of a sixteen-bit unit that stands alone. -/
def ofUnit (unit : Nat) : CodePoint :=
  if h : firstHalf ≤ unit ∧ unit < firstHalf + 0x800 then
    .half ⟨unit - firstHalf, by have := h.1; have := h.2; omega⟩
  else .char (Char.ofNat unit)

/-- What stands for a half where a character is wanted. -/
def replacement : Char := '\ufffd'

/-- A code point as a character. -/
def toChar : CodePoint → Char
  | .char c => c
  | .half _ => replacement

/-- Whether a code point is a character of a class. -/
def satisfies (p : Char → Bool) : CodePoint → Bool
  | .char c => p c
  | .half _ => false

@[simp] theorem satisfies_char (p : Char → Bool) (c : Char) : (char c).satisfies p = p c := rfl

end CodePoint

/-- A text. -/
structure Text where
  toList : List CodePoint
  deriving DecidableEq, Repr

namespace Text

/-- The text of characters. -/
def ofChars (cs : List Char) : Text := ⟨cs.map .char⟩

/-- The text of a string. -/
def ofString (s : String) : Text := ofChars s.toList

instance : Coe String Text := ⟨ofString⟩

instance : Inhabited Text := ⟨⟨[]⟩⟩

instance : Append Text := ⟨fun s t => ⟨s.toList ++ t.toList⟩⟩

/-- A text as a string, with a replacement character for every half. -/
protected def toString (s : Text) : String := String.ofList (s.toList.map CodePoint.toChar)

/-- The number of code points. -/
protected def length (s : Text) : Nat := s.toList.length

protected def isEmpty (s : Text) : Bool := s.toList.isEmpty

/-- Texts one after the other. -/
protected def join (parts : List Text) : Text := ⟨parts.flatMap toList⟩

/-- Texts one after the other with a text between them. -/
protected def intercalate (between : Text) (parts : List Text) : Text :=
  ⟨between.toList.intercalate (parts.map toList)⟩

/-- Whether a text stands in front of another one, or may, by the numbers of their code points. -/
def before (s t : Text) : Bool :=
  !List.lex (t.toList.map CodePoint.toNat) (s.toList.map CodePoint.toNat) Nat.blt

theorem ext_toList {s t : Text} (h : s.toList = t.toList) : s = t := by
  cases s
  cases t
  simpa using h

@[simp] theorem toList_append (s t : Text) : (s ++ t).toList = s.toList ++ t.toList := rfl

@[simp] theorem toList_ofChars (cs : List Char) : (ofChars cs).toList = cs.map .char := rfl

@[simp] theorem toList_ofString (s : String) : (ofString s).toList = s.toList.map .char := rfl

/-- A string is told apart as a text as well. -/
theorem ofString_injective {s t : String} (h : ofString s = ofString t) : s = t := by
  have h := congrArg toList h
  simp only [toList_ofString] at h
  exact String.toList_inj.1 ((List.map_inj_right fun _ _ => CodePoint.char.inj).1 h)

end Text

end Roster
