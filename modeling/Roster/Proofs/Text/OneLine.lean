import Mathlib.Tactic.SplitIfs
import Roster.Decimal.Style
import Roster.Json.File

/-!
# Texts of one line

A text that is told is on one line if it has no line feed. What is shown of a document has none,
whatever is in the document: quoted texts escape it.
-/

namespace Roster

/-- No line feed is in a string. -/
def OneLine (s : String) : Prop := '\n' ∉ s.toList

instance (s : String) : Decidable (OneLine s) := inferInstanceAs (Decidable (¬ _))

/-- No line feed is in a text. -/
def Text.OneLine (s : Text) : Prop := .char '\n' ∉ s.toList

@[simp] theorem Text.oneLine_ofString (s : String) :
    (Text.ofString s).OneLine ↔ Roster.OneLine s := by
  simp [Text.OneLine, Roster.OneLine]

@[simp] theorem Text.oneLine_append (s t : Text) : (s ++ t).OneLine ↔ s.OneLine ∧ t.OneLine := by
  simp [Text.OneLine]

@[simp] theorem oneLine_append (s t : String) : OneLine (s ++ t) ↔ OneLine s ∧ OneLine t := by
  simp [OneLine]

@[simp] theorem oneLine_toString (s : String) : OneLine (toString s) ↔ OneLine s := Iff.rfl

@[simp] theorem oneLine_ofList (cs : List Char) : OneLine (String.ofList cs) ↔ '\n' ∉ cs := by
  simp [OneLine]

theorem oneLine_intercalate {between : String} (hb : OneLine between) {parts : List String}
    (h : ∀ s ∈ parts, OneLine s) : OneLine (String.intercalate between parts) := by
  induction parts with
  | nil =>
    rw [String.intercalate_nil]
    decide
  | cons s rest ih =>
    obtain ⟨hs, hrest⟩ := List.forall_mem_cons.1 h
    cases rest with
    | nil =>
      rw [String.intercalate_singleton]
      exact hs
    | cons t rest =>
      rw [String.intercalate_cons_cons, oneLine_append, oneLine_append]
      exact ⟨⟨hs, hb⟩, ih hrest⟩

/-! ### Numbers -/

theorem digitChar_ne_newline (d : Nat) : Nat.digitChar d ≠ '\n' := by
  have hdigits : ∀ d < 16, Nat.digitChar d ≠ '\n' := by decide
  by_cases h : d < 16
  · exact hdigits d h
  · unfold Nat.digitChar
    repeat rw [if_neg (by omega)]
    decide

theorem newline_notMem_toDigits {b : Nat} (hb : 1 < b) (n : Nat) : '\n' ∉ Nat.toDigits b n := by
  induction n using Nat.strongRecOn with
  | _ n ih =>
    rw [Nat.toDigits_eq_if hb]
    split
    · simp [(digitChar_ne_newline n).symm]
    · rename_i h
      have hlt : n / b < n := Nat.div_lt_self (by omega) hb
      simp [ih _ hlt, (digitChar_ne_newline (n % b)).symm]

@[simp] theorem oneLine_repr (n : Nat) : OneLine n.repr := by
  unfold OneLine
  rw [Nat.toList_repr]
  exact newline_notMem_toDigits (by omega) n

@[simp] theorem oneLine_toString_nat (n : Nat) : OneLine (toString n) := oneLine_repr n

@[simp] theorem oneLine_toString_int (n : Int) : OneLine (toString n) := by
  cases n with
  | ofNat n => exact oneLine_repr n
  | negSucc n =>
    change OneLine ("-" ++ (n + 1).repr)
    rw [oneLine_append]
    exact ⟨by decide, oneLine_repr (n + 1)⟩

theorem newline_notMem_decimalDigits (n : Nat) : '\n' ∉ Text.decimalDigits n := oneLine_repr n

theorem newline_notMem_hexDigits (width n : Nat) : '\n' ∉ Text.hexDigits width n := by
  unfold Text.hexDigits
  simp [newline_notMem_toDigits]

/-! ### Doubles -/

namespace Decimal

theorem newline_notMem_pointed {ds : List Char} (h : '\n' ∉ ds) (whole : Nat) :
    '\n' ∉ pointed ds whole := by
  have htake : '\n' ∉ ds.take whole := fun hm => h (List.mem_of_mem_take hm)
  have hdrop : '\n' ∉ ds.drop whole := fun hm => h (List.mem_of_mem_drop hm)
  unfold pointed
  dsimp only
  split
  · simpa using htake
  · simp [htake, hdrop]

theorem oneLine_signed {s : String} (h : OneLine s) (negative : Bool) :
    OneLine (signed negative s) := by
  unfold signed
  split
  · exact (oneLine_append "-" s).2 ⟨by decide, h⟩
  · exact h

theorem oneLine_positional {ds : List Char} (h : '\n' ∉ ds) (top : Int) :
    OneLine (plain.positional ds top) := by
  unfold Style.positional
  split
  · rw [oneLine_ofList]
    simp [h]
  · dsimp only
    split
    · rw [oneLine_append, oneLine_ofList]
      exact ⟨by simp [h], by decide⟩
    · exact (oneLine_ofList _).2 (newline_notMem_pointed h _)

theorem oneLine_scientific {ds : List Char} (h : '\n' ∉ ds) (top : Int) :
    OneLine (plain.scientific ds top) := by
  have hsign : '\n' ≠ if top < 0 then '-' else '+' := by
    split <;> decide
  unfold Style.scientific
  rw [oneLine_ofList]
  simp only [List.mem_append, List.mem_cons, newline_notMem_pointed h, hsign,
    newline_notMem_decimalDigits]
  simp [plain]

/-- A written double is on one line. -/
theorem oneLine_write (x : Float) : OneLine (plain.write x) := by
  unfold Style.write Style.writeExact
  split
  · decide
  · exact oneLine_signed (by decide) _
  · exact oneLine_signed (oneLine_positional (by decide) 0) _
  · refine oneLine_signed ?_ _
    split
    · exact oneLine_positional (newline_notMem_decimalDigits _) _
    · exact oneLine_scientific (newline_notMem_decimalDigits _) _

end Decimal

/-! ### Documents -/

theorem newline_notMem_quoteChar {quote : Char} (hq : '\n' ≠ quote) (c : Char) :
    '\n' ∉ Text.quoteChar quote c := by
  unfold Text.quoteChar
  split_ifs with hquote htab hfeed hreturn hprint hbyte hunit
  · rcases Bool.or_eq_true_iff.1 hquote with h | h
    · obtain rfl := of_decide_eq_true h
      simp [hq]
    · obtain rfl := of_decide_eq_true h
      decide
  · decide
  · decide
  · decide
  · simpa using Ne.symm hfeed
  · simp [newline_notMem_hexDigits]
  · simp [newline_notMem_hexDigits]
  · simp [newline_notMem_hexDigits]

theorem newline_notMem_quoteCodePoint {quote : Char} (hq : '\n' ≠ quote) (c : CodePoint) :
    '\n' ∉ Text.quoteCodePoint quote c := by
  cases c with
  | char c => exact newline_notMem_quoteChar hq c
  | half index => simp [Text.quoteCodePoint, newline_notMem_hexDigits]

/-- A quoted text is on one line. -/
theorem oneLine_quoted (s : Text) : OneLine (Text.quoted s) := by
  have hq : '\n' ≠ Text.quoteFor s.toList := by
    unfold Text.quoteFor
    split <;> decide
  unfold Text.quoted
  rw [oneLine_ofList]
  simp [hq, newline_notMem_quoteCodePoint hq]

theorem Decimal.oneLine_wholeTooLong : OneLine wholeTooLong := by decide +kernel

namespace Json

theorem oneLine_kind {α : Type} (v : Json α) : OneLine v.kind := by
  unfold kind
  split <;> decide

mutual

/-- What is shown of a document is on one line. -/
theorem oneLine_shown : ∀ v : Json Float, OneLine v.shown
  | .null => by decide
  | .bool b => by cases b <;> decide
  | .number (.whole n) => oneLine_toString_int n
  | .number (.real x) => Decimal.oneLine_write x
  | .string s => oneLine_quoted s
  | .array items => by
    unfold shown
    simp only [oneLine_append]
    exact ⟨⟨by decide, oneLine_intercalate (by decide) (oneLine_shownItems items)⟩, by decide⟩
  | .object members => by
    unfold shown
    simp only [oneLine_append]
    exact ⟨⟨by decide, oneLine_intercalate (by decide) (oneLine_shownMembers members)⟩, by decide⟩

theorem oneLine_shownItems : ∀ vs : List (Json Float), ∀ s ∈ shownItems vs, OneLine s
  | [], _, h => absurd h List.not_mem_nil
  | v :: rest, s, h => by
    rcases List.mem_cons.1 h with rfl | h
    · exact oneLine_shown v
    · exact oneLine_shownItems rest s h

theorem oneLine_shownMembers : ∀ ms : Members Float, ∀ s ∈ shownMembers ms, OneLine s
  | [], _, h => absurd h List.not_mem_nil
  | (k, v) :: rest, s, h => by
    rcases List.mem_cons.1 h with rfl | h
    · simp only [oneLine_append]
      exact ⟨⟨oneLine_quoted k, by decide⟩, oneLine_shown v⟩
    · exact oneLine_shownMembers rest s h

end

/-- A diagnostic is on one line if what stands in front of the value is. -/
theorem oneLine_diagnostic {text : String} (h : OneLine text) (found : Json Float) :
    OneLine (diagnostic text found) := by
  unfold diagnostic
  split
  · simp only [oneLine_append, oneLine_toString, h, oneLine_shown, true_and, and_true]
    decide
  · exact Decimal.oneLine_wholeTooLong

end Json

end Roster
