import Mathlib.Data.List.TakeWhile
import Mathlib.Tactic.SplitIfs
import Roster.Decimal.Literal
import Roster.Proofs.Text.Casing
import Roster.TypeName

/-!
# Colons in names and numbers

A name and its normal form both hold a colon or both do not: a colon has no case and is not blank,
and no other character goes to a colon when it is put into lower case. No number is written with
one.
-/

namespace Roster

namespace Text

theorem ofNat_ne_colon {n : Nat} (h : ':'.toNat < n) : Char.ofNat n ≠ ':' := by
  intro he
  have hcolon : ':'.toNat ≠ 0 := by decide
  have hn : (Char.ofNat n).toNat = ':'.toNat := congrArg Char.toNat he
  have := toNat_ofNat n
  omega

/-- No table leads to a colon. -/
theorem colon_notMem_lowerChar {c : Char} (h : ¬ c.toNat < 128) : ':' ∉ lowerChar c := by
  have hsequences : ∀ e ∈ lowerSequences, ':' ∉ e.2.map Char.ofNat := by decide
  have hruns : ∀ r ∈ lowerRuns, ':'.toNat < r.image := by decide +kernel
  rw [lowerChar, if_neg h]
  obtain ⟨image, hmem, himage⟩ | ⟨r, hr, -, -, himage⟩ | himage :=
    casingOf_cases lowerRuns lowerSequences c
  · rw [himage]
    exact hsequences _ hmem
  · have hlt : ':'.toNat < r.image + (c.toNat - r.first) :=
      Nat.lt_of_lt_of_le (hruns r hr) (Nat.le_add_right _ _)
    rw [himage, List.mem_singleton]
    exact (ofNat_ne_colon hlt).symm
  · rw [himage, List.mem_singleton]
    rintro rfl
    exact h (by decide)

theorem colon_mem_lowerChar_iff (c : Char) : ':' ∈ lowerChar c ↔ c = ':' := by
  by_cases h : c.toNat < 128
  · have hlower : ∀ c : Char, c.toNat < 128 → (c.toLower = ':' ↔ c = ':') := of_ascii (by decide)
    rw [lowerChar, if_pos h, List.mem_singleton, eq_comm, hlower c h]
  · refine iff_of_false (colon_notMem_lowerChar h) ?_
    rintro rfl
    exact h (by decide)

theorem colon_mem_lowered_iff (s : List CodePoint) :
    .char ':' ∈ lowered s ↔ .char ':' ∈ s := by
  suffices h : ∀ cased, .char ':' ∈ lowerAfter cased s ↔ .char ':' ∈ s from h false
  induction s with
  | nil => exact fun cased => Iff.rfl
  | cons c rest ih =>
    intro cased
    cases c with
    | half index =>
      rw [lowerAfter, List.mem_cons, List.mem_cons, ih]
    | char c =>
      have hc : ':' ∈ lowerWithin cased c rest ↔ c = ':' := by
        unfold lowerWithin
        split
        · rename_i hsigma
          subst hsigma
          refine iff_of_false ?_ (by decide)
          split <;> decide
        · exact colon_mem_lowerChar_iff c
      have hmem : CodePoint.char ':' ∈ (lowerWithin cased c rest).map .char ↔ c = ':' := by
        rw [← hc]
        simp
      rw [lowerAfter, List.mem_append, List.mem_cons, ih, hmem]
      simp [eq_comm]

theorem mem_trimBy_iff {β : Type} {p : β → Bool} {c : β} (hc : p c = false) (s : List β) :
    c ∈ trimBy p s ↔ c ∈ s := by
  have hdrop (s : List β) : c ∈ s.dropWhile p ↔ c ∈ s := by
    constructor
    · exact fun h => (List.dropWhile_suffix p).subset h
    · intro h
      rw [← List.takeWhile_append_dropWhile (p := p) (l := s)] at h
      rcases List.mem_append.1 h with h | h
      · rw [List.mem_takeWhile_imp h] at hc
        cases hc
      · exact h
  rw [trimBy, trimEndBy, trimStartBy, List.mem_reverse, hdrop, List.mem_reverse, hdrop]

end Text

/-- A name holds a colon exactly if its normal form does. -/
theorem TypeName.colon_mem_normal_iff (name : Text) :
    .char ':' ∈ (normal name).toList ↔ .char ':' ∈ name.toList := by
  rw [normal, Text.toList_lower, Text.colon_mem_lowered_iff, Text.toList_trim, Text.trimmed,
    Text.mem_trimBy_iff (by decide)]

namespace Decimal

theorem colon_notMem_of_digits {s : List Char} (h : s.all Text.isAsciiDigit = true) : ':' ∉ s :=
  fun hmem => absurd (List.all_eq_true.1 h _ hmem) (by decide)

/-- A sign takes no colon away. -/
theorem colon_mem_takeSign_iff (s : List Char) : ':' ∈ (takeSign s).2 ↔ ':' ∈ s := by
  unfold takeSign
  split <;> simp

/-- Digits take no colon away. -/
theorem colon_mem_takeDigits_iff (s : List Char) : ':' ∈ (takeDigits s).2 ↔ ':' ∈ s := by
  have hdigits : ':' ∉ (takeDigits s).1 :=
    fun h => absurd (List.mem_takeWhile_imp (p := Text.isAsciiDigit) h) (by decide)
  rw [← or_iff_right (b := ':' ∈ (takeDigits s).2) hdigits, ← List.mem_append, takeDigits_append]

theorem colon_notMem_of_exponentPart? {s : List Char} {e : Int} (h : exponentPart? s = some e) :
    ':' ∉ s := by
  unfold exponentPart? at h
  split at h
  · exact List.not_mem_nil
  · rename_i c rest
    obtain ⟨hc, h⟩ := Option.ite_none_right_eq_some.1 h
    obtain ⟨hdigits, -⟩ := Option.ite_none_left_eq_some.1 h
    have hrest : ':' ∉ rest := by
      simp only [Bool.or_eq_true, Bool.not_eq_true', not_or, Bool.not_eq_false] at hdigits
      exact fun hmem => colon_notMem_of_digits hdigits.2 ((colon_mem_takeSign_iff rest).2 hmem)
    rintro (_ | ⟨_, hmem⟩)
    · exact absurd hc (by decide)
    · exact hrest hmem

theorem colon_notMem_of_unsigned? {negative : Bool} {s : List Char} {l : Literal}
    (h : unsigned? negative s = some l) : ':' ∉ s := by
  unfold unsigned? at h
  dsimp only at h
  obtain ⟨-, h⟩ := Option.ite_none_left_eq_some.1 h
  obtain ⟨e, he, -⟩ := Option.map_eq_some_iff.1 h
  have hrest := colon_notMem_of_exponentPart? he
  rw [← colon_mem_takeDigits_iff]
  split at hrest
  · rename_i rest hs
    rw [hs]
    rintro (_ | ⟨_, hmem⟩)
    exact hrest ((colon_mem_takeDigits_iff rest).2 hmem)
  · exact hrest

/-- Underscores alone are dropped. -/
theorem mem_of_dropUnderscores {c : Char} (hc : c ≠ '_') {digit : Bool} {s cs : List Char}
    (h : dropUnderscores digit s = some cs) (hmem : c ∈ s) : c ∈ cs := by
  fun_induction dropUnderscores digit s generalizing cs with
  | case1 => cases hmem
  | case2 digit c' rest hdigit ih =>
    obtain ⟨cs', hcs, rfl⟩ := Option.map_eq_some_iff.1 h
    have hmem := (List.mem_cons.1 hmem).resolve_left hc
    rcases List.mem_cons.1 hmem with rfl | hmem
    · exact List.mem_cons_self
    · exact List.mem_cons_of_mem _ (ih hcs hmem)
  | case3 => cases h
  | case4 => cases h
  | case5 digit c' rest _ hc' ih =>
    obtain ⟨cs', hcs, rfl⟩ := Option.map_eq_some_iff.1 h
    rcases List.mem_cons.1 hmem with rfl | hmem
    · exact List.mem_cons_self
    · exact List.mem_cons_of_mem _ (ih hcs hmem)

/-- No number is written with a colon. -/
theorem colon_notMem_of_ofText? {s : Text} {l : Literal} (h : Literal.ofText? s = some l) :
    .char ':' ∉ s.toList := by
  intro hmem
  have hplain : ':' ∈ s.toList.map plainChar := List.mem_map.2 ⟨_, hmem, by decide⟩
  have htrim := (Text.mem_trimBy_iff (p := isSpace) (by decide) _).2 hplain
  unfold Literal.ofText? numberChars at h
  split at h
  · cases h
  · rename_i cs hcs
    have hbody := (colon_mem_takeSign_iff cs).2 (mem_of_dropUnderscores (by decide) hcs htrim)
    have hword : ':' ∈ (takeSign cs).2.map Char.toLower := List.mem_map.2 ⟨_, hbody, by decide⟩
    dsimp only at h
    split_ifs at h with hnan hinf
    · rw [hnan] at hword
      exact absurd hword (by decide)
    · simp only [Bool.or_eq_true, decide_eq_true_eq] at hinf
      rcases hinf with hinf | hinf
      · rw [hinf] at hword
        exact absurd hword (by decide)
      · rw [hinf] at hword
        exact absurd hword (by decide)
    · exact colon_notMem_of_unsigned? h hbody

end Decimal

end Roster
