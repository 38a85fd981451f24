import Mathlib.Logic.Basic
import Roster.Scalar

/-!
# Laws of scalars

What bounds of scores need of a scalar's order and arithmetic. A scalar may be infinite, or no
number; what is no number compares with nothing, not even with itself, so that it is not below zero
either. Saturated values are finite.
-/

namespace Roster

/-- The laws of scalars whose order is total on numbers. -/
class LawfulOrder (α : Type) [Scalar α] : Prop where
  le_self_of_le_left {a b : α} : a ≤ b → a ≤ a
  le_self_of_le_right {a b : α} : a ≤ b → b ≤ b
  le_trans {a b c : α} : a ≤ b → b ≤ c → a ≤ c
  le_total {a b : α} : a ≤ a → b ≤ b → a ≤ b ∨ b ≤ a
  lt_iff {a b : α} : a < b ↔ a ≤ b ∧ ¬ b ≤ a
  zero_le_one : (0 : α) ≤ 1
  one_le_greatest : (1 : α) ≤ Scalar.greatest
  neg_greatest_le_zero : -(Scalar.greatest : α) ≤ 0

/-- The laws of scalars whose arithmetic also keeps signs. -/
class LawfulScalar (α : Type) [Scalar α] : Prop extends LawfulOrder α where
  not_neg_add {a b : α} : ¬ a < 0 → ¬ b < 0 → ¬ a + b < 0
  not_neg_mul {a b : α} : ¬ a < 0 → ¬ b < 0 → ¬ a * b < 0
  not_neg_div {a b : α} : ¬ a < 0 → 0 < b → ¬ a / b < 0
  not_neg_sqrt (a : α) : ¬ Scalar.sqrt a < 0
  pos_sqrt {a : α} : 0 < a → 0 < Scalar.sqrt a
  /-- The reciprocal of a positive root does not leave the finite range. -/
  finite_one_div_sqrt {a : α} : 0 < a → Scalar.Finite (1 / Scalar.sqrt a)
  /-- A share of what a finite value has above one, or lacks of it, leaves no less than nothing. -/
  not_neg_one_add_mul_pred {share a : α} :
    0 ≤ share → share ≤ 1 → 0 ≤ a → Scalar.Finite a → ¬ 1 + share * (a - 1) < 0
  not_neg_ofScientific (m : Nat) (s : Bool) (e : Nat) : ¬ (OfScientific.ofScientific m s e : α) < 0
  pos_ofInt {n : Int} : 0 < n → (0 : α) < Scalar.ofInt n

namespace Scalar

variable {α : Type} [Scalar α]

/-- A finite value that is not below zero. -/
structure Amount (x : α) : Prop where
  finite : Finite x
  nonneg : 0 ≤ x

theorem larger_eq_or (a b : α) : larger a b = a ∨ larger a b = b := by
  unfold larger
  split
  · exact Or.inr rfl
  · exact Or.inl rfl

theorem not_neg_larger {a b : α} (ha : ¬ a < 0) (hb : ¬ b < 0) : ¬ larger a b < 0 := by
  rcases larger_eq_or a b with h | h
  · rwa [h]
  · rwa [h]

theorem not_neg_smaller {a b : α} (ha : ¬ a < 0) (hb : ¬ b < 0) : ¬ smaller a b < 0 := by
  unfold smaller
  split
  · exact hb
  · exact ha

section Order

variable [LawfulOrder α]

open LawfulOrder

theorem zero_le_zero : (0 : α) ≤ 0 := le_self_of_le_left zero_le_one

theorem one_le_one : (1 : α) ≤ 1 := le_self_of_le_right zero_le_one

theorem Finite.le_self {x : α} (h : Finite x) : x ≤ x := le_self_of_le_right h.1

theorem le_of_lt {a b : α} (h : a < b) : a ≤ b := (lt_iff.1 h).1

theorem not_lt_of_le {a b : α} (h : a ≤ b) : ¬ b < a := fun hlt => (lt_iff.1 hlt).2 h

theorem le_of_not_lt {a b : α} (ha : a ≤ a) (hb : b ≤ b) (h : ¬ a < b) : b ≤ a := by
  rcases le_total hb ha with hle | hle
  · exact hle
  · by_cases hba : b ≤ a
    · exact hba
    · exact absurd (lt_iff.2 ⟨hle, hba⟩) h

theorem lt_of_lt_of_le {a b c : α} (h : a < b) (h' : b ≤ c) : a < c :=
  lt_iff.2 ⟨le_trans (le_of_lt h) h', fun hca => (lt_iff.1 h).2 (le_trans h' hca)⟩

theorem not_neg_zero : ¬ (0 : α) < 0 := not_lt_of_le zero_le_zero

theorem not_neg_one : ¬ (1 : α) < 0 := not_lt_of_le zero_le_one

theorem not_neg_of_pos {a : α} (h : 0 < a) : ¬ a < 0 := not_lt_of_le (le_of_lt h)

theorem zero_le_greatest : (0 : α) ≤ greatest := le_trans zero_le_one one_le_greatest

theorem finite_zero : Finite (0 : α) := ⟨neg_greatest_le_zero, zero_le_greatest⟩

theorem finite_of_nonneg {x : α} (h₀ : 0 ≤ x) (h : x ≤ greatest) : Finite x :=
  ⟨le_trans neg_greatest_le_zero h₀, h⟩

/-! ### Amounts -/

theorem amount_iff {x : α} : Amount x ↔ Finite x ∧ ¬ x < 0 :=
  ⟨fun h => ⟨h.finite, not_lt_of_le h.nonneg⟩,
    fun h => ⟨h.1, le_of_not_lt h.1.le_self zero_le_zero h.2⟩⟩

theorem Amount.not_neg {x : α} (h : Amount x) : ¬ x < 0 := not_lt_of_le h.nonneg

theorem amount_zero : Amount (0 : α) := ⟨finite_zero, zero_le_zero⟩

theorem amount_one : Amount (1 : α) := ⟨finite_of_nonneg zero_le_one one_le_greatest, zero_le_one⟩

theorem amount_of_le_one {x : α} (h₀ : 0 ≤ x) (h₁ : x ≤ 1) : Amount x :=
  ⟨finite_of_nonneg h₀ (le_trans h₁ one_le_greatest), h₀⟩

/-- What is brought between zero and one lies there, a number or not. -/
theorem clamp_zero_one (x : α) : 0 ≤ clamp x 0 1 ∧ clamp x 0 1 ≤ 1 := by
  unfold clamp smaller larger
  split
  · rename_i hx
    split
    · rename_i h₀
      exact ⟨le_of_lt h₀, le_of_lt hx⟩
    · exact ⟨zero_le_zero, zero_le_one⟩
  · split
    · exact ⟨zero_le_one, one_le_one⟩
    · exact ⟨zero_le_zero, zero_le_one⟩

/-! ### Saturation -/

theorem finite_greatest : Finite (greatest : α) :=
  finite_of_nonneg zero_le_greatest (le_self_of_le_right one_le_greatest)

theorem saturate_of_finite {x : α} (h : Finite x) : saturate x = x := by
  rw [saturate, if_neg (not_not.2 h.le_self), if_neg (not_lt_of_le h.2), if_neg (not_lt_of_le h.1)]

/-- A saturated value is finite. -/
theorem finite_saturate (x : α) : Finite (saturate x) := by
  unfold saturate
  split
  · exact finite_zero
  · rename_i hx
    have hx : x ≤ x := not_not.1 hx
    split
    · exact finite_greatest
    · rename_i hu
      split
      · exact ⟨le_self_of_le_left neg_greatest_le_zero,
          le_trans neg_greatest_le_zero zero_le_greatest⟩
      · rename_i hl
        exact ⟨le_of_not_lt hx (le_self_of_le_left neg_greatest_le_zero) hl,
          le_of_not_lt finite_greatest.le_self hx hu⟩

theorem finite_productFrom {start : α} (h : Finite start) (factors : List α) :
    Finite (productFrom start factors) := by
  induction factors generalizing start with
  | nil => exact h
  | cons x xs ih => exact ih (finite_saturate _)

theorem not_neg_saturate {x : α} (h : ¬ x < 0) : ¬ saturate x < 0 := by
  unfold saturate
  split
  · exact not_neg_zero
  · split
    · exact not_lt_of_le zero_le_greatest
    · split
      · rename_i hx _ hl
        exact absurd (lt_of_lt_of_le hl neg_greatest_le_zero) h
      · exact h

/-- What is not below zero saturates to an amount. -/
theorem amount_saturate {x : α} (h : ¬ x < 0) : Amount (saturate x) :=
  amount_iff.2 ⟨finite_saturate x, not_neg_saturate h⟩

theorem finite_product (factors : List α) : Finite (product factors) :=
  finite_productFrom amount_one.finite factors

end Order

section Arithmetic

variable [LawfulScalar α]

open LawfulScalar

/-- A sequence of multiplications by factors that are not below zero keeps amounts. -/
theorem amount_productFrom {start : α} {factors : List α} (hs : Amount start)
    (hf : ∀ x ∈ factors, ¬ x < 0) : Amount (productFrom start factors) := by
  induction factors generalizing start with
  | nil => exact hs
  | cons x xs ih =>
    rw [productFrom_cons]
    obtain ⟨hx, hxs⟩ := List.forall_mem_cons.1 hf
    exact ih (amount_saturate (not_neg_mul hs.not_neg hx)) hxs

theorem amount_product {factors : List α} (h : ∀ x ∈ factors, ¬ x < 0) :
    Amount (product factors) := amount_productFrom amount_one h

/-- A sum of terms that are not below zero is not below zero. -/
theorem not_neg_foldl_add {β : Type} (f : β → α) {terms : List β} {start : α} (hs : ¬ start < 0)
    (ht : ∀ t ∈ terms, ¬ f t < 0) : ¬ terms.foldl (fun sum t => sum + f t) start < 0 := by
  induction terms generalizing start with
  | nil => exact hs
  | cons t ts ih =>
    obtain ⟨h, hts⟩ := List.forall_mem_cons.1 ht
    exact ih (not_neg_add hs h) hts

end Arithmetic

end Scalar

end Roster
