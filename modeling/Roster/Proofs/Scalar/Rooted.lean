import Roster.Proofs.Scalar.Exact

/-!
# Exact scalars with any root

Real numbers as scalars, with a root function of which only the sign and the order of its values are
known. What rises from amounts to no lesser ones does so through every operation that scores are
made of.
-/

namespace Roster

open Saturation

/-! ### Amounts that rise -/

/-- An amount and one that is not below it. -/
structure Rises {β : Type} [Zero β] [LE β] (a a' : β) : Prop where
  nonneg : 0 ≤ a
  le : a ≤ a'

namespace Rises

variable {a a' b b' g : ℝ}

theorem same (h : 0 ≤ a) : Rises a a := ⟨h, le_rfl⟩

theorem nonneg' (h : Rises a a') : 0 ≤ a' := h.nonneg.trans h.le

theorem add (ha : Rises a a') (hb : Rises b b') : Rises (a + b) (a' + b') :=
  ⟨add_nonneg ha.nonneg hb.nonneg, add_le_add ha.le hb.le⟩

theorem mul (ha : Rises a a') (hb : Rises b b') : Rises (a * b) (a' * b') :=
  ⟨mul_nonneg ha.nonneg hb.nonneg, mul_le_mul ha.le hb.le hb.nonneg ha.nonneg'⟩

theorem div (ha : Rises a a') (hb : 0 ≤ b) : Rises (a / b) (a' / b) :=
  ⟨div_nonneg ha.nonneg hb, div_le_div_of_nonneg_right ha.le hb⟩

theorem max (ha : Rises a a') (hb : Rises b b') : Rises (max a b) (max a' b') :=
  ⟨le_max_of_le_left ha.nonneg, max_le_max ha.le hb.le⟩

theorem bounded (hg : 0 ≤ g) (h : Rises a a') : Rises (bounded g a) (bounded g a') :=
  ⟨bounded_nonneg hg h.nonneg, bounded_mono h.le⟩

/-- A product rises with its start and with each of its factors. -/
theorem boundedProduct (hg : 0 ≤ g) {fs fs' : List ℝ} (hs : Rises a a')
    (hfs : List.Forall₂ Rises fs fs') :
    Rises (boundedProduct g a fs) (boundedProduct g a' fs') := by
  induction hfs generalizing a a' with
  | nil => exact hs
  | cons hf _ ih => exact ih ((hs.mul hf).bounded hg)

end Rises

/-! ### Scalars -/

/-- The real numbers with a root function, to compute scores in. -/
def Rooted (_root : ℝ → ℝ) : Type := ℝ

namespace Rooted

variable {root : ℝ → ℝ}

noncomputable instance : Numeral (Rooted root) :=
  { (inferInstance : Numeral Exact) with sqrt := root }

/-- What is required of a root function where numbers are not below zero. -/
structure LawfulRoot (root : ℝ → ℝ) : Prop where
  nonneg {x : ℝ} : 0 ≤ x → 0 ≤ root x
  mono {x y : ℝ} : 0 ≤ x → x ≤ y → root x ≤ root y

theorem lawfulRoot_sqrt : LawfulRoot Real.sqrt where
  nonneg _ := Real.sqrt_nonneg _
  mono _ := Real.sqrt_le_sqrt

instance : LawfulOrder (Rooted root) where
  le_self_of_le_left := fun {a _} _ => le_refl (α := ℝ) a
  le_self_of_le_right := fun {_ b} _ => le_refl (α := ℝ) b
  le_trans := fun {a b c} => le_trans (α := ℝ) (a := a) (b := b) (c := c)
  le_total := fun {a b} _ _ => le_total (α := ℝ) a b
  lt_iff := fun {a b} => lt_iff_le_not_ge (α := ℝ) (a := a) (b := b)
  zero_le_one := zero_le_one (α := ℝ)
  one_le_greatest := Exact.one_le_limit
  neg_greatest_le_zero := neg_nonpos.2 Exact.limit_pos.le

section Equations

variable (a b : Rooted root)

theorem saturate_eq : Scalar.saturate a = bounded Exact.limit a := Exact.saturate_eq a

theorem productFrom_eq (factors : List (Rooted root)) :
    Scalar.productFrom a factors = boundedProduct Exact.limit a factors :=
  Exact.productFrom_eq a factors

theorem larger_eq : Scalar.larger a b = max (α := ℝ) a b := by
  unfold Scalar.larger
  split
  · exact (max_eq_right (α := ℝ) (Scalar.le_of_lt ‹_›)).symm
  · exact (max_eq_left (α := ℝ) (not_lt.1 ‹_›)).symm

theorem smaller_eq : Scalar.smaller a b = min (α := ℝ) a b := by
  unfold Scalar.smaller
  split
  · exact (min_eq_right (α := ℝ) (Scalar.le_of_lt ‹_›)).symm
  · exact (min_eq_left (α := ℝ) (not_lt.1 ‹_›)).symm

theorem isZero_iff : Scalar.IsZero a ↔ a = 0 :=
  ⟨fun h => le_antisymm (α := ℝ) h.1 h.2, fun h => ⟨le_of_eq (α := ℝ) h, ge_of_eq (α := ℝ) h⟩⟩

end Equations

section Rises

variable {a a' : Rooted root}

theorem rises_saturate (h : Rises a a') : Rises (Scalar.saturate a) (Scalar.saturate a') := by
  rw [saturate_eq, saturate_eq]
  exact h.bounded Exact.limit_pos.le

theorem rises_productFrom {fs fs' : List (Rooted root)} (hs : Rises a a')
    (hfs : List.Forall₂ Rises fs fs') :
    Rises (Scalar.productFrom a fs) (Scalar.productFrom a' fs') := by
  rw [productFrom_eq, productFrom_eq]
  exact hs.boundedProduct Exact.limit_pos.le hfs

theorem rises_product {fs fs' : List (Rooted root)} (hfs : List.Forall₂ Rises fs fs') :
    Rises (Scalar.product fs) (Scalar.product fs') :=
  rises_productFrom (.same (zero_le_one (α := ℝ))) hfs

theorem rises_sqrt (hroot : LawfulRoot root) (h : Rises a a') :
    Rises (Scalar.sqrt a) (Scalar.sqrt a') :=
  ⟨hroot.nonneg h.nonneg, hroot.mono h.nonneg h.le⟩

end Rises

end Rooted

end Roster
