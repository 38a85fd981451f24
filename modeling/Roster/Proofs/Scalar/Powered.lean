import Roster.Proofs.Scalar.Rooted

/-!
# Exact scalars with any root and power

Real numbers as scalars, with a root and a power of which only the order of their values is known,
and that no positive number has a root of zero. What can be divided by a root is then ordered the
other way round.
-/

namespace Roster

open Saturation

/-! ### Factors put into a product -/

section Insert

variable {β : Type} {g c f : ℝ}

theorem forall₂_rises_of_nonneg {fs : List ℝ} (h : ∀ x ∈ fs, 0 ≤ x) : List.Forall₂ Rises fs fs :=
  List.forall₂_same.2 fun x hx => .same (h x hx)

/-- A product falls, though not below zero, where a factor up to one is put in. -/
theorem rises_boundedProduct_insert (hg : 0 ≤ g) (hc : 0 ≤ c) {before after : List ℝ}
    (hbefore : ∀ x ∈ before, 0 ≤ x) (hafter : ∀ x ∈ after, 0 ≤ x) (hf : 0 ≤ f) (hone : f ≤ 1) :
    Rises (boundedProduct g c (before ++ f :: after)) (boundedProduct g c (before ++ after)) := by
  have hstart : 0 ≤ boundedProduct g c before :=
    ((Rises.same hc).boundedProduct hg (forall₂_rises_of_nonneg hbefore)).nonneg
  have hstep : bounded g (boundedProduct g c before * f) ≤ boundedProduct g c before := by
    rw [bounded_of_nonneg hg (mul_nonneg hstart hf)]
    exact (min_le_left _ _).trans (mul_le_of_le_one_right hstart hone)
  have hrises : Rises (bounded g (boundedProduct g c before * f)) (boundedProduct g c before) :=
    ⟨bounded_nonneg hg (mul_nonneg hstart hf), hstep⟩
  rw [boundedProduct_append, boundedProduct_append]
  exact hrises.boundedProduct hg (forall₂_rises_of_nonneg hafter)

/-- So it does where something is put in that stands for such a factor, or for none. -/
theorem rises_boundedProduct_filterMap_insert (hg : 0 ≤ g) (hc : 0 ≤ c) {e : β → Option ℝ}
    (he : ∀ t x, e t = some x → 0 ≤ x) {t : β} (ht : ∀ x, e t = some x → x ≤ 1)
    (before after : List β) :
    Rises (boundedProduct g c ((before ++ t :: after).filterMap e))
      (boundedProduct g c ((before ++ after).filterMap e)) := by
  have hnonneg (l : List β) : ∀ x ∈ l.filterMap e, 0 ≤ x := by
    intro x hx
    obtain ⟨t, -, hx⟩ := List.mem_filterMap.1 hx
    exact he t x hx
  rw [List.filterMap_append, List.filterMap_append]
  cases h : e t with
  | none =>
    rw [List.filterMap_cons_none h, ← List.filterMap_append]
    exact .same ((Rises.same hc).boundedProduct hg (forall₂_rises_of_nonneg (hnonneg _))).nonneg
  | some x =>
    rw [List.filterMap_cons_some h]
    exact rises_boundedProduct_insert hg hc (hnonneg _) (hnonneg _) (he t x h) (ht x h)

end Insert

/-! ### Scalars -/

/-- The real numbers with a root and a power function, to compute scores in. -/
def Powered (_root : ℝ → ℝ) (_power : ℝ → ℝ → ℝ) : Type := ℝ

namespace Powered

variable {root : ℝ → ℝ} {power : ℝ → ℝ → ℝ}

noncomputable instance : Numeral (Powered root power) :=
  { (inferInstance : Numeral (Rooted root)) with pow := power }

/-- What is required of a root and of a power where numbers are not below zero. -/
structure Lawful (root : ℝ → ℝ) (power : ℝ → ℝ → ℝ) : Prop where
  root_pos {x : ℝ} : 0 < x → 0 < root x
  root_mono {x y : ℝ} : 0 ≤ x → x ≤ y → root x ≤ root y
  power_mono {x y z : ℝ} : 0 ≤ z → 0 ≤ x → x ≤ y → power x z ≤ power y z

theorem lawful_sqrt_rpow : Lawful Real.sqrt Real.rpow where
  root_pos := Real.sqrt_pos.2
  root_mono _ := Real.sqrt_le_sqrt
  power_mono hz hx h := Real.rpow_le_rpow hx h hz

instance : LawfulOrder (Powered root power) where
  le_self_of_le_left := LawfulOrder.le_self_of_le_left (α := Rooted root)
  le_self_of_le_right := LawfulOrder.le_self_of_le_right (α := Rooted root)
  le_trans := LawfulOrder.le_trans (α := Rooted root)
  le_total := LawfulOrder.le_total (α := Rooted root)
  lt_iff := LawfulOrder.lt_iff (α := Rooted root)
  zero_le_one := LawfulOrder.zero_le_one (α := Rooted root)
  one_le_greatest := LawfulOrder.one_le_greatest (α := Rooted root)
  neg_greatest_le_zero := LawfulOrder.neg_greatest_le_zero (α := Rooted root)

theorem productFrom_eq (a : Powered root power) (factors : List (Powered root power)) :
    Scalar.productFrom a factors = boundedProduct Exact.limit a factors :=
  Exact.productFrom_eq a factors

theorem rises_product {fs fs' : List (Powered root power)} (h : List.Forall₂ Rises fs fs') :
    Rises (Scalar.product fs) (Scalar.product fs') := @Rooted.rises_product root fs fs' h

/-- A product falls, though not below zero, where something is put in that stands for a factor up to
one, or for none. -/
theorem rises_productFrom_insert {β : Type} {e : β → Option (Powered root power)}
    (he : ∀ t x, e t = some x → 0 ≤ x) {t : β} (ht : ∀ x, e t = some x → x ≤ 1)
    {a : Powered root power} (ha : 0 ≤ a) (before after : List β) :
    Rises (Scalar.productFrom a ((before ++ t :: after).filterMap e))
      (Scalar.productFrom a ((before ++ after).filterMap e)) := by
  rw [productFrom_eq, productFrom_eq]
  exact rises_boundedProduct_filterMap_insert Exact.limit_pos.le ha he ht before after

/-- A sum of squares rises with what is squared. -/
theorem rises_foldl_squares {ms ms' : List (Powered root power)} (h : List.Forall₂ Rises ms ms')
    {a a' : Powered root power} (ha : Rises a a') :
    Rises (ms.foldl (fun sum m => sum + m * m) a) (ms'.foldl (fun sum m => sum + m * m) a') := by
  induction h generalizing a a' with
  | nil => exact ha
  | cons hm _ ih => exact ih (Rises.add ha (Rises.mul hm hm))

/-- The power of a reciprocal root rises as what it is the root of falls, down to zero but not to
it. -/
theorem pow_one_div_sqrt_le (h : Lawful root power) {a b z : Powered root power} (hz : 0 ≤ z)
    (hpos : 0 < b) (hle : b ≤ a) :
    Scalar.pow (1 / Scalar.sqrt a) z ≤ Scalar.pow (1 / Scalar.sqrt b) z := by
  have hroot : 0 < root b := h.root_pos hpos
  have hroots : root b ≤ root a := h.root_mono (le_of_lt (α := ℝ) hpos) hle
  exact h.power_mono hz (one_div_nonneg.2 (hroot.le.trans hroots))
    (one_div_le_one_div_of_le hroot hroots)

end Powered

end Roster
