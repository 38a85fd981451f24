import Roster.Proofs.Scalar.Laws

/-!
# Scalars whose arithmetic keeps the order

Rounded results are ordered as the exact ones are, so that sums and products of finite scalars rise
with their operands, and what is added or multiplied to them raises them, though neither is exact.
Saturation keeps the order too. So a sum does not fall where a term that is not below zero is put in
at any place, and a product of amounts does not where a factor is that is not below one.
-/

namespace Roster

open Scalar LawfulOrder

/-- The laws of scalars whose rounded arithmetic keeps the order of finite operands. -/
class OrderedScalar (α : Type) [Scalar α] : Prop extends LawfulScalar α where
  add_le_add {a b c d : α} :
    Finite a → Finite b → Finite c → Finite d → a ≤ b → c ≤ d → a + c ≤ b + d
  le_add {a b : α} : Finite a → Finite b → 0 ≤ b → a ≤ a + b
  mul_comm (a b : α) : a * b = b * a
  mul_le_mul_right {a b c : α} : Finite a → Finite b → Finite c → a ≤ b → 0 ≤ c → a * c ≤ b * c
  mul_le_mul_of_nonpos {a b c : α} :
    Finite a → Finite b → Finite c → a ≤ b → c ≤ 0 → b * c ≤ a * c
  le_mul {a b : α} : Amount a → Finite b → 1 ≤ b → a ≤ a * b
  /-- A share of a finite value is finite. -/
  finite_mul_of_le_one {a b : α} : Finite a → 0 ≤ b → b ≤ 1 → Finite (a * b)
  sub_one_le_sub_one {a b : α} : Finite a → Finite b → a ≤ b → a - 1 ≤ b - 1
  one_sub_one : (1 : α) - 1 = 0
  finite_sub_one {a : α} : Amount a → Scalar.Finite (a - 1)
  /-- A multiplier may be infinite. -/
  saturate_mul_le {a b c : α} :
    0 ≤ a → Amount b → Amount c → b ≤ c → saturate (a * b) ≤ saturate (a * c)

namespace Scalar

variable {α : Type} [Scalar α]

section Order

variable [LawfulOrder α] {a b : α}

/-! ### Saturation and clamping -/

/-- Saturation keeps the order. -/
theorem saturate_mono (h : a ≤ b) : saturate a ≤ saturate b := by
  have ha := le_self_of_le_left h
  have hb := le_self_of_le_right h
  by_cases hhigh : greatest < b
  · have hsaturated : saturate b = greatest := by
      rw [saturate, if_neg (not_not.2 hb), if_pos hhigh]
    rw [hsaturated]
    exact (finite_saturate a).2
  · by_cases hlow : a < -greatest
    · have hsaturated : saturate a = -greatest := by
        have hle : a ≤ greatest :=
          le_trans (le_of_lt hlow) (le_trans neg_greatest_le_zero zero_le_greatest)
        rw [saturate, if_neg (not_not.2 ha), if_neg (not_lt_of_le hle), if_pos hlow]
      rw [hsaturated]
      exact (finite_saturate b).1
    · have hneg : -(greatest : α) ≤ -greatest := le_self_of_le_left neg_greatest_le_zero
      have hbg : b ≤ greatest := le_of_not_lt finite_greatest.le_self hb hhigh
      have hga : -greatest ≤ a := le_of_not_lt ha hneg hlow
      rwa [saturate_of_finite ⟨hga, le_trans h hbg⟩, saturate_of_finite ⟨le_trans hga h, hbg⟩]

/-- What is not above a finite value is not above it either after saturation. -/
theorem le_saturate (ha : Finite a) (h : a ≤ b) : a ≤ saturate b := by
  have := saturate_mono h
  rwa [saturate_of_finite ha] at this

theorem smaller_mono {c : α} (hc : c ≤ c) (h : a ≤ b) : smaller c a ≤ smaller c b := by
  have ha := le_self_of_le_left h
  have hb := le_self_of_le_right h
  unfold smaller
  by_cases hbc : b < c
  · have hac : a < c := lt_iff.2 ⟨le_trans h (le_of_lt hbc), fun hca =>
      (lt_iff.1 hbc).2 (le_trans hca h)⟩
    rwa [if_pos hbc, if_pos hac]
  · rw [if_neg hbc]
    split
    · exact le_of_lt ‹_›
    · exact hc

theorem larger_mono {c : α} (hc : c ≤ c) (h : a ≤ b) : larger c a ≤ larger c b := by
  have hb := le_self_of_le_right h
  unfold larger
  by_cases hca : c < a
  · rwa [if_pos hca, if_pos (lt_of_lt_of_le hca h)]
  · rw [if_neg hca]
    split
    · exact le_of_lt ‹_›
    · exact hc

theorem clamp_mono (h : a ≤ b) : clamp a 0 1 ≤ clamp b 0 1 :=
  larger_mono zero_le_zero (smaller_mono one_le_one h)

/-! ### Sums -/

theorem finite_foldl_add (terms : List α) (h : Finite a) :
    Finite (terms.foldl (fun sum x => saturate (sum + x)) a) := by
  induction terms generalizing a with
  | nil => exact h
  | cons x xs ih => exact ih (finite_saturate _)

end Order

variable [OrderedScalar α] {a b : α}

open OrderedScalar

/-- A sum rises with its start. -/
theorem foldl_add_mono {terms : List α} (ht : ∀ x ∈ terms, Finite x) (ha : Finite a) (hb : Finite b)
    (h : a ≤ b) :
    terms.foldl (fun sum x => saturate (sum + x)) a ≤
      terms.foldl (fun sum x => saturate (sum + x)) b := by
  induction terms generalizing a b with
  | nil => exact h
  | cons x xs ih =>
    obtain ⟨hx, hxs⟩ := List.forall_mem_cons.1 ht
    have hstep : saturate (a + x) ≤ saturate (b + x) :=
      saturate_mono (add_le_add ha hb hx hx h hx.le_self)
    exact ih hxs (finite_saturate _) (finite_saturate _) hstep

/-- A sum does not fall where a term that is not below zero is put in. -/
theorem sum_le_sum_insert {before after : List α} {x : α} (hafter : ∀ y ∈ after, Finite y)
    (hx : Finite x) (h : 0 ≤ x) : sum (before ++ after) ≤ sum (before ++ x :: after) := by
  have hstart : Finite (sum before) := finite_foldl_add before finite_zero
  have hstep : sum before ≤ saturate (sum before + x) := le_saturate hstart (le_add hstart hx h)
  unfold sum at *
  rw [List.foldl_append, List.foldl_append]
  exact foldl_add_mono hafter hstart (finite_saturate _) hstep

section Insert

variable {β : Type} {e : β → Option α} {t : β}

/-- So it does not where something is put in that stands for such a term, or for none. -/
theorem sum_filterMap_insert (he : ∀ t x, e t = some x → Finite x) (ht : ∀ x, e t = some x → 0 ≤ x)
    (before after : List β) :
    sum ((before ++ after).filterMap e) ≤ sum ((before ++ t :: after).filterMap e) := by
  rw [List.filterMap_append, List.filterMap_append]
  cases h : e t with
  | none =>
    rw [List.filterMap_cons_none h]
    exact (finite_foldl_add _ finite_zero).le_self
  | some x =>
    rw [List.filterMap_cons_some h]
    refine sum_le_sum_insert (fun y hy => ?_) (he t x h) (ht x h)
    obtain ⟨t', -, hy⟩ := List.mem_filterMap.1 hy
    exact he t' y hy

end Insert

/-! ### Products -/

/-- A product of amounts rises with its start. -/
theorem productFrom_mono {factors : List α} (hf : ∀ x ∈ factors, Amount x) (ha : Amount a)
    (hb : Amount b) (h : a ≤ b) : productFrom a factors ≤ productFrom b factors := by
  induction factors generalizing a b with
  | nil => exact h
  | cons x xs ih =>
    obtain ⟨hx, hxs⟩ := List.forall_mem_cons.1 hf
    have hstep : saturate (a * x) ≤ saturate (b * x) :=
      saturate_mono (mul_le_mul_right ha.finite hb.finite hx.finite h hx.nonneg)
    rw [productFrom_cons, productFrom_cons]
    exact ih hxs (amount_saturate (LawfulScalar.not_neg_mul ha.not_neg hx.not_neg))
      (amount_saturate (LawfulScalar.not_neg_mul hb.not_neg hx.not_neg)) hstep

/-- A product of amounts does not fall where a factor that is not below one is put in. -/
theorem product_le_product_insert {before after : List α} {x : α}
    (hbefore : ∀ y ∈ before, Amount y) (hafter : ∀ y ∈ after, Amount y) (hx : Amount x)
    (h : 1 ≤ x) : product (before ++ after) ≤ product (before ++ x :: after) := by
  have hstart : Amount (product before) := amount_product fun y hy => (hbefore y hy).not_neg
  have hstep : product before ≤ saturate (product before * x) :=
    le_saturate hstart.finite (le_mul hstart hx.finite h)
  have hnext : Amount (saturate (product before * x)) :=
    amount_saturate (LawfulScalar.not_neg_mul hstart.not_neg hx.not_neg)
  unfold product at *
  rw [productFrom_append, productFrom_append, productFrom_cons]
  exact productFrom_mono hafter hstart hnext hstep

section Insert

variable {β : Type} {e : β → Option α} {t : β}

theorem product_filterMap_insert (he : ∀ t x, e t = some x → Amount x)
    (ht : ∀ x, e t = some x → 1 ≤ x) (before after : List β) :
    product ((before ++ after).filterMap e) ≤ product ((before ++ t :: after).filterMap e) := by
  have hamount (l : List β) : ∀ y ∈ l.filterMap e, Amount y := by
    intro y hy
    obtain ⟨t', -, hy⟩ := List.mem_filterMap.1 hy
    exact he t' y hy
  rw [List.filterMap_append, List.filterMap_append]
  cases h : e t with
  | none =>
    rw [List.filterMap_cons_none h]
    exact (finite_product _).le_self
  | some x =>
    rw [List.filterMap_cons_some h]
    exact product_le_product_insert (hamount before) (hamount after) (he t x h) (ht x h)

end Insert

/-! ### Shares of what a value has above one -/

section Share

variable {share share' value value' : α}

theorem mul_le_mul_left {c : α} (hc : Finite c) (ha : Finite a) (hb : Finite b) (h : a ≤ b)
    (h₀ : 0 ≤ c) : c * a ≤ c * b := by
  rw [OrderedScalar.mul_comm c a, OrderedScalar.mul_comm c b]
  exact mul_le_mul_right ha hb hc h h₀

theorem finite_share (h₀ : 0 ≤ share) (h₁ : share ≤ 1) (h : Finite value) :
    Finite (share * value) := by
  rw [OrderedScalar.mul_comm]
  exact finite_mul_of_le_one h h₀ h₁

/-- One and a share of what a value has above one, or lacks of it. -/
def weighed (share value : α) : α := saturate (1 + share * (value - 1))

theorem one_add_mono (ha : Finite a) (hb : Finite b) (h : a ≤ b) :
    saturate (1 + a) ≤ saturate (1 + b) :=
  saturate_mono (add_le_add amount_one.finite amount_one.finite ha hb one_le_one h)

variable (h₀ : 0 ≤ share) (h₁ : share' ≤ 1) (h : share ≤ share') (hv : Amount value)

include h₀ h₁ h hv in
/-- A greater share of a value above one is worth no less. -/
theorem weighed_mono_share (hone : 1 ≤ value) : weighed share value ≤ weighed share' value := by
  have hpred := finite_sub_one hv
  have habove : 0 ≤ value - 1 := by
    rw [← one_sub_one (α := α)]
    exact sub_one_le_sub_one amount_one.finite hv.finite hone
  have hshare := amount_of_le_one h₀ (le_trans h h₁)
  have hshare' := amount_of_le_one (le_trans h₀ h) h₁
  refine one_add_mono (finite_share h₀ (le_trans h h₁) hpred)
    (finite_share (le_trans h₀ h) h₁ hpred) ?_
  exact mul_le_mul_right hshare.finite hshare'.finite hpred h habove

include h₀ h₁ h hv in
/-- A greater share of a value below one is worth no more. -/
theorem weighed_antitone_share (hone : value ≤ 1) :
    weighed share' value ≤ weighed share value := by
  have hpred := finite_sub_one hv
  have hbelow : value - 1 ≤ 0 := by
    rw [← one_sub_one (α := α)]
    exact sub_one_le_sub_one hv.finite amount_one.finite hone
  have hshare := amount_of_le_one h₀ (le_trans h h₁)
  have hshare' := amount_of_le_one (le_trans h₀ h) h₁
  refine one_add_mono (finite_share (le_trans h₀ h) h₁ hpred)
    (finite_share h₀ (le_trans h h₁) hpred) ?_
  exact mul_le_mul_of_nonpos hshare.finite hshare'.finite hpred h hbelow

/-- A share of a greater value is worth no less. -/
theorem weighed_mono_value (h₀ : 0 ≤ share) (h₁ : share ≤ 1) (hv : Amount value)
    (hv' : Amount value') (h : value ≤ value') : weighed share value ≤ weighed share value' := by
  have hpred := finite_sub_one hv
  have hpred' := finite_sub_one hv'
  refine one_add_mono (finite_share h₀ h₁ hpred) (finite_share h₀ h₁ hpred') ?_
  have hsub := sub_one_le_sub_one hv.finite hv'.finite h
  exact mul_le_mul_left (amount_of_le_one h₀ h₁).finite hpred hpred' hsub h₀

end Share

end Scalar

end Roster
