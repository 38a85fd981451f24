import Roster.Proofs.Potentials.Monotone

/-!
# The rank of two sides

In exact arithmetic a rank is a share of the weighted sum of two sides: all of it where they are
equal, never less than 88 %. It rises strictly with either side, and only two sides of nothing have
no rank. Sides that lie in the finite range leave nothing to be brought back there.
-/

namespace Roster

/-! ### What unevenness leaves of a sum -/

section Evened

variable {w v a b : ℝ}

theorem evenness_le_one (ha : 0 ≤ a) : evenness a b ≤ 1 := by
  unfold evenness
  split
  · exact le_rfl
  · exact div_le_one_of_le₀ min_le_max (le_max_of_le_left ha)

theorem evenness_eq_one_iff (ha : 0 ≤ a) (hb : 0 ≤ b) : evenness a b = 1 ↔ a = b := by
  rcases lt_trichotomy a b with hlt | rfl | hlt
  · have hpos : 0 < b := ha.trans_lt hlt
    rw [evenness_of_le hpos hlt.le, div_eq_one_iff_eq hpos.ne']
  · refine iff_of_true ?_ rfl
    unfold evenness
    rw [max_self, min_self]
    split
    · rfl
    · exact div_self ‹_›
  · have hpos : 0 < a := hb.trans_lt hlt
    rw [evenness_of_ge hpos hlt.le, div_eq_one_iff_eq hpos.ne', eq_comm]

/-- What two numbers lose to being uneven. -/
theorem sub_evened (w v a b : ℝ) :
    w * a + v * b - evened w v a b = (w * a + v * b) * (0.12 * (1 - evenness a b)) := by
  unfold evened
  ring

variable (hw : 0 < w) (hv : 0 < v) (ha : 0 ≤ a) (hb : 0 ≤ b)

include hw hv ha hb

theorem sum_nonneg_of_sides : 0 ≤ w * a + v * b :=
  add_nonneg (mul_nonneg hw.le ha) (mul_nonneg hv.le hb)

theorem evened_le_sum : evened w v a b ≤ w * a + v * b := by
  have hloss : 0 ≤ (w * a + v * b) * (0.12 * (1 - evenness a b)) := by
    have hsum := sum_nonneg_of_sides hw hv ha hb
    have hrest : 0 ≤ 1 - evenness a b := sub_nonneg.2 (evenness_le_one ha)
    positivity
  rw [← sub_evened] at hloss
  linarith

theorem share_le_evened : 0.88 * (w * a + v * b) ≤ evened w v a b := by
  have hkept : 0 ≤ (w * a + v * b) * (0.12 * evenness a b) := by
    have hsum := sum_nonneg_of_sides hw hv ha hb
    have heven := evenness_nonneg ha hb
    positivity
  unfold evened
  linarith

theorem sum_eq_zero_iff : w * a + v * b = 0 ↔ a = 0 ∧ b = 0 := by
  rw [add_eq_zero_iff_of_nonneg (mul_nonneg hw.le ha) (mul_nonneg hv.le hb),
    mul_eq_zero_iff_left hw.ne', mul_eq_zero_iff_left hv.ne']

theorem evened_eq_zero_iff : evened w v a b = 0 ↔ a = 0 ∧ b = 0 := by
  rw [← sum_eq_zero_iff hw hv ha hb]
  have hsum := sum_nonneg_of_sides hw hv ha hb
  have hlow := share_le_evened hw hv ha hb
  have hhigh := evened_le_sum hw hv ha hb
  constructor
  · intro h
    linarith
  · intro h
    rw [h] at hlow hhigh
    linarith

/-- Nothing is lost only where there is nothing or both are equal, and where there is nothing they
are equal too. -/
theorem evened_eq_sum_iff : evened w v a b = w * a + v * b ↔ a = b := by
  rw [← sub_eq_zero, ← neg_sub, neg_eq_zero, sub_evened]
  constructor
  · intro h
    rcases mul_eq_zero.1 h with hsum | hloss
    · obtain ⟨rfl, rfl⟩ := (sum_eq_zero_iff hw hv ha hb).1 hsum
      rfl
    · rw [← evenness_eq_one_iff ha hb]
      linarith
  · intro h
    rw [(evenness_eq_one_iff ha hb).2 h]
    ring

end Evened

namespace Potentials

/-! ### Ranks without bounds -/

section Unbounded

variable {α : Type} [Scalar α]

/-- The weighted sum of two sides, wherever it lies. -/
def unboundedRaw (offense defense : α) : α := 0.56 * offense + 0.44 * defense

/-- The rank of two sides, wherever it lies. -/
def unboundedRank (offense defense : α) : α :=
  unboundedRaw offense defense * (0.88 + 0.12 * balance offense defense)

/-- How a rank of two sides from a range stands to their weighted sum. -/
structure RankLaws (range : α → Prop) (raw rank : α → α → α) : Prop where
  offense {a a' b : α} : range a → range a' → range b → a < a' → rank a b < rank a' b
  defense {a b b' : α} : range a → range b → range b' → b < b' → rank a b < rank a b'
  atLeast {a b : α} : range a → range b → 0.88 * raw a b ≤ rank a b
  atMost {a b : α} : range a → range b → rank a b ≤ raw a b
  eq_raw_iff {a b : α} : range a → range b → (rank a b = raw a b ↔ a = b)
  /-- There is no rank exactly where the sides cannot be balanced. -/
  eq_zero_iff {a b : α} : range a → range b →
    (rank a b = 0 ↔ Scalar.IsZero (Scalar.larger a b))
  unbalanced_iff {a b : α} : range a → range b →
    (Scalar.IsZero (Scalar.larger a b) ↔ a = 0 ∧ b = 0)

/-- Ranks that are the same on a smaller range obey the same laws there. -/
theorem RankLaws.of_eq {range range' : α → Prop} {raw raw' rank rank' : α → α → α}
    (h : RankLaws range raw rank) (hrange : ∀ {a}, range' a → range a)
    (heq : ∀ {a b}, range' a → range' b → raw' a b = raw a b ∧ rank' a b = rank a b) :
    RankLaws range' raw' rank' where
  offense ha ha' hb hlt := by
    rw [(heq ha hb).2, (heq ha' hb).2]
    exact h.offense (hrange ha) (hrange ha') (hrange hb) hlt
  defense ha hb hb' hlt := by
    rw [(heq ha hb).2, (heq ha hb').2]
    exact h.defense (hrange ha) (hrange hb) (hrange hb') hlt
  atLeast ha hb := by
    rw [(heq ha hb).1, (heq ha hb).2]
    exact h.atLeast (hrange ha) (hrange hb)
  atMost ha hb := by
    rw [(heq ha hb).1, (heq ha hb).2]
    exact h.atMost (hrange ha) (hrange hb)
  eq_raw_iff ha hb := by
    rw [(heq ha hb).1, (heq ha hb).2]
    exact h.eq_raw_iff (hrange ha) (hrange hb)
  eq_zero_iff ha hb := by
    rw [(heq ha hb).2]
    exact h.eq_zero_iff (hrange ha) (hrange hb)
  unbalanced_iff ha hb := h.unbalanced_iff (hrange ha) (hrange hb)

end Unbounded

open Rooted

variable {root : ℝ → ℝ} {a b : Rooted root}

theorem unboundedRank_eq (a b : Rooted root) : unboundedRank a b = evened 0.56 0.44 a b := by
  unfold unboundedRank
  rw [balance_eq]
  rfl

theorem isZero_larger_iff (ha : 0 ≤ a) (hb : 0 ≤ b) :
    Scalar.IsZero (Scalar.larger a b) ↔ a = 0 ∧ b = 0 := by
  rw [isZero_iff, larger_eq]
  constructor
  · intro h
    exact ⟨le_antisymm (α := ℝ) ((le_max_left (α := ℝ) a b).trans_eq h) ha,
      le_antisymm (α := ℝ) ((le_max_right (α := ℝ) a b).trans_eq h) hb⟩
  · rintro ⟨rfl, rfl⟩
    exact max_self (α := ℝ) 0

theorem rankLaws_unbounded (root : ℝ → ℝ) :
    RankLaws (fun x : Rooted root => 0 ≤ x) unboundedRaw unboundedRank := by
  have hw : (0 : ℝ) < 0.56 := by norm_num
  have hv : (0 : ℝ) < 0.44 := by norm_num
  have hwv : (0.44 : ℝ) * 0.12 ≤ 0.56 * 0.88 := by norm_num
  have hvw : (0.56 : ℝ) * 0.12 ≤ 0.44 * 0.88 := by norm_num
  constructor
  · intro a a' b ha _ hb hlt
    rw [unboundedRank_eq, unboundedRank_eq]
    exact evened_lt_left hw hv.le hwv ha hlt hb
  · intro a b b' ha hb _ hlt
    rw [unboundedRank_eq, unboundedRank_eq]
    exact evened_lt_right hw.le hv hvw ha hb hlt
  · intro a b ha hb
    rw [unboundedRank_eq]
    exact share_le_evened hw hv ha hb
  · intro a b ha hb
    rw [unboundedRank_eq]
    exact evened_le_sum hw hv ha hb
  · intro a b ha hb
    rw [unboundedRank_eq]
    exact evened_eq_sum_iff hw hv ha hb
  · intro a b ha hb
    rw [unboundedRank_eq, isZero_larger_iff ha hb]
    exact evened_eq_zero_iff hw hv ha hb
  · intro a b ha hb
    exact isZero_larger_iff ha hb

/-- Neither a weighted sum of sides in the range nor a share of it leaves the range. -/
theorem ranks_eq_unbounded (ha : 0 ≤ a) (hal : a ≤ Scalar.greatest) (hb : 0 ≤ b)
    (hbl : b ≤ Scalar.greatest) :
    rawRank a b = unboundedRaw a b ∧ rankOf a b = unboundedRank a b := by
  have hw : (0 : ℝ) < 0.56 := by norm_num
  have hv : (0 : ℝ) < 0.44 := by norm_num
  have hmean {x y g : ℝ} (hx : x ≤ g) (hy : y ≤ g) : 0.56 * x + 0.44 * y ≤ g := by
    linarith
  have hrank : rankOf a b = _ := rankOf_eq ha hal hb hbl
  refine ⟨rawRank_eq ha hal hb hbl, ?_⟩
  rw [hrank, unboundedRank_eq]
  refine Saturation.bounded_of_mem ?_ ?_
  · exact (neg_nonpos.2 Exact.limit_pos.le).trans (evened_nonneg hw.le hv.le ha hb)
  · exact (evened_le_sum hw hv ha hb).trans (hmean hal hbl)

/-! ### A creature without stats -/

theorem product_of_zero_mem {fs : List (Rooted root)} (h : 0 ∈ fs) : Scalar.product fs = 0 :=
  (productFrom_eq 1 fs).trans (Saturation.boundedProduct_of_zero_mem Exact.limit_pos.le h 1)

theorem saturate_zero : Scalar.saturate (0 : Rooted root) = 0 :=
  (saturate_eq 0).trans
    (Saturation.bounded_of_mem (neg_nonpos.2 Exact.limit_pos.le) Exact.limit_pos.le)

theorem blend_zero : blend (0 : Rooted root) 0 = 0 := by
  have hzero : (0.75 : ℝ) * max 0 0 + 0.25 * ((0 + 0) / 2.0) = 0 := by norm_num
  unfold blend
  rw [larger_eq]
  exact (congrArg (Scalar.saturate (α := Rooted root)) hzero).trans saturate_zero

theorem baseOffense_zero : baseOffense (0 : Rooted root) 0 = 0 := by
  have hzero : (1 - 0.6 : ℝ) * 0 + 0.6 * 0 = 0 := by norm_num
  exact (congrArg (Scalar.saturate (α := Rooted root)) hzero).trans saturate_zero

theorem bulk_zero (hroot : root 0 = 0) (factor : Rooted root) : bulk 0 0 factor = 0 := by
  have hproduct : bulkProduct (0 : Rooted root) 0 = 0 := product_of_zero_mem List.mem_cons_self
  have hsqrt : Scalar.sqrt (0 : Rooted root) = 0 := hroot
  unfold bulk
  rw [hproduct, hsqrt]
  exact product_of_zero_mem List.mem_cons_self

theorem get_adjusted_const_zero (bundle : Bundle (Rooted root)) (stat : Stat) :
    (adjusted (.const 0) bundle).get stat = 0 := by
  have hzero (x : ℝ) : 0 * x = 0 := zero_mul x
  unfold adjusted
  rw [Stats.get_ofFn, Stats.get_const]
  exact (congrArg (Scalar.saturate (α := Rooted root)) (hzero _)).trans saturate_zero

/-- A creature without stats has nothing on either side. -/
theorem sides_const_zero (hroot : root 0 = 0) (bundle : Bundle (Rooted root)) (type1 : Int)
    (type2 : Option Int) (types : List TypeInfo) (chart : TypeChart (Rooted root))
    (settings : Settings (Rooted root)) :
    (ofBundle (.const 0) bundle type1 type2 types chart settings).offense = 0 ∧
      (ofBundle (.const 0) bundle type1 type2 types chart settings).defense = 0 := by
  have hget := get_adjusted_const_zero bundle
  have hspeed : (adjusted (.const 0) bundle).speed = 0 := hget .speed
  have hhp : (adjusted (.const 0) bundle).hp = 0 := hget .hp
  have hoffensive (stat : Stat) (rest : List (Rooted root)) :
      Scalar.product (baseOffense ((adjusted (.const 0) bundle).get stat)
        (adjusted (.const 0) bundle).speed :: rest) = 0 := by
    rw [hget, hspeed, baseOffense_zero]
    exact product_of_zero_mem List.mem_cons_self
  have hdefensive (stat : Stat) (factor : Rooted root) (rest : List (Rooted root)) :
      Scalar.product (bulk (adjusted (.const 0) bundle).hp
        ((adjusted (.const 0) bundle).get stat) factor :: rest) = 0 := by
    rw [hget, hhp, bulk_zero hroot]
    exact product_of_zero_mem List.mem_cons_self
  constructor
  · exact (congrArg₂ blend (hoffensive .attack _) (hoffensive .specialAttack _)).trans blend_zero
  · exact (congrArg₂ blend (hdefensive .defense _ _) (hdefensive .specialDefense _ _)).trans
      blend_zero

/-! ### The laws of ranks -/

/-- In exact arithmetic a rank rises strictly with either side, lies between 88 % of the weighted
sum and the sum, which it reaches where the sides are equal, and is zero where they cannot be
balanced, which is where both are zero. Sides in the finite range are never brought back into it, so
that all of this holds of the ranks that are computed, and of the mark that scores carry. -/
theorem rank_laws (root : ℝ → ℝ) :
    RankLaws (fun x : Rooted root => 0 ≤ x) unboundedRaw unboundedRank ∧
    (∀ a b : Rooted root, 0 ≤ a → a ≤ Scalar.greatest → 0 ≤ b → b ≤ Scalar.greatest →
      rawRank a b = unboundedRaw a b ∧ rankOf a b = unboundedRank a b) ∧
    RankLaws (fun x : Rooted root => 0 ≤ x ∧ x ≤ Scalar.greatest) rawRank rankOf ∧
    ∀ (stats : Stats (Rooted root)) (bundle : Bundle (Rooted root)) (type1 : Int)
      (type2 : Option Int) (types : List TypeInfo) (chart : TypeChart (Rooted root))
      (settings : Settings (Rooted root)) (p : Potentials (Rooted root)),
      p = ofBundle stats bundle type1 type2 types chart settings → 0 ≤ p.offense →
        0 ≤ p.defense → (p.unbalanced = true ↔ p.rank = 0) := by
  have hlaws : RankLaws (fun x : Rooted root => 0 ≤ x ∧ x ≤ Scalar.greatest) rawRank rankOf :=
    (rankLaws_unbounded root).of_eq And.left fun ha hb => ranks_eq_unbounded ha.1 ha.2 hb.1 hb.2
  refine ⟨rankLaws_unbounded root, fun a b => ranks_eq_unbounded, hlaws, ?_⟩
  rintro stats bundle type1 type2 types chart settings p rfl hoffense hdefense
  have hzero := hlaws.eq_zero_iff ⟨hoffense, blend_le_limit _ _⟩ ⟨hdefense, blend_le_limit _ _⟩
  exact decide_eq_true_iff.trans hzero.symm

/-- The second side raised to the first is worth more, and the sum is then reached. A creature
without stats has sides that cannot be balanced, and no rank. -/
theorem rank_laws_pair :
    rankOf (1.5 : Rooted Real.sqrt) 1 < rankOf (1.5 : Rooted Real.sqrt) 1.5 ∧
      rankOf (1.5 : Rooted Real.sqrt) 1.5 = rawRank 1.5 1.5 ∧
      rankOf (1.5 : Rooted Real.sqrt) 1 ≠ rawRank 1.5 1 ∧
      rankOf (1.5 : Rooted Real.sqrt) 1 ≠ 0 ∧
      rankOf (1.5 : Rooted Real.sqrt) 1 = unboundedRank 1.5 1 ∧
      let p : Potentials (Rooted Real.sqrt) :=
        ofBundle (.const 0) .identity 1 none [] ⟨[]⟩ .default
      p.unbalanced = true ∧ p.rank = 0 := by
  have hlimit := Exact.four_le_limit
  have hlimit₁ : (1 : ℝ) ≤ Exact.limit := by
    linarith
  have hlimit₂ : (1.5 : ℝ) ≤ Exact.limit := by
    linarith
  have hone : (0 : Rooted Real.sqrt) ≤ 1 ∧ 1 ≤ (Scalar.greatest : Rooted Real.sqrt) :=
    ⟨LawfulOrder.zero_le_one, hlimit₁⟩
  have hmore : (0 : Rooted Real.sqrt) ≤ 1.5 ∧ 1.5 ≤ (Scalar.greatest : Rooted Real.sqrt) :=
    ⟨show (0 : ℝ) ≤ 1.5 by norm_num, hlimit₂⟩
  have hlt : (1 : Rooted Real.sqrt) < 1.5 := show (1 : ℝ) < 1.5 by norm_num
  have hsides := sides_const_zero Real.sqrt_zero .identity 1 none [] ⟨[]⟩ .default
  have hoffense := le_of_eq (α := ℝ) hsides.1.symm
  have hdefense := le_of_eq (α := ℝ) hsides.2.symm
  have hunbalanced := decide_eq_true ((isZero_larger_iff hoffense hdefense).2 hsides)
  obtain ⟨-, hranks, hlaws, hmark⟩ := rank_laws Real.sqrt
  refine ⟨hlaws.defense hmore hone hmore hlt, (hlaws.eq_raw_iff hmore hmore).2 rfl, fun h => ?_,
    fun h => ?_, (hranks _ _ hmore.1 hmore.2 hone.1 hone.2).2, hunbalanced, ?_⟩
  · exact ne_of_gt (α := ℝ) hlt ((hlaws.eq_raw_iff hmore hone).1 h)
  · exact one_ne_zero (α := ℝ)
      ((hlaws.unbalanced_iff hmore hone).1 ((hlaws.eq_zero_iff hmore hone).1 h)).2
  · exact (hmark _ _ _ _ _ _ _ _ rfl hoffense hdefense).1 hunbalanced

end Potentials

end Roster
