import Roster.Proofs.Double.Commuting
import Roster.Proofs.Scalar.Ordered

/-!
# Doubles keep the order

A result of finite doubles is the nearest double to the exact one, and of two exact results the
greater has no lesser nearest double. So their arithmetic keeps the order.
-/

namespace Roster.Double

open Scalar

variable {pow : Float → Float → Float} {x y z : Float} {a b : ℤ}

/-! ### Rounded results -/

/-- What is rounded from a greater number is no less. -/
theorem le_of_rounded {v w : ℝ} (hx : value x = some (capped (rounded v)))
    (hy : value y = some (capped (rounded w))) (h : v ≤ w) : x ≤ y :=
  le_iff.2 ⟨_, _, hx, hy, capped_mono (rounded_mono h)⟩

/-- A finite double is rounded from its own value. -/
theorem value_eq_rounded (h : HasValue x a) : value x = some (capped (rounded a)) := by
  rw [capped_rounded_value (canonical x) h.value h.neg_top_lt h.lt_top]
  exact h.value

theorem HasValue.cast_le (hx : HasValue x a) (hy : HasValue y b) (h : x ≤ y) : (a : ℝ) ≤ b := by
  obtain ⟨c, d, hc, hd, hle⟩ := le_iff.1 h
  obtain rfl := Option.some.inj (hx.value.symm.trans hc)
  obtain rfl := Option.some.inj (hy.value.symm.trans hd)
  exact_mod_cast hle

theorem HasValue.cast_nonneg (hx : HasValue x a) (h : 0 ≤ x) : (0 : ℝ) ≤ a := by
  have := hasValue_zero.cast_le hx h
  rwa [Int.cast_zero] at this

/-! ### Infinite multipliers -/

/-- A double that is not below zero is infinite or finite. -/
theorem infinite_or_hasValue (h : 0 ≤ x) :
    x.toModel.unpack = .infinity .positive ∨ ∃ a, HasValue x a := by
  rcases not_neg_cases (not_lt_of_le h) with hx | hx | ⟨a, ha, -⟩
  · obtain ⟨_, a, -, ha, -⟩ := le_iff.1 h
    unfold value at ha
    rw [hx] at ha
    cases ha
  · exact Or.inl hx
  · exact Or.inr ⟨a, ha⟩

/-- An infinite multiple is beyond the finite range, unless it is of zero. -/
theorem greatest_lt_mul (hx : x.toModel.unpack = .infinity .positive) (hy : HasValue y b)
    (h : 0 < b) : Scalar.greatest < x * y := by
  have hunpack : (x * y).toModel.unpack = .infinity .positive := by
    rw [unpack_mul, hx]
    have hnot : ¬ y < 0 := not_lt_zero_iff.2 fun c hc => by
      obtain rfl := Option.some.inj (hy.value.symm.trans hc)
      exact h.le
    rcases unpack_neg_cases hnot hy with ⟨s, hs⟩ | ⟨m, e, hm, hs⟩
    · have hzero : value y = some 0 := by
        unfold value
        rw [hs]
        rfl
      have := Option.some.inj (hzero.symm.trans hy.value)
      omega
    · rw [hs]
      exact repacked_infinity _
  refine lt_iff.2 ⟨_, top, hasValue_greatest.value, ?_, hasValue_greatest.lt_top⟩
  unfold value
  rw [hunpack]
  rfl

/-- An infinite multiple of zero is no number, and is brought back to zero. -/
theorem saturate_mul_of_zero (hx : x.toModel.unpack = .infinity .positive) (hy : HasValue y 0) :
    saturate (x * y) = 0 := by
  obtain ⟨s, hs⟩ := unpack_of_value_eq_zero hy.value
  have hnone : value (x * y) = none := by
    unfold value
    rw [unpack_mul, hx, hs]
    exact congrArg unpackedValue repacked_notANumber
  refine if_pos fun hle => ?_
  obtain ⟨c, _, hc, -, -⟩ := le_iff.1 hle
  exact Option.some_ne_none c (hc.symm.trans hnone)

theorem saturate_eq_greatest (h : Scalar.greatest < x) : saturate x = Scalar.greatest := by
  have hx : x ≤ x := LawfulOrder.le_self_of_le_right (le_of_lt h)
  rw [saturate, if_neg (not_not.2 hx), if_pos h]

/-! ### The laws -/

theorem mul_le_mul_right (hx : Scalar.Finite x) (hy : Scalar.Finite y) (hz : Scalar.Finite z)
    (h : x ≤ y) (h₀ : 0 ≤ z) : x * z ≤ y * z := by
  obtain ⟨a, ha⟩ := finite_iff.1 hx
  obtain ⟨b, hb⟩ := finite_iff.1 hy
  obtain ⟨c, hc⟩ := finite_iff.1 hz
  have hunit : (0 : ℝ) < unit := Int.cast_pos.2 unit_pos
  refine le_of_rounded (value_mul ha hc) (value_mul hb hc) ?_
  have hmul := mul_le_mul_of_nonneg_right (ha.cast_le hb h) (hc.cast_nonneg h₀)
  exact div_le_div_of_nonneg_right hmul hunit.le

/-- A greater factor makes no less of a multiplier, be it infinite. -/
theorem saturate_mul_le (hx : 0 ≤ x) (hy : Amount y) (hz : Amount z) (h : y ≤ z) :
    saturate (x * y) ≤ saturate (x * z) := by
  obtain ⟨b, hb⟩ := finite_iff.1 hy.finite
  obtain ⟨c, hc⟩ := finite_iff.1 hz.finite
  rcases infinite_or_hasValue hx with hinfinite | hfinite
  · have hc₀ : 0 ≤ c := by exact_mod_cast hc.cast_nonneg hz.nonneg
    rcases hc₀.eq_or_lt with rfl | hpos
    · have hb₀ : b = 0 := by
        have hlow : 0 ≤ b := by exact_mod_cast hb.cast_nonneg hy.nonneg
        have hhigh : b ≤ 0 := by exact_mod_cast hb.cast_le hc h
        omega
      rw [saturate_mul_of_zero hinfinite (hb₀ ▸ hb), saturate_mul_of_zero hinfinite hc]
      exact zero_le_zero
    · rw [saturate_eq_greatest (greatest_lt_mul hinfinite hc hpos)]
      exact (finite_saturate _).2
  · rw [mul_comm x y, mul_comm x z]
    exact saturate_mono (mul_le_mul_right hy.finite hz.finite (finite_iff.2 hfinite) h hx)

instance : OrderedScalar (Double pow) where
  toLawfulScalar := inferInstance
  add_le_add := fun {x y z w} hx hy hz hw h h' => by
    obtain ⟨a, ha⟩ := finite_iff.1 hx
    obtain ⟨b, hb⟩ := finite_iff.1 hy
    obtain ⟨c, hc⟩ := finite_iff.1 hz
    obtain ⟨d, hd⟩ := finite_iff.1 hw
    exact le_of_rounded (value_add ha hc) (value_add hb hd)
      (add_le_add (ha.cast_le hb h) (hc.cast_le hd h'))
  le_add := fun {x y} hx hy h => by
    obtain ⟨a, ha⟩ := finite_iff.1 hx
    obtain ⟨b, hb⟩ := finite_iff.1 hy
    exact le_of_rounded (value_eq_rounded ha) (value_add ha hb)
      (le_add_of_nonneg_right (hb.cast_nonneg h))
  mul_comm := mul_comm
  mul_le_mul_right := mul_le_mul_right
  mul_le_mul_of_nonpos := fun {x y z} hx hy hz h h₀ => by
    obtain ⟨a, ha⟩ := finite_iff.1 hx
    obtain ⟨b, hb⟩ := finite_iff.1 hy
    obtain ⟨c, hc⟩ := finite_iff.1 hz
    have hunit : (0 : ℝ) < unit := Int.cast_pos.2 unit_pos
    have hc₀ : (c : ℝ) ≤ 0 := by
      have := hc.cast_le hasValue_zero h₀
      rwa [Int.cast_zero] at this
    refine le_of_rounded (value_mul hb hc) (value_mul ha hc) ?_
    exact div_le_div_of_nonneg_right (mul_le_mul_of_nonpos_right (ha.cast_le hb h) hc₀) hunit.le
  le_mul := fun {x y} hx hy h => by
    obtain ⟨a, ha⟩ := finite_iff.1 hx.finite
    obtain ⟨b, hb⟩ := finite_iff.1 hy
    have hunit : (0 : ℝ) < unit := Int.cast_pos.2 unit_pos
    refine le_of_rounded (value_eq_rounded ha) (value_mul ha hb) ?_
    rw [le_div_iff₀ hunit]
    exact mul_le_mul_of_nonneg_left (hasValue_one.cast_le hb h) (ha.cast_nonneg hx.nonneg)
  finite_mul_of_le_one := finite_mul_of_le_one
  sub_one_le_sub_one := fun {x y} hx hy h => by
    obtain ⟨a, ha⟩ := finite_iff.1 hx
    obtain ⟨b, hb⟩ := finite_iff.1 hy
    exact le_of_rounded (value_sub_one ha) (value_sub_one hb)
      (sub_le_sub_right (ha.cast_le hb h) _)
  one_sub_one := show (1 : Float) - 1 = 0 by decide +kernel
  finite_sub_one := fun {x} hx => by
    obtain ⟨a, ha⟩ := finite_iff.1 hx.finite
    obtain ⟨d, hd, -⟩ := exists_hasValue_sub_one ha (by exact_mod_cast ha.cast_nonneg hx.nonneg)
    exact finite_iff.2 ⟨d, hd⟩
  saturate_mul_le := fun hx hy hz h =>
    saturate_mul_le hx ⟨hy.finite, hy.nonneg⟩ ⟨hz.finite, hz.nonneg⟩ h

instance : OrderedScalar Float := inferInstanceAs (OrderedScalar (Double Float.pow))

end Roster.Double
