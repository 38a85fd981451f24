import Mathlib.Tactic.FieldSimp
import Roster.Proofs.Double.Value

/-!
# Arithmetic on doubles

Sums, products, quotients and roots of finite doubles have the value nearest to the exact result,
and are infinite where that lies beyond the finite doubles.
-/

namespace Roster.Double

open Float.Model (Format UnpackedFloat totalExponent)
open Float.Model.UnpackedFloat

/-- A canonical double that is neither infinite nor undefined is a zero or has digits. -/
theorem finite_cases {u : UnpackedFloat} {x : ℤ} (hc : Canonical u)
    (hv : unpackedValue u = some x) (hl : -top < x) (hu : x < top) :
    (x = 0 ∧ ∃ s, u = .zero s) ∨
      ∃ s m k hm, u = .finite s m ((k : ℕ) - 1074) hm ∧ Digits m k ∧ k ≤ greatestLoss ∧
        x = s.apply (m * 2 ^ k : ℕ) := by
  cases u with
  | notANumber => cases hv
  | infinity s =>
    obtain rfl := Option.some.inj hv
    cases s <;> simp only [Sign.apply] at hl hu <;> omega
  | zero s => exact Or.inl ⟨(Option.some.inj hv).symm, s, rfl⟩
  | finite s m e hm =>
    obtain ⟨k, rfl, hd, hk, hv', -, -⟩ := hc.value
    exact Or.inr ⟨s, m, k, hm, rfl, hd, hk, Option.some.inj (hv.symm.trans hv')⟩

theorem apply_rounded (s : Sign) (w : ℝ) : s.apply (rounded w) = rounded ((s.apply 1 : ℤ) * w) := by
  cases s
  · simp only [Sign.apply, Int.reduceNeg, Int.cast_neg, Int.cast_one, neg_one_mul, rounded_neg]
  · rw [Sign.apply, Sign.apply, Int.cast_one, one_mul]

/-- The value of a double is not changed by rounding. -/
theorem capped_rounded_value {u : UnpackedFloat} {x : ℤ} (hc : Canonical u)
    (hv : unpackedValue u = some x) (hl : -top < x) (hu : x < top) :
    capped (rounded x) = x := by
  rcases finite_cases hc hv hl hu with ⟨rfl, -⟩ | ⟨s, m, k, hm, -, hd, -, rfl⟩
  · have := top_pos
    rw [Int.cast_zero, rounded_of_nonneg le_rfl, magnitude_zero]
    exact capped_of_abs_le (by omega) (by omega)
  · have hr : rounded ((m * 2 ^ k : ℕ) : ℝ) = (m * 2 ^ k : ℕ) := by
      rw [rounded_of_nonneg (by positivity), magnitude_natCast hd.lt]
    rw [apply_eq_mul, Int.cast_mul, Int.cast_natCast, ← apply_rounded, hr, ← apply_eq_mul]
    exact capped_of_abs_le hl.le hu.le

theorem apply_capped (s : Sign) (n : ℤ) : s.apply (capped n) = capped (s.apply n) := by
  cases s
  · exact (capped_neg n).symm
  · rfl

/-- Rounding a mantissa without residual bits, with either sign. -/
theorem unpackedValue_round_exact (s : Sign) {m : ℕ} {e : ℤ}
    (hwide : 52 ≤ m.log2 ∨ e ≤ -1074) {x : ℝ} (hx : x = s.apply m * 2 ^ (e + 1074)) :
    unpackedValue (repacked (roundWithAccuracy Format.binary64 s m e .exact)) =
      some (capped (rounded x)) := by
  have hw : (m : ℝ) = (m * 2 ^ (e + 1074) : ℝ) / 2 ^ (e + 1074) := by
    rw [mul_div_cancel_right₀ _ (by positivity)]
  rw [unpackedValue_round s (w := m * 2 ^ (e + 1074)) (by positivity) (hw ▸ Tracks.exact m) hwide,
    apply_capped, apply_rounded, hx, apply_eq_mul s m, Int.cast_mul, Int.cast_natCast, mul_assoc]

/-- The product of finite doubles. -/
theorem unpackedValue_mul {a b : UnpackedFloat} {x y : ℤ} (ha : Canonical a) (hb : Canonical b)
    (hx : unpackedValue a = some x) (hy : unpackedValue b = some y)
    (hx' : -top < x ∧ x < top) (hy' : -top < y ∧ y < top) :
    unpackedValue (repacked (UnpackedFloat.mul Format.binary64 a b)) =
      some (capped (rounded (x * y / unit))) := by
  have hzero : capped (rounded 0) = 0 := by
    have := top_pos
    rw [rounded_of_nonneg le_rfl, magnitude_zero]
    exact capped_of_abs_le (by omega) (by omega)
  rcases finite_cases ha hx hx'.1 hx'.2 with ⟨rfl, s, rfl⟩ | ⟨s, m, j, hm, rfl, hd, hj, rfl⟩
  · have : ∃ r, UnpackedFloat.mul Format.binary64 (.zero s) b = .zero r := by
      rcases finite_cases hb hy hy'.1 hy'.2 with ⟨-, t, rfl⟩ | ⟨t, n, k, hn, rfl, -⟩
      · exact ⟨_, rfl⟩
      · exact ⟨_, rfl⟩
    obtain ⟨r, hr⟩ := this
    rw [hr, repacked_zero, Int.cast_zero, zero_mul, zero_div, hzero]
    rfl
  · rcases finite_cases hb hy hy'.1 hy'.2 with ⟨rfl, t, rfl⟩ | ⟨t, n, k, hn, rfl, hd', hk, rfl⟩
    · change unpackedValue (repacked (.zero _)) = _
      rw [repacked_zero, Int.cast_zero, mul_zero, zero_div, hzero]
      rfl
    · change unpackedValue (repacked (roundWithAccuracy _ (s * t) (m * n) _ _)) = _
      refine unpackedValue_round_exact (s * t) ?_ ?_
      · by_cases hfull : 2 ^ 52 ≤ m * n
        · exact Or.inl ((Nat.le_log2 (by positivity)).2 hfull)
        · have hm₀ : j = 0 := hd.full.resolve_right fun h =>
            hfull (h.trans (Nat.le_mul_of_pos_right m hn))
          have hn₀ : k = 0 := hd'.full.resolve_right fun h =>
            hfull (h.trans (Nat.le_mul_of_pos_left n hm))
          right
          omega
      · rw [← Int.cast_mul, ← apply_mul, apply_eq_mul, apply_eq_mul _ ((m * n : ℕ) : ℤ),
          zpow_add_unit, zpow_add₀ (by norm_num), zpow_sub_unit, zpow_sub_unit]
        have := unit_ne_zero
        simp only [zpow_natCast]
        push_cast
        field_simp

theorem log2_shiftLeft {m : ℕ} (hm : m ≠ 0) (d : ℕ) : (m <<< d).log2 = m.log2 + d := by
  induction d with
  | zero => rfl
  | succ d ih =>
    have hd : m <<< d ≠ 0 := by
      rw [Nat.shiftLeft_eq]
      positivity
    rw [Nat.shiftLeft_succ, Nat.mul_comm, Nat.log2_eq_log_two,
      Nat.log_mul_base one_lt_two hd, ← Nat.log2_eq_log_two, ih, Nat.add_assoc]

/-- A mantissa that is shifted to the left stands for the same number with a lower exponent. -/
theorem apply_shiftLeft (s : Sign) (m : ℕ) {j k : ℕ} (h : j ≤ k) :
    ((s.apply (m <<< (k - j) : ℕ) : ℤ) : ℝ) * 2 ^ j = (s.apply (m * 2 ^ k : ℕ) : ℤ) := by
  rw [Nat.shiftLeft_eq, apply_eq_mul, apply_eq_mul s ((m * 2 ^ k : ℕ) : ℤ)]
  push_cast
  rw [mul_assoc, mul_assoc, ← pow_add, Nat.sub_add_cancel h]

/-- Rounding of a mantissa that may be too short for the format. -/
theorem unpackedValue_round_of_short (s : Sign) {m : ℕ} (hm : m ≠ 0) (e : ℤ) {x : ℝ}
    (hx : x = s.apply m * 2 ^ (e + 1074)) :
    unpackedValue (repacked (round Format.binary64 s m e)) = some (capped (rounded x)) := by
  have ht := targetExponent_eq m e
  generalize hd : (e - Format.binary64.targetExponent (totalExponent m e)).toNat = d
  have hl : (m <<< d).log2 = m.log2 + d := log2_shiftLeft hm d
  have hr : round Format.binary64 s m e =
      roundWithAccuracy Format.binary64 s (m <<< d) (e - d) .exact := by
    rw [← hd]
    rfl
  rw [hr]
  refine unpackedValue_round_exact s ?_ ?_
  · rw [hl]
    omega
  · rw [hx, Nat.shiftLeft_eq, apply_eq_mul, apply_eq_mul s ((m * 2 ^ d : ℕ) : ℤ),
      show e + 1074 = (e - d + 1074) + d by ring, zpow_add₀ (by norm_num), zpow_natCast]
    push_cast
    ring

/-- Rounding of a signed mantissa. -/
theorem unpackedValue_normalize (z e : ℤ) (t : Sign) :
    unpackedValue (repacked (normalize Format.binary64 z e t)) =
      some (capped (rounded (z * 2 ^ (e + 1074)))) := by
  have hpos := top_pos
  unfold UnpackedFloat.normalize
  rcases lt_trichotomy z 0 with hz | rfl | hz
  · rw [compare_lt_iff_lt.2 hz]
    refine unpackedValue_round_of_short .negative (by omega) e ?_
    simp only [Sign.apply, Int.toNat_of_nonneg (neg_nonneg.2 hz.le), neg_neg]
  · rw [compare_eq_iff_eq.2 rfl]
    change unpackedValue (repacked (.zero t)) = _
    rw [repacked_zero, Int.cast_zero, zero_mul, rounded_of_nonneg le_rfl, magnitude_zero,
      capped_of_abs_le (by omega) (by omega)]
    rfl
  · rw [compare_gt_iff_gt.2 hz]
    refine unpackedValue_round_of_short .positive (by omega) e ?_
    simp only [Sign.apply, Int.toNat_of_nonneg hz.le]

/-- A double that was not packed yet has the value of the packed one. -/
theorem repacked_of_canonical {u : UnpackedFloat} (hc : Canonical u) : repacked u = u := by
  cases u with
  | notANumber => exact repacked_notANumber
  | infinity s => exact repacked_infinity s
  | zero s => exact repacked_zero s
  | finite s m e hm =>
    obtain ⟨k, rfl, hd, hk⟩ := hc
    rw [repacked_finite hm hd, if_pos hk]

/-- The sum of finite doubles. -/
theorem unpackedValue_add {a b : UnpackedFloat} {x y : ℤ} (ha : Canonical a) (hb : Canonical b)
    (hx : unpackedValue a = some x) (hy : unpackedValue b = some y)
    (hx' : -top < x ∧ x < top) (hy' : -top < y ∧ y < top) :
    unpackedValue (repacked (UnpackedFloat.add Format.binary64 a b)) =
      some (capped (rounded (x + y))) := by
  have hfix := capped_rounded_value ha hx hx'.1 hx'.2
  have hfiy := capped_rounded_value hb hy hy'.1 hy'.2
  rcases finite_cases ha hx hx'.1 hx'.2 with ⟨rfl, s, rfl⟩ | ⟨s, m, j, hm, rfl, -, -, rfl⟩
  · rw [Int.cast_zero, zero_add, hfiy]
    rcases finite_cases hb hy hy'.1 hy'.2 with ⟨rfl, t, rfl⟩ | ⟨t, n, k, hn, rfl, -⟩
    · have : ∃ r, UnpackedFloat.add Format.binary64 (.zero s) (.zero t) = .zero r := by
        cases s <;> cases t <;> exact ⟨_, rfl⟩
      obtain ⟨r, hr⟩ := this
      rw [hr, repacked_zero]
      rfl
    · change unpackedValue (repacked (.finite t n _ hn)) = _
      rw [repacked_of_canonical hb, hy]
  · rcases finite_cases hb hy hy'.1 hy'.2 with ⟨rfl, t, rfl⟩ | ⟨t, n, k, hn, rfl, -, -, rfl⟩
    · change unpackedValue (repacked (.finite s m _ hm)) = _
      rw [Int.cast_zero, add_zero, hfix, repacked_of_canonical ha, hx]
    · change unpackedValue (repacked (normalize _ _ _ _)) = _
      rw [unpackedValue_normalize]
      congr 3
      have hj : (((j : ℤ) - 1074) - min ((j : ℤ) - 1074) (k - 1074)).toNat = j - min j k := by omega
      have hk : (((k : ℤ) - 1074) - min ((j : ℤ) - 1074) (k - 1074)).toNat = k - min j k := by omega
      have he : min ((j : ℤ) - 1074) (k - 1074) + 1074 = ((min j k : ℕ) : ℤ) := by omega
      rw [he, zpow_natCast]
      simp only [hj, hk]
      rw [Int.cast_add, add_mul, apply_shiftLeft s m (Nat.min_le_left j k),
        apply_shiftLeft t n (Nat.min_le_right j k)]

end Roster.Double
