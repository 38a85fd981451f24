import Roster.Proofs.Double.Operations

/-!
# Numbers read as doubles

A whole number is read as the nearest double, and a literal, which has no sign, never as a negative
one.
-/

namespace Roster.Double

open Float.Model (Format UnpackedFloat)
open Float.Model.UnpackedFloat

theorem value_toFloat (n : UInt64) :
    value n.toFloat = some (capped (rounded (n.toNat * unit))) := by
  have h : n.toFloat.toModel.unpack =
      repacked (normalize Format.binary64 n.toNat 0 .positive) := rfl
  unfold value
  rw [h, unpackedValue_normalize, zpow_add_unit, zpow_zero, one_mul, Int.cast_natCast]

/-- One is neutral for a finite double. -/
theorem value_mul_one {x : Float} {a : ℤ} (h : HasValue x a) : value (x * 1) = some a := by
  rw [value_mul h hasValue_one, mul_div_cancel_right₀ _ unit_ne_zero,
    capped_rounded_value (canonical x) h.value h.neg_top_lt h.lt_top]

theorem natCast_mul_unit_lt {n : ℕ} (h : n ≤ 2 ^ 53) : (n : ℤ) * unit < top := by
  calc
    (n : ℤ) * unit ≤ 2 ^ 53 * unit :=
      Int.mul_le_mul_of_nonneg_right (by exact_mod_cast h) unit_pos.le
    _ = 2 ^ 1127 := by
      unfold unit
      rw [← pow_add]
    _ < top := two_pow_lt_top (by norm_num)

/-- A whole number up to 2⁵³ is not rounded. -/
theorem capped_rounded_natCast {n : ℕ} (h : n ≤ 2 ^ 53) :
    capped (rounded (n * unit)) = n * unit := by
  have hcast : (n : ℝ) * unit = ((n * 2 ^ 1074 : ℕ) : ℝ) := by
    rw [cast_unit, Nat.cast_mul, Nat.cast_pow, Nat.cast_ofNat]
  have hmagnitude : magnitude ((n * 2 ^ 1074 : ℕ) : ℝ) = n * 2 ^ 1074 := by
    rcases h.eq_or_lt with rfl | hlt
    · rw [← pow_add, Nat.cast_pow, Nat.cast_ofNat]
      exact magnitude_two_pow _
    · exact magnitude_natCast hlt
  have hint : ((n * 2 ^ 1074 : ℕ) : ℤ) = n * unit := by
    unfold unit
    rw [Nat.cast_mul, Nat.cast_pow, Nat.cast_ofNat]
  have hlt := natCast_mul_unit_lt h
  have hpos := top_pos
  have hnonneg : 0 ≤ (n : ℤ) * unit := mul_nonneg (by omega) unit_pos.le
  have hreal : (0 : ℝ) ≤ n * unit := mul_nonneg (Nat.cast_nonneg n) (Int.cast_nonneg unit_pos.le)
  rw [rounded_of_nonneg hreal, hcast, hmagnitude, hint, capped_of_abs_le (by omega) hlt.le]

theorem value_ofNat (n : ℕ) : value (Float.ofNat n) = some (capped (rounded (n * unit))) := by
  change value (Float.ofScientific n false 0) = _
  unfold Float.ofScientific
  split
  · rename_i h
    have hn : n.toUInt64.toNat = n := Nat.mod_eq_of_lt (h.1.trans (by norm_num))
    have hv := value_toFloat n.toUInt64
    rw [hn, capped_rounded_natCast h.1.le] at hv
    have hone : Float.ofBits 0x3FF0000000000000 = 1 := by decide +kernel
    have hlt := natCast_mul_unit_lt h.1.le
    have hpos := top_pos
    have hnonneg : 0 ≤ (n : ℤ) * unit := mul_nonneg (by omega) unit_pos.le
    change value (n.toUInt64.toFloat * Float.ofBits 0x3FF0000000000000) = _
    rw [hone, value_mul_one ⟨hv, by omega, hlt⟩, capped_rounded_natCast h.1.le]
  · rename_i h
    have hn : n ≠ 0 := by
      rintro rfl
      exact h ⟨by norm_num, by norm_num⟩
    have hu : (Float.ofModel (Float.Model.ofScientific n 0)).toModel.unpack =
        repacked (roundWithAccuracy Format.binary64 (.positive * .positive)
          ((n <<< 53) * 10 ^ 0) (-53 + 0) .exact) := by
      change repacked (UnpackedFloat.ofScientific Format.binary64 n 0) = _
      unfold UnpackedFloat.ofScientific
      have hbits : (2 : ℤ) ^ Format.binary64.exponentBits = 2048 := rfl
      rw [dif_neg hn, hbits, if_neg (by norm_num), if_neg (by omega), if_pos le_rfl]
      rfl
    change value (Float.ofModel (Float.Model.ofScientific n 0)) = _
    unfold value
    rw [hu]
    refine unpackedValue_round_exact _ (Or.inl ?_) ?_
    · rw [pow_zero, mul_one, log2_shiftLeft hn]
      omega
    · rw [pow_zero, mul_one, zpow_add_unit, Nat.shiftLeft_eq]
      change (n : ℝ) * unit = (((n * 2 ^ 53 : ℕ) : ℤ) : ℝ) * _
      push_cast
      norm_num
      ring

/-- A whole number is read as the nearest double. -/
theorem value_ofInt (z : ℤ) : value (Float.ofInt z) = some (capped (rounded (z * unit))) := by
  cases z with
  | ofNat n => exact value_ofNat n
  | negSucc n =>
    change value (-Float.ofNat (n + 1)) = _
    rw [value_neg, value_ofNat, Int.cast_negSucc, neg_mul, rounded_neg, capped_neg]
    rfl

/-- A whole number up to 2⁵³ is read as the double of its value. -/
theorem hasValue_ofInt {n : ℕ} (h : n ≤ 2 ^ 53) : HasValue (Float.ofInt n) (n * unit) := by
  have hvalue : value (Float.ofInt n) = some (n * unit) := by
    rw [← capped_rounded_natCast h]
    exact value_ofInt n
  have hpos := top_pos
  have hnonneg : 0 ≤ (n : ℤ) * unit := mul_nonneg (by omega) unit_pos.le
  exact ⟨hvalue, by omega, natCast_mul_unit_lt h⟩

/-- A positive whole number is read as a positive double. -/
theorem zero_lt_ofInt {z : ℤ} (h : 0 < z) : 0 < Float.ofInt z := by
  have hone : capped (rounded ((1 : ℕ) * unit)) = (1 : ℕ) * unit :=
    capped_rounded_natCast (by norm_num)
  have hle : ((1 : ℕ) : ℝ) * unit ≤ z * unit := by
    have hz : (1 : ℝ) ≤ z := by exact_mod_cast h
    have hunit : (0 : ℝ) ≤ unit := Int.cast_nonneg unit_pos.le
    rw [Nat.cast_one]
    gcongr
  have hmono := capped_mono (rounded_mono hle)
  have hunit := unit_pos
  exact zero_lt_iff.2 ⟨_, value_ofInt z, by omega⟩

/-! ### Literals -/

/-- The scientific notation of a number without a sign is not read as a negative double. -/
theorem unpackedValue_ofScientific_nonneg (m : ℕ) (e a : ℤ)
    (h : unpackedValue (repacked (UnpackedFloat.ofScientific Format.binary64 m e)) = some a) :
    0 ≤ a := by
  have hpos := top_pos
  have hzero (h : unpackedValue (repacked (.zero .positive)) = some a) : 0 ≤ a := by
    rw [repacked_zero] at h
    exact (Option.some.inj h).le
  unfold UnpackedFloat.ofScientific at h
  by_cases hm : m = 0
  · rw [dif_pos hm] at h
    exact hzero h
  rw [dif_neg hm] at h
  by_cases hlarge : (2 : ℤ) ^ Format.binary64.exponentBits < e
  · rw [if_pos hlarge, repacked_infinity] at h
    exact Option.some.inj h ▸ hpos.le
  rw [if_neg hlarge] at h
  by_cases hsmall : e < -((2 : ℤ) ^ Format.binary64.exponentBits + m.log2)
  · rw [if_pos hsmall] at h
    exact hzero h
  rw [if_neg hsmall] at h
  by_cases he : 0 ≤ e
  · have hlog : 52 ≤ ((m <<< 53) * 10 ^ e.toNat).log2 := by
      have hp : 0 < 10 ^ e.toNat := by positivity
      have hle : 2 ^ 52 ≤ (m <<< 53) * 10 ^ e.toNat := by
        rw [Nat.shiftLeft_eq, Nat.mul_assoc]
        have : 0 < m * 10 ^ e.toNat := Nat.mul_pos (Nat.pos_of_ne_zero hm) hp
        calc
          2 ^ 52 ≤ m * 10 ^ e.toNat * 2 ^ 53 := by omega
          _ = m * (2 ^ 53 * 10 ^ e.toNat) := by ring
      exact (Nat.le_log2 (by omega)).2 hle
    have hr := unpackedValue_round_exact (.positive * .positive) (Or.inl hlog) (e := -53 + 0) rfl
    rw [if_pos he] at h
    obtain rfl := Option.some.inj (hr.symm.trans h)
    refine capped_rounded_nonneg (mul_nonneg ?_ (by positivity))
    exact Int.cast_nonneg (Int.natCast_nonneg _)
  · have hr := unpackedValue_divCore (.positive / .positive) hm
      (Nat.pow_pos (n := (-e).toNat) (show 0 < 10 by norm_num)) 0 0 rfl
    rw [if_neg he] at h
    obtain rfl := Option.some.inj (hr.symm.trans h)
    exact capped_rounded_nonneg (by positivity)

theorem powersOfTen_pos {e : ℕ} (h : e < Float.exactlyRepresentablePowersOfTen.size) :
    0 < Float.exactlyRepresentablePowersOfTen[e] := by
  have hall : ∀ x ∈ Float.exactlyRepresentablePowersOfTen.toList, 0 < x := by decide +kernel
  exact hall _ (Array.getElem_mem_toList h)

theorem not_neg_toFloat (n : UInt64) : ¬ n.toFloat < 0 := by
  rw [not_lt_zero_iff, value_toFloat]
  intro a ha
  obtain rfl := Option.some.inj ha
  exact capped_rounded_nonneg (mul_nonneg (Nat.cast_nonneg _) (Int.cast_nonneg unit_pos.le))

/-- A literal is not read as a negative double. -/
theorem not_neg_ofScientific (m : ℕ) (s : Bool) (e : ℕ) :
    ¬ (OfScientific.ofScientific m s e : Float) < 0 := by
  change ¬ Float.ofScientific m s e < 0
  unfold Float.ofScientific
  split
  · rename_i h
    have he : e < Float.exactlyRepresentablePowersOfTen.size := by
      simp [Float.exactlyRepresentablePowersOfTen]
      omega
    have hpow := powersOfTen_pos he
    cases s
    · exact mul_not_neg (not_neg_toFloat _) (not_neg_of_pos hpow)
    · exact div_not_neg (not_neg_toFloat _) hpow
  · rw [not_lt_zero_iff]
    intro a ha
    exact unpackedValue_ofScientific_nonneg m _ a ha

end Roster.Double
