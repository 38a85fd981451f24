import Mathlib.Analysis.Real.Sqrt
import Roster.Proofs.Double.Arithmetic

/-!
# Quotients and roots of doubles

A quotient and a root are found to enough digits, together with how the exact number lies to what
was found. What is rounded is then the exact number itself.
-/

namespace Roster.Double

open Float.Model (Format UnpackedFloat totalExponent)
open Float.Model.UnpackedFloat

/-- A whole quotient with its remainder tracks the exact quotient. -/
theorem Tracks.quotient (m : ℕ) {n : ℕ} (hn : 0 < n) :
    Tracks (.ofMantissaAndAccuracy (m / n) (accuracyOfFraction (m % n) n)) ((m : ℝ) / n) := by
  have hn' : (0 : ℝ) < n := Nat.cast_pos.2 hn
  have hsplit : (m : ℝ) / n = (m / n : ℕ) + ((m % n : ℕ) : ℝ) / n := by
    have : (m : ℝ) = n * (m / n : ℕ) + (m % n : ℕ) := by exact_mod_cast (Nat.div_add_mod m n).symm
    rw [this]
    field_simp
  have hlt : ((m % n : ℕ) : ℝ) < n := Nat.cast_lt.2 (Nat.mod_lt m hn)
  rw [hsplit]
  unfold accuracyOfFraction
  split
  · rename_i hz
    rw [hz, Nat.cast_zero, zero_div, add_zero]
    exact .exact _
  · rename_i hz
    have hpos : (0 : ℝ) < (m % n : ℕ) := Nat.cast_pos.2 (Nat.pos_of_ne_zero hz)
    refine .inexact ?_ ?_ ?_ ?_
    · exact lt_add_of_pos_right _ (div_pos hpos hn')
    · exact add_lt_add_right ((div_lt_one hn').2 hlt) _
    · rw [compare_lt_iff_lt, add_lt_add_iff_left, div_lt_div_iff₀ hn' two_pos]
      constructor
      · intro h
        have : (2 : ℝ) * (m % n : ℕ) < n := by exact_mod_cast h
        linarith
      · intro h
        have : (2 : ℝ) * (m % n : ℕ) < n := by linarith
        exact_mod_cast this
    · rw [compare_eq_iff_eq, add_right_inj, div_eq_div_iff hn'.ne' two_ne_zero]
      constructor
      · intro h
        have : (2 : ℝ) * (m % n : ℕ) = n := by exact_mod_cast h
        linarith
      · intro h
        have : (2 : ℝ) * (m % n : ℕ) = n := by linarith
        exact_mod_cast this

/-- A whole root with its remainder tracks the exact root. -/
theorem Tracks.root (m : ℕ) :
    Tracks (.ofMantissaAndAccuracy m.sqrt (if m - m.sqrt * m.sqrt = 0 then .exact
      else .inexact (if m - m.sqrt * m.sqrt ≤ m.sqrt then .lt else .gt))) (√(m : ℝ)) := by
  have hle : m.sqrt * m.sqrt ≤ m := Nat.sqrt_le m
  obtain ⟨r, hr⟩ := Nat.exists_eq_add_of_le hle
  have hsub : m - m.sqrt * m.sqrt = r := by omega
  have hsq : √(m : ℝ) * √(m : ℝ) = m.sqrt * m.sqrt + r := by
    rw [Real.mul_self_sqrt (Nat.cast_nonneg m)]
    exact_mod_cast hr
  have hnonneg := Real.sqrt_nonneg (m : ℝ)
  have hroot : (0 : ℝ) ≤ m.sqrt := Nat.cast_nonneg _
  rw [hsub]
  split
  · rename_i hz
    have : √(m : ℝ) = m.sqrt := by
      rw [hz, Nat.cast_zero, add_zero] at hsq
      exact (mul_self_inj hnonneg hroot).1 hsq
    rw [this]
    exact .exact _
  · rename_i hz
    have hr₁ : (1 : ℝ) ≤ r := by exact_mod_cast Nat.pos_of_ne_zero hz
    refine .inexact ?_ Real.real_sqrt_lt_nat_sqrt_succ ?_ ?_
    · exact lt_of_mul_self_lt_mul_self₀ hnonneg (by linarith)
    · constructor
      · intro h
        have hrs : (r : ℝ) ≤ m.sqrt := by
          split at h
          · exact_mod_cast ‹_›
          · cases h
        exact lt_of_mul_self_lt_mul_self₀ (by linarith) (by nlinarith)
      · intro h
        have hrs : (r : ℝ) < m.sqrt + 1 := by nlinarith
        rw [if_pos (by exact_mod_cast Nat.lt_succ_iff.1 (by exact_mod_cast hrs))]
    · constructor
      · intro h
        split at h <;> cases h
      · intro h
        have : (4 * r : ℝ) = 4 * m.sqrt + 1 := by
          rw [h] at hsq
          linarith
        have : 4 * r = 4 * m.sqrt + 1 := by exact_mod_cast this
        omega

theorem le_log2_div {m n : ℕ} (hn : n ≠ 0) (h : n.log2 + 53 ≤ m.log2) :
    52 ≤ (m / n).log2 := by
  have hm : m ≠ 0 := by
    rintro rfl
    rw [Nat.log2_zero] at h
    omega
  have hd : 2 ^ 52 ≤ m / n := by
    rw [Nat.le_div_iff_mul_le (Nat.pos_of_ne_zero hn)]
    calc
      2 ^ 52 * n ≤ 2 ^ 52 * 2 ^ (n.log2 + 1) := Nat.mul_le_mul_left _ Nat.lt_log2_self.le
      _ = 2 ^ (n.log2 + 53) := by rw [← pow_add, show 52 + (n.log2 + 1) = n.log2 + 53 by omega]
      _ ≤ 2 ^ m.log2 := Nat.pow_le_pow_right (by norm_num) h
      _ ≤ m := Nat.log2_self_le hm
  refine (Nat.le_log2 ?_).2 hd
  have : 0 < 2 ^ 52 := by positivity
  omega

theorem le_log2_sqrt {m : ℕ} (h : 104 ≤ m.log2) : 52 ≤ m.sqrt.log2 := by
  have hm : m ≠ 0 := by
    rintro rfl
    rw [Nat.log2_zero] at h
    omega
  have hr : 2 ^ 52 ≤ m.sqrt := by
    rw [Nat.le_sqrt, ← pow_add]
    exact (Nat.pow_le_pow_right (by norm_num) h).trans (Nat.log2_self_le hm)
  refine (Nat.le_log2 ?_).2 hr
  have : 0 < 2 ^ 52 := by positivity
  omega

/-- A quotient is found to enough digits for the format. -/
theorem divCore_eq (m n : ℕ) (d e : ℤ) :
    ∃ (p : ℕ) (f : ℤ), d - e = f + p ∧ (f ≤ -1074 ∨ n.log2 + 53 ≤ m.log2 + p) ∧
      divCore Format.binary64 m d n e =
        ((m <<< p) / n, f, accuracyOfFraction ((m <<< p) % n) n) := by
  have ht : Format.binary64.targetExponent (totalExponent m d - totalExponent n e) =
      max (m.log2 + d - (n.log2 + e) - 53) (-1074) := by
    rw [Format.targetExponent, totalExponent, totalExponent, mantissaBits_binary64,
      minExponent_binary64]
    omega
  refine ⟨(d - e - min (d - e) (max (m.log2 + d - (n.log2 + e) - 53) (-1074))).toNat, _,
    ?_, ?_, by rw [divCore, ht]⟩
  · omega
  · omega

/-- A root is found to enough digits for the format. -/
theorem sqrtCore_eq (m : ℕ) (e : ℤ) :
    ∃ (p : ℕ) (f : ℤ), e = 2 * f + p ∧ (f ≤ -1074 ∨ 104 ≤ m.log2 + p) ∧
      sqrtCore Format.binary64 m e = ((m <<< p).sqrt, f,
        if m <<< p - (m <<< p).sqrt * (m <<< p).sqrt = 0 then .exact
        else .inexact
          (if m <<< p - (m <<< p).sqrt * (m <<< p).sqrt ≤ (m <<< p).sqrt then .lt else .gt)) := by
  have hd : (totalExponent m e + 1).ediv 2 = (m.log2 + e + 2) / 2 := by
    change (totalExponent m e + 1) / 2 = _
    unfold totalExponent
    omega
  have hhalf : e.ediv 2 = e / 2 := rfl
  have ht : Format.binary64.targetExponent ((totalExponent m e + 1).ediv 2) =
      max ((m.log2 + e + 2) / 2 - 53) (-1074) := by
    rw [hd]
    rw [Format.targetExponent, mantissaBits_binary64, minExponent_binary64]
    omega
  refine ⟨(e - 2 * min (e / 2) (max ((m.log2 + e + 2) / 2 - 53) (-1074))).toNat, _,
    ?_, ?_, by rw [sqrtCore, ht]; rfl⟩
  · omega
  · omega

/-- The value of a rounded quotient of mantissas. -/
theorem unpackedValue_divCore (s : Sign) {m n : ℕ} (hm : m ≠ 0) (hn : 0 < n) (d e : ℤ) {w : ℝ}
    (hw : w = (m / n : ℝ) * 2 ^ (d - e + 1074)) :
    unpackedValue (repacked (roundWithAccuracy Format.binary64 s
      (divCore Format.binary64 m d n e).1 (divCore Format.binary64 m d n e).2.1
      (divCore Format.binary64 m d n e).2.2)) = some (s.apply (capped (rounded w))) := by
  obtain ⟨p, f, he, hwide, hcore⟩ := divCore_eq m n d e
  rw [hcore]
  have hscale : w / 2 ^ (f + 1074) = ((m <<< p : ℕ) : ℝ) / n := by
    rw [hw, he, show f + p + 1074 = (f + 1074) + p by ring, zpow_add₀ (by norm_num), zpow_natCast,
      Nat.shiftLeft_eq]
    push_cast
    field_simp
  refine unpackedValue_round s ?_ (hscale ▸ .quotient _ hn) ?_
  · rw [hw]
    positivity
  · rcases hwide with hwide | hwide
    · exact Or.inr hwide
    · exact Or.inl (le_log2_div hn.ne' (by rwa [log2_shiftLeft hm p]))

/-- The value of a rounded root of a mantissa. -/
theorem unpackedValue_sqrtCore (s : Sign) {m : ℕ} (hm : m ≠ 0) (e : ℤ) {w : ℝ}
    (hw : w = √(m * 2 ^ e) * 2 ^ (1074 : ℤ)) :
    unpackedValue (repacked (roundWithAccuracy Format.binary64 s
      (sqrtCore Format.binary64 m e).1 (sqrtCore Format.binary64 m e).2.1
      (sqrtCore Format.binary64 m e).2.2)) = some (s.apply (capped (rounded w))) := by
  obtain ⟨p, f, he, hwide, hcore⟩ := sqrtCore_eq m e
  rw [hcore]
  have hroot : √((m : ℝ) * 2 ^ e) = √((m <<< p : ℕ) : ℝ) * 2 ^ f := by
    have hsq : (m : ℝ) * 2 ^ e = ((m <<< p : ℕ) : ℝ) * (2 ^ f * 2 ^ f) := by
      rw [he, Nat.shiftLeft_eq, show 2 * f + p = p + (f + f) by ring, zpow_add₀ (by norm_num),
        zpow_add₀ (by norm_num), zpow_natCast]
      push_cast
      ring
    rw [hsq, Real.sqrt_mul (Nat.cast_nonneg _), Real.sqrt_mul_self (by positivity)]
  have hscale : w / 2 ^ (f + 1074) = √((m <<< p : ℕ) : ℝ) := by
    rw [hw, hroot, zpow_add₀ (by norm_num)]
    field_simp
  refine unpackedValue_round s ?_ (hscale ▸ .root _) ?_
  · rw [hw]
    positivity
  · rcases hwide with hwide | hwide
    · exact Or.inr hwide
    · exact Or.inl (le_log2_sqrt (by rwa [log2_shiftLeft hm p]))

/-- The value of a product of a quotient's sign is that of the signs' product. -/
theorem apply_div (s t : Sign) (n : ℤ) : (s / t).apply n = s.apply (t.apply n) := by
  cases s <;> cases t
  · exact (neg_neg n).symm
  · rfl
  · rfl
  · rfl

/-- The quotient of finite doubles. -/
theorem unpackedValue_div {a b : UnpackedFloat} {x y : ℤ} (ha : Canonical a) (hb : Canonical b)
    (hx : unpackedValue a = some x) (hy : unpackedValue b = some y)
    (hx' : -top < x ∧ x < top) (hy' : -top < y ∧ y < top) (hy₀ : y ≠ 0) :
    unpackedValue (repacked (UnpackedFloat.div Format.binary64 a b)) =
      some (capped (rounded (x / y * unit))) := by
  have hpos := top_pos
  rcases finite_cases hb hy hy'.1 hy'.2 with ⟨rfl, -⟩ | ⟨t, n, k, hn, rfl, -, -, rfl⟩
  · exact absurd rfl hy₀
  · rcases finite_cases ha hx hx'.1 hx'.2 with ⟨rfl, s, rfl⟩ | ⟨s, m, j, hm, rfl, -, -, rfl⟩
    · change unpackedValue (repacked (.zero _)) = _
      rw [repacked_zero, Int.cast_zero, zero_div, zero_mul, rounded_of_nonneg le_rfl,
        magnitude_zero, capped_of_abs_le (by omega) (by omega)]
      rfl
    · refine (unpackedValue_divCore (s / t) hm.ne' hn _ _ rfl).trans ?_
      rw [apply_capped, apply_rounded, apply_div]
      congr 3
      have := unit_ne_zero
      rw [show (j : ℤ) - 1074 - (k - 1074) + 1074 = j - k + 1074 by ring, zpow_add_unit,
        zpow_sub₀ (by norm_num), zpow_natCast, zpow_natCast]
      cases s <;> cases t <;> simp only [Sign.apply] <;> push_cast <;> field_simp

/-- The root of a positive finite double. -/
theorem unpackedValue_sqrt {a : UnpackedFloat} {x : ℤ} (ha : Canonical a)
    (hx : unpackedValue a = some x) (hx₀ : 0 < x) (hx' : x < top) :
    unpackedValue (repacked (UnpackedFloat.sqrt Format.binary64 a)) =
      some (capped (rounded (√(x / unit) * unit))) := by
  rcases finite_cases ha hx (by have := top_pos; omega) hx' with
    ⟨rfl, -⟩ | ⟨s, m, j, hm, rfl, -, -, rfl⟩
  · exact absurd hx₀ (lt_irrefl 0)
  · obtain rfl : s = .positive := (apply_nonneg_iff (by positivity) s).1 hx₀.le
    refine (unpackedValue_sqrtCore .positive hm.ne' _ rfl).trans ?_
    have hone : (2 : ℝ) ^ (1074 : ℤ) = unit := by
      rw [← zero_add (1074 : ℤ), zpow_add_unit, zpow_zero, one_mul]
    rw [hone, zpow_sub_unit, zpow_natCast]
    simp only [Sign.apply]
    push_cast
    rw [mul_div_assoc]

end Roster.Double
