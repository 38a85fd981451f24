import Mathlib.Algebra.Order.Archimedean.Real.Basic
import Mathlib.Algebra.Order.Floor.Semiring
import Mathlib.Data.Nat.Log
import Mathlib.Tactic.GCongr
import Mathlib.Tactic.Linarith
import Mathlib.Tactic.Positivity

/-!
# Rounding to doubles

The finite doubles are whole multiples of the least positive one. In that unit a magnitude below
`2 ^ 53` is kept exactly, and a larger one is rounded to 53 binary digits, a half going to the even
one. Rounding keeps the order and leaves alone what has at most 53 digits.
-/

namespace Roster.Double

/-- The natural nearest to a number, a half going to the even one. -/
noncomputable def nearestNat (r : ℝ) : ℕ :=
  if r - ⌊r⌋₊ < 1 / 2 then ⌊r⌋₊
  else if 1 / 2 < r - ⌊r⌋₊ then ⌊r⌋₊ + 1
  else ⌊r⌋₊ + ⌊r⌋₊ % 2

theorem floor_le_nearestNat (r : ℝ) : ⌊r⌋₊ ≤ nearestNat r := by
  unfold nearestNat
  split
  · exact le_rfl
  · split <;> omega

theorem nearestNat_le_floor_add_one (r : ℝ) : nearestNat r ≤ ⌊r⌋₊ + 1 := by
  unfold nearestNat
  split
  · omega
  · split <;> omega

@[simp] theorem nearestNat_natCast (n : ℕ) : nearestNat n = n := by
  simp [nearestNat]

theorem nearestNat_mono {r s : ℝ} (h : r ≤ s) : nearestNat r ≤ nearestNat s := by
  rcases (Nat.floor_le_floor h).lt_or_eq with hlt | heq
  · calc
      nearestNat r ≤ ⌊r⌋₊ + 1 := nearestNat_le_floor_add_one r
      _ ≤ ⌊s⌋₊ := hlt
      _ ≤ nearestNat s := floor_le_nearestNat s
  · have hd : r - ⌊r⌋₊ ≤ s - ⌊s⌋₊ := by rw [heq]; linarith
    unfold nearestNat
    rw [heq] at hd ⊢
    split_ifs <;> first | omega | linarith

/-- The number of binary digits that a magnitude loses. -/
noncomputable def lostDigits (w : ℝ) : ℕ := Nat.log2 ⌊w⌋₊ - 52

/-- The magnitude of the double nearest to a magnitude. -/
noncomputable def magnitude (w : ℝ) : ℕ := nearestNat (w / 2 ^ lostDigits w) * 2 ^ lostDigits w

theorem log2_mono {m n : ℕ} (h : m ≤ n) : Nat.log2 m ≤ Nat.log2 n := by
  rw [Nat.log2_eq_log_two, Nat.log2_eq_log_two]
  exact Nat.log_mono_right h

theorem lostDigits_mono {v w : ℝ} (h : v ≤ w) : lostDigits v ≤ lostDigits w := by
  have := log2_mono (Nat.floor_le_floor h)
  unfold lostDigits
  omega

/-- What is left has at most 53 digits. -/
theorem div_lostDigits_lt (w : ℝ) : w / 2 ^ lostDigits w < 2 ^ 53 := by
  rw [div_lt_iff₀ (by positivity), ← pow_add]
  have hf : ⌊w⌋₊ < 2 ^ (53 + lostDigits w) := by
    refine lt_of_lt_of_le Nat.lt_log2_self (Nat.pow_le_pow_right (by norm_num) ?_)
    unfold lostDigits
    omega
  calc
    w < ⌊w⌋₊ + 1 := Nat.lt_floor_add_one w
    _ ≤ 2 ^ (53 + lostDigits w) := by exact_mod_cast hf

/-- What is left of a magnitude that loses digits has all 53. -/
theorem le_div_lostDigits {w : ℝ} (h : lostDigits w ≠ 0) : 2 ^ 52 ≤ w / 2 ^ lostDigits w := by
  have hl : Nat.log2 ⌊w⌋₊ = 52 + lostDigits w := by
    unfold lostDigits at h ⊢
    omega
  have hz : ⌊w⌋₊ ≠ 0 := by
    intro hz
    rw [hz, Nat.log2_zero] at hl
    omega
  have hf : 2 ^ (52 + lostDigits w) ≤ ⌊w⌋₊ := hl ▸ Nat.log2_self_le hz
  have hw : 0 ≤ w := by
    by_contra hneg
    exact hz (Nat.floor_of_nonpos (by linarith))
  rw [le_div_iff₀ (by positivity), ← pow_add]
  calc
    (2 : ℝ) ^ (52 + lostDigits w) ≤ (⌊w⌋₊ : ℝ) := by exact_mod_cast hf
    _ ≤ w := Nat.floor_le hw

theorem nearestNat_le_pow (w : ℝ) : nearestNat (w / 2 ^ lostDigits w) ≤ 2 ^ 53 := by
  have h : w / 2 ^ lostDigits w ≤ ((2 ^ 53 : ℕ) : ℝ) := by
    rw [Nat.cast_pow, Nat.cast_ofNat]
    exact (div_lostDigits_lt w).le
  simpa only [nearestNat_natCast] using nearestNat_mono h

theorem pow_le_nearestNat {w : ℝ} (h : lostDigits w ≠ 0) :
    2 ^ 52 ≤ nearestNat (w / 2 ^ lostDigits w) := by
  have h : ((2 ^ 52 : ℕ) : ℝ) ≤ w / 2 ^ lostDigits w := by
    rw [Nat.cast_pow, Nat.cast_ofNat]
    exact le_div_lostDigits h
  simpa only [nearestNat_natCast] using nearestNat_mono h

theorem magnitude_mono {v w : ℝ} (h : v ≤ w) : magnitude v ≤ magnitude w := by
  unfold magnitude
  rcases (lostDigits_mono h).lt_or_eq with hlt | heq
  · calc
      nearestNat (v / 2 ^ lostDigits v) * 2 ^ lostDigits v
        ≤ 2 ^ 53 * 2 ^ lostDigits v := Nat.mul_le_mul_right _ (nearestNat_le_pow v)
      _ = 2 ^ 52 * 2 ^ (lostDigits v + 1) := by ring
      _ ≤ 2 ^ 52 * 2 ^ lostDigits w :=
        Nat.mul_le_mul_left _ (Nat.pow_le_pow_right (by norm_num) hlt)
      _ ≤ nearestNat (w / 2 ^ lostDigits w) * 2 ^ lostDigits w :=
        Nat.mul_le_mul_right _ (pow_le_nearestNat (by omega))
  · rw [heq]
    exact Nat.mul_le_mul_right _ (nearestNat_mono (by gcongr))

/-- A natural with at most 53 binary digits before its zeros is not changed. -/
theorem magnitude_natCast {m k : ℕ} (h : m < 2 ^ 53) :
    magnitude ((m * 2 ^ k : ℕ) : ℝ) = m * 2 ^ k := by
  have hl : lostDigits ((m * 2 ^ k : ℕ) : ℝ) ≤ k := by
    unfold lostDigits
    rw [Nat.floor_natCast]
    by_cases hz : m * 2 ^ k = 0
    · simp [hz]
    · have : Nat.log2 (m * 2 ^ k) < 53 + k := by
        rw [Nat.log2_lt hz, pow_add]
        exact Nat.mul_lt_mul_of_pos_right h (by positivity)
      omega
  unfold magnitude
  generalize lostDigits ((m * 2 ^ k : ℕ) : ℝ) = p at hl
  obtain ⟨q, rfl⟩ := Nat.exists_eq_add_of_le hl
  have hd : ((m * 2 ^ (p + q) : ℕ) : ℝ) / 2 ^ p = ((m * 2 ^ q : ℕ) : ℝ) := by
    rw [div_eq_iff (by positivity)]
    push_cast
    ring
  rw [hd, nearestNat_natCast]
  ring

@[simp] theorem magnitude_zero : magnitude 0 = 0 := by
  simpa using magnitude_natCast (m := 0) (k := 0) (by norm_num)

theorem magnitude_two_pow (k : ℕ) : magnitude (2 ^ k) = 2 ^ k := by
  simpa using magnitude_natCast (m := 1) (k := k) (by norm_num)

/-- The number that lies half way between the last of 53 digits and the power of two behind it. -/
def lastHalf (k : ℕ) : ℕ := (2 ^ 54 - 1) * 2 ^ k

theorem lastHalf_add (j k : ℕ) : lastHalf (j + k) = lastHalf j * 2 ^ k := by
  unfold lastHalf
  rw [pow_add, mul_assoc]

theorem lostDigits_lastHalf (k : ℕ) : lostDigits (lastHalf k) = k + 1 := by
  have hlog : Nat.log2 ((2 ^ 54 - 1) * 2 ^ k) = 53 + k := by
    rw [Nat.log2_eq_iff (by positivity)]
    constructor
    · rw [pow_add]
      exact Nat.mul_le_mul_right _ (by norm_num)
    · rw [show 53 + k + 1 = 54 + k by omega, pow_add]
      exact Nat.mul_lt_mul_of_pos_right (by norm_num) (by positivity)
  unfold lostDigits lastHalf
  rw [Nat.floor_natCast, hlog]
  omega

theorem lastHalf_div (k : ℕ) : (lastHalf k : ℝ) / 2 ^ (k + 1) = 2 ^ 53 - 1 / 2 := by
  unfold lastHalf
  rw [div_eq_iff (by positivity), pow_succ]
  push_cast
  ring

/-- The power is even and gets it. -/
theorem magnitude_lastHalf (k : ℕ) : magnitude (lastHalf k) = 2 ^ (54 + k) := by
  have hfloor : ⌊(2 ^ 53 - 1 / 2 : ℝ)⌋₊ = 2 ^ 53 - 1 := by
    rw [Nat.floor_eq_iff (by norm_num)]
    norm_num
  have hnearest : nearestNat (2 ^ 53 - 1 / 2) = 2 ^ 53 := by
    unfold nearestNat
    rw [hfloor]
    norm_num
  unfold magnitude
  rw [lostDigits_lastHalf, lastHalf_div, hnearest, ← pow_add]
  congr 1
  omega

theorem nearestNat_lt_pow {r : ℝ} (h : r < 2 ^ 53 - 1 / 2) : nearestNat r < 2 ^ 53 := by
  have hfloor : ⌊r⌋₊ < 2 ^ 53 := by
    refine (Nat.floor_lt' (by norm_num)).2 ?_
    push_cast
    linarith
  by_cases hlast : ⌊r⌋₊ = 2 ^ 53 - 1
  · unfold nearestNat
    rw [hlast, if_pos]
    · norm_num
    · norm_num
      linarith
  · have := nearestNat_le_floor_add_one r
    omega

/-- What lies below it stays below the power. -/
theorem magnitude_lt_two_pow_iff {w : ℝ} {k : ℕ} :
    magnitude w < 2 ^ (54 + k) ↔ w < lastHalf k := by
  constructor
  · intro h
    by_contra hw
    have := magnitude_mono (not_lt.1 hw)
    rw [magnitude_lastHalf] at this
    omega
  · intro h
    unfold magnitude
    rcases Nat.lt_or_ge k (lostDigits w) with hk | hk
    · have hl : lostDigits w = k + 1 := by
        have := lostDigits_mono h.le
        rw [lostDigits_lastHalf] at this
        omega
      have hdiv : w / 2 ^ (k + 1) < 2 ^ 53 - 1 / 2 := by
        rw [← lastHalf_div k]
        gcongr
      have hpow : (2 : ℕ) ^ (54 + k) = 2 ^ 53 * 2 ^ (k + 1) := by
        rw [← pow_add]
        congr 1
        omega
      rw [hl, hpow]
      exact Nat.mul_lt_mul_of_pos_right (nearestNat_lt_pow hdiv) (by positivity)
    · calc
        nearestNat (w / 2 ^ lostDigits w) * 2 ^ lostDigits w
          ≤ 2 ^ 53 * 2 ^ k :=
            Nat.mul_le_mul (nearestNat_le_pow w) (Nat.pow_le_pow_right (by norm_num) hk)
        _ < 2 ^ 54 * 2 ^ k := Nat.mul_lt_mul_of_pos_right (by norm_num) (by positivity)
        _ = 2 ^ (54 + k) := (pow_add ..).symm

/-- The signed magnitude of the double nearest to a number. -/
noncomputable def rounded (w : ℝ) : ℤ := if w < 0 then -(magnitude (-w) : ℤ) else magnitude w

theorem rounded_of_nonneg {w : ℝ} (h : 0 ≤ w) : rounded w = magnitude w := if_neg (not_lt.2 h)

theorem rounded_neg (w : ℝ) : rounded (-w) = -rounded w := by
  unfold rounded
  rcases lt_trichotomy w 0 with h | rfl | h
  · rw [if_neg (by linarith), if_pos h, neg_neg]
  · simp
  · rw [if_pos (by linarith), if_neg (by linarith), neg_neg]

theorem rounded_mono {v w : ℝ} (h : v ≤ w) : rounded v ≤ rounded w := by
  unfold rounded
  split_ifs with hv hw hw
  · have := magnitude_mono (neg_le_neg h)
    omega
  · omega
  · linarith
  · exact_mod_cast magnitude_mono h

theorem rounded_nonneg {w : ℝ} (h : 0 ≤ w) : 0 ≤ rounded w := by
  rw [rounded_of_nonneg h]
  omega

theorem abs_rounded (w : ℝ) : |rounded w| = magnitude |w| := by
  rcases le_or_gt 0 w with h | h
  · rw [abs_of_nonneg h, abs_of_nonneg (rounded_nonneg h), rounded_of_nonneg h]
  · have h' : 0 ≤ -w := by linarith
    rw [abs_of_neg h, ← abs_neg, ← rounded_neg, abs_of_nonneg (rounded_nonneg h'),
      rounded_of_nonneg h']

end Roster.Double
