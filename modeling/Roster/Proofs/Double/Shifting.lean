import Mathlib.Algebra.Order.Field.Power
import Roster.Proofs.Double.Rounding

/-!
# Mantissas with residual bits

Arithmetic on doubles computes a mantissa together with a round bit and a sticky bit, shifts digits
out of it and rounds what is left. The two bits place the exact number between two mantissas well
enough: what comes out is the magnitude of the double nearest to the exact number.
-/

namespace Roster.Double

open Float.Model (Format totalExponent UnpackedFloat)
open Float.Model.UnpackedFloat

/-- The mantissa and its bits place a number between two naturals. -/
structure Tracks (em : ExtendedMantissa) (r : ℝ) : Prop where
  le : em.mantissa ≤ r
  lt : r < em.mantissa + 1
  roundBit : em.roundBit = true ↔ (em.mantissa : ℝ) + 1 / 2 ≤ r
  stickyBit : em.stickyBit = true ↔ r ≠ em.mantissa ∧ r ≠ em.mantissa + 1 / 2

namespace Tracks

theorem exact (m : ℕ) : Tracks (.ofMantissaAndAccuracy m .exact) m := by
  refine ⟨le_rfl, by simp [ExtendedMantissa.ofMantissaAndAccuracy], ?_, ?_⟩
  · simp only [ExtendedMantissa.ofMantissaAndAccuracy, Bool.false_eq_true, false_iff, not_le]
    linarith
  · simp [ExtendedMantissa.ofMantissaAndAccuracy]

/-- A number strictly between two naturals is tracked by its order to the half between them. -/
theorem inexact {m : ℕ} {r : ℝ} {o : Ordering} (hm : (m : ℝ) < r) (hr : r < m + 1)
    (hlt : o = .lt ↔ r < m + 1 / 2) (heq : o = .eq ↔ r = m + 1 / 2) :
    Tracks (.ofMantissaAndAccuracy m (.inexact o)) r := by
  have hne : r ≠ m := hm.ne'
  cases o with
  | lt =>
    have h : r < m + 1 / 2 := hlt.1 rfl
    exact ⟨hm.le, hr, by simpa [ExtendedMantissa.ofMantissaAndAccuracy] using h,
      by simp [ExtendedMantissa.ofMantissaAndAccuracy, hne, by simpa using h.ne]⟩
  | eq =>
    have h : r = m + 1 / 2 := heq.1 rfl
    exact ⟨hm.le, hr, by simp [ExtendedMantissa.ofMantissaAndAccuracy, h],
      by simp [ExtendedMantissa.ofMantissaAndAccuracy, h]⟩
  | gt =>
    have h₁ : ¬ r < m + 1 / 2 := fun h => by simpa using hlt.2 h
    have h₂ : r ≠ m + 1 / 2 := fun h => by simpa using heq.2 h
    exact ⟨hm.le, hr, by simpa [ExtendedMantissa.ofMantissaAndAccuracy] using not_lt.1 h₁,
      by simp [ExtendedMantissa.ofMantissaAndAccuracy, hne, by simpa using h₂]⟩

variable {em : ExtendedMantissa} {r : ℝ}

theorem floor (h : Tracks em r) : ⌊r⌋₊ = em.mantissa :=
  (Nat.floor_eq_iff ((Nat.cast_nonneg _).trans h.le)).2 ⟨h.le, h.lt⟩

/-- Rounding a tracked number needs no more than the mantissa and its bits. -/
theorem roundedMantissa (h : Tracks em r) : em.roundedMantissa = nearestNat r := by
  have hf := h.floor
  obtain ⟨-, -, hr, hs⟩ := h
  unfold nearestNat
  rw [hf]
  rcases em with ⟨m, _ | _, _ | _⟩ <;>
    simp only [Bool.false_eq_true, false_iff, true_iff, not_le, not_and, not_not] at hr hs <;>
    simp only [ExtendedMantissa.roundedMantissa, ExtendedMantissa.accuracy,
      Accuracy.roundToNearestEven]
  · rw [if_pos (by linarith)]
  · rw [if_pos (by linarith)]
  · have : r = m + 1 / 2 := hs (by intro he; linarith)
    rw [if_neg (by linarith), if_neg (by linarith)]
  · have : (m : ℝ) + 1 / 2 < r := lt_of_le_of_ne hr (Ne.symm hs.2)
    rw [if_neg (by linarith), if_pos (by linarith)]

/-- A digit that is shifted out is remembered in the bits. -/
theorem shiftRightOne (h : Tracks em r) : Tracks em.shiftRightOne (r / 2) := by
  obtain ⟨hl, hu, hr, hs⟩ := h
  rcases em with ⟨m, round, sticky⟩
  simp only [ExtendedMantissa.shiftRightOne] at *
  have hsplit : (m : ℝ) = 2 * (m / 2 : ℕ) + (m % 2 : ℕ) := by
    exact_mod_cast (Nat.div_add_mod m 2).symm
  have hany : (round || sticky) = true ↔ r ≠ m := by
    rw [Bool.or_eq_true, hr, hs]
    constructor
    · rintro (h | h)
      · intro he
        linarith
      · exact h.1
    · intro hne
      by_cases hh : r = m + 1 / 2
      · exact Or.inl hh.ge
      · exact Or.inr ⟨hne, hh⟩
  rcases Nat.mod_two_eq_zero_or_one m with hb | hb <;> rw [hb] at hsplit <;> push_cast at hsplit
  · refine ⟨by linarith, by linarith, ?_, hany.trans ?_⟩
    · simp only [hb, bne_self_eq_false, Bool.false_eq_true, false_iff, not_le]
      linarith
    · constructor
      · intro hne
        exact ⟨fun he => hne (by linarith), fun he => by linarith⟩
      · rintro ⟨hne, -⟩ he
        exact hne (by linarith)
  · refine ⟨by linarith, by linarith, ?_, hany.trans ?_⟩
    · simp only [hb, bne_iff_ne, ne_eq, one_ne_zero, not_false_eq_true, true_iff]
      linarith
    · constructor
      · intro hne
        exact ⟨fun he => by linarith, fun he => hne (by linarith)⟩
      · rintro ⟨-, hne⟩ he
        exact hne (by linarith)

theorem shiftRight (h : Tracks em r) (n : ℕ) : Tracks (em >>> n) (r / 2 ^ n) := by
  change Tracks (n.repeat ExtendedMantissa.shiftRightOne em) _
  induction n with
  | zero => simpa [Nat.repeat] using h
  | succ n ih =>
    rw [Nat.repeat, pow_succ, ← div_div]
    exact ih.shiftRightOne

end Tracks

theorem mantissaBits_binary64 : Format.binary64.mantissaBits = 53 := rfl

theorem minExponent_binary64 : Format.binary64.minExponent = -1074 := rfl

/-- The exponent that a mantissa is shifted to. -/
theorem targetExponent_eq (m : ℕ) (e : ℤ) :
    Format.binary64.targetExponent (totalExponent m e) = max (m.log2 + e - 52) (-1074) := by
  rw [Format.targetExponent, totalExponent, mantissaBits_binary64, minExponent_binary64]
  omega

/-- A mantissa and the number of binary digits that were lost in front of it. -/
structure Digits (n k : ℕ) : Prop where
  lt : n < 2 ^ 53
  full : k = 0 ∨ 2 ^ 52 ≤ n

theorem finite_congr {s : Sign} {m m' : ℕ} {e e' : ℤ} (h : m = m') (he : e = e') (hm : 0 < m) :
    UnpackedFloat.finite s m e hm = .finite s m' e' (h ▸ hm) := by
  subst h he
  rfl

/-- The double of a sign and a magnitude `n · 2 ^ k`. -/
def ofDigits (s : Sign) (n k : ℕ) : UnpackedFloat :=
  if h : n = 0 then .zero s else .finite s n (k - 1074) (Nat.pos_of_ne_zero h)

/-- A mantissa of at most 53 digits is not shifted. -/
theorem shiftToTargetExponent_of_lt {m : ℕ} {e : ℤ} (hm : m < 2 ^ 53) (he : -1074 ≤ e) :
    shiftToTargetExponent Format.binary64 m e .exact = (⟨m, false, false⟩, e) := by
  have hl : m.log2 ≤ 52 := by
    by_cases hz : m = 0
    · rw [hz, Nat.log2_zero]
      omega
    · have := (Nat.log2_lt hz).2 hm
      omega
  have hs : (Format.binary64.targetExponent (totalExponent m e) - e).toNat = 0 := by
    rw [targetExponent_eq]
    omega
  simp only [shiftToTargetExponent, shiftToExponent, hs]
  exact Prod.ext rfl (by simp)

/-- The mantissa that rounding has carried to 54 digits is shifted by one. -/
theorem shiftToTargetExponent_carry {e : ℤ} (he : -1074 ≤ e) :
    shiftToTargetExponent Format.binary64 (2 ^ 53) e .exact = (⟨2 ^ 52, false, false⟩, e + 1) := by
  have hs : (Format.binary64.targetExponent (totalExponent (2 ^ 53) e) - e).toNat = 1 := by
    rw [targetExponent_eq, Nat.log2_two_pow]
    omega
  simp only [shiftToTargetExponent, shiftToExponent, hs]
  exact Prod.ext rfl (by simp)

theorem lostDigits_le {w : ℝ} {n : ℕ} (h : w < 2 ^ (n + 1)) : lostDigits w ≤ n - 52 := by
  have hl : Nat.log2 ⌊w⌋₊ ≤ n := by
    by_cases hz : ⌊w⌋₊ = 0
    · simp [hz]
    · have : ⌊w⌋₊ < 2 ^ (n + 1) := 
        (Nat.floor_lt' (pow_ne_zero _ two_ne_zero)).2 (by exact_mod_cast h)
      have := (Nat.log2_lt hz).2 this
      omega
  unfold lostDigits
  omega

theorem le_lostDigits {w : ℝ} {n : ℕ} (h : 2 ^ n ≤ w) : n - 52 ≤ lostDigits w := by
  have hf : 2 ^ n ≤ ⌊w⌋₊ := Nat.le_floor (by exact_mod_cast h)
  have hz : ⌊w⌋₊ ≠ 0 := by
    have : 0 < 2 ^ n := by positivity
    omega
  have := (Nat.le_log2 hz).2 hf
  unfold lostDigits
  omega

section Rounding

variable {m : ℕ} {e : ℤ} {acc : Accuracy} {w : ℝ}

/-- The digits that a mantissa loses are those that the number it stands for loses. -/
theorem lostDigits_eq (hw : Tracks (.ofMantissaAndAccuracy m acc) (w / 2 ^ (e + 1074)))
    (hm : (ExtendedMantissa.ofMantissaAndAccuracy m acc).mantissa = m)
    (hwide : 52 ≤ m.log2 ∨ e ≤ -1074) :
    (lostDigits w : ℤ) = max (m.log2 + e - 52) (-1074) + 1074 := by
  have hpos : (0 : ℝ) < 2 ^ (e + 1074) := by positivity
  have hlt : w < (2 : ℝ) ^ ((m.log2 : ℤ) + e + 1075) := by
    have h := hw.lt
    rw [hm, div_lt_iff₀ hpos] at h
    have hn : (m : ℝ) + 1 ≤ 2 ^ (m.log2 + 1) := by
      exact_mod_cast (Nat.lt_log2_self : m < 2 ^ (m.log2 + 1))
    calc
      w < (m + 1) * 2 ^ (e + 1074) := h
      _ ≤ 2 ^ (m.log2 + 1) * 2 ^ (e + 1074) := by gcongr
      _ = 2 ^ ((m.log2 : ℤ) + e + 1075) := by
        rw [← zpow_natCast, ← zpow_add₀ (by norm_num)]
        congr 1
        push_cast
        ring
  have hle : m ≠ 0 → (2 : ℝ) ^ ((m.log2 : ℤ) + e + 1074) ≤ w := by
    intro hz
    have h := hw.le
    rw [hm, le_div_iff₀ hpos] at h
    have hn : (2 : ℝ) ^ m.log2 ≤ m := by exact_mod_cast Nat.log2_self_le hz
    calc
      (2 : ℝ) ^ ((m.log2 : ℤ) + e + 1074) = 2 ^ m.log2 * 2 ^ (e + 1074) := by
        rw [← zpow_natCast, ← zpow_add₀ (by norm_num)]
        congr 1
        ring
      _ ≤ m * 2 ^ (e + 1074) := by gcongr
      _ ≤ w := h
  rcases lt_or_ge ((m.log2 : ℤ) + e + 1074) 0 with ht | ht
  · have : lostDigits w ≤ 0 - 52 := lostDigits_le (hlt.trans_le (by
      calc
        (2 : ℝ) ^ ((m.log2 : ℤ) + e + 1075) ≤ 2 ^ (1 : ℤ) :=
          zpow_le_zpow_right₀ (by norm_num) (by omega)
        _ = 2 ^ (0 + 1) := by norm_num))
    omega
  · obtain ⟨n, hn⟩ := Int.eq_ofNat_of_zero_le ht
    have hu : lostDigits w ≤ n - 52 := lostDigits_le (by
      rw [show (m.log2 : ℤ) + e + 1075 = ((n + 1 : ℕ) : ℤ) by omega, zpow_natCast] at hlt
      exact hlt)
    by_cases hz : m = 0
    · have : m.log2 = 0 := by rw [hz, Nat.log2_zero]
      omega
    · have hl : n - 52 ≤ lostDigits w := le_lostDigits (by
        have := hle hz
        rw [hn] at this
        exact_mod_cast this)
      omega

/-- What rounding makes of a tracked number is the double of its magnitude. -/
theorem roundWithAccuracy_eq (s : Sign)
    (hw : Tracks (.ofMantissaAndAccuracy m acc) (w / 2 ^ (e + 1074)))
    (hwide : 52 ≤ m.log2 ∨ e ≤ -1074) :
    ∃ n k, Digits n k ∧ magnitude w = n * 2 ^ k ∧
      roundWithAccuracy Format.binary64 s m e acc = ofDigits s n k := by
  have hm : (ExtendedMantissa.ofMantissaAndAccuracy m acc).mantissa = m := by
    cases acc with
    | exact => rfl
    | inexact o => cases o <;> rfl
  have hlost := lostDigits_eq hw hm hwide
  have htarget := targetExponent_eq m e
  generalize hk : lostDigits w = k at hlost
  have hs : e + ((Format.binary64.targetExponent (totalExponent m e) - e).toNat : ℤ) =
      k - 1074 := by omega
  have hem := hw.shiftRight (Format.binary64.targetExponent (totalExponent m e) - e).toNat
  have hscale : w / 2 ^ (e + 1074) /
      2 ^ (Format.binary64.targetExponent (totalExponent m e) - e).toNat = w / 2 ^ k := by
    rw [div_div, ← zpow_natCast, ← zpow_add₀ (by norm_num), ← zpow_natCast]
    congr 2
    omega
  rw [hscale] at hem
  have hround := hem.roundedMantissa
  have hmag : magnitude w = nearestNat (w / 2 ^ k) * 2 ^ k := by rw [magnitude, hk]
  have hle : nearestNat (w / 2 ^ k) ≤ 2 ^ 53 := hk ▸ nearestNat_le_pow w
  have hfull : k = 0 ∨ 2 ^ 52 ≤ nearestNat (w / 2 ^ k) := by
    by_cases hz : k = 0
    · exact Or.inl hz
    · exact Or.inr (hk ▸ pow_le_nearestNat (hk ▸ hz))
  have hfirst : roundWithAccuracy Format.binary64 s m e acc =
      let second := shiftToTargetExponent Format.binary64 (nearestNat (w / 2 ^ k))
        ((k : ℤ) - 1074) .exact
      if h : second.1.mantissa = 0 then .zero s
      else .finite s second.1.mantissa second.2 (Nat.pos_of_ne_zero h) := by
    rw [← hround, ← hs]
    rfl
  rcases hle.lt_or_eq with hlt | heq
  · refine ⟨nearestNat (w / 2 ^ k), k, ⟨hlt, hfull⟩, hmag, ?_⟩
    rw [hfirst, shiftToTargetExponent_of_lt hlt (by omega)]
    rfl
  · refine ⟨2 ^ 52, k + 1, ⟨by norm_num, Or.inr le_rfl⟩, ?_, ?_⟩
    · rw [hmag, heq]
      ring
    · have hne : 2 ^ 52 ≠ 0 := by norm_num
      have hnext : (k : ℤ) - 1074 + 1 = ((k + 1 : ℕ) : ℤ) - 1074 := by omega
      rw [hfirst, heq, shiftToTargetExponent_carry (by omega), ofDigits, dif_neg hne]
      dsimp only
      rw [dif_neg hne]
      exact finite_congr rfl hnext _

end Rounding

end Roster.Double
