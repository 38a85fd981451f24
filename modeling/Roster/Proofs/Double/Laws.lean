import Roster.Proofs.Double.Literal
import Roster.Proofs.Potentials.Bounds

/-!
# Doubles as scalars

Doubles obey the laws of scalars. Their power function is no part of the arithmetic that is fixed
by the format; it stands as a parameter here, and is required to keep signs and the finite range.
-/

namespace Roster

/-- Doubles with a power function. -/
def Double (_pow : Float → Float → Float) : Type := Float

namespace Double

variable {pow : Float → Float → Float}

instance : Numeral (Double pow) := { instNumeralFloat with pow := pow }

instance : DecidableEq (Double pow) := inferInstanceAs (DecidableEq Float)

/-- The program's doubles are those with its power function. -/
example : (inferInstance : Numeral (Double Float.pow)) = instNumeralFloat := rfl

/-- What is required of a power function for positive exponents. -/
structure LawfulPow (pow : Float → Float → Float) : Prop where
  not_neg {x y : Float} : ¬ x < 0 → 0 < y → ¬ pow x y < 0
  /-- A finite base keeps to the finite range under an exponent that is at most one. -/
  finite {x y : Float} : ¬ x < 0 → Scalar.Finite x → 0 < y → y ≤ 1 → Scalar.Finite (pow x y)

/-- The value of the greatest finite double. -/
theorem hasValue_greatest : HasValue (Scalar.greatest : Float) (top - 2 ^ greatestLoss) := by
  have hv : value (Scalar.greatest : Float) = some (top - 2 ^ greatestLoss) := by decide +kernel
  have hlt : (2 : ℤ) ^ greatestLoss < top := by
    unfold top
    exact pow_lt_pow_right₀ (by norm_num) (by omega)
  have hpos : (0 : ℤ) < 2 ^ greatestLoss := by positivity
  have := top_pos
  exact ⟨hv, by omega, by omega⟩

theorem top_sub_eq : top - 2 ^ greatestLoss = ((2 ^ 53 - 1 : ℕ) * 2 ^ greatestLoss : ℕ) := by
  unfold top
  rw [pow_add]
  push_cast
  ring

/-- No finite double lies beyond the greatest one. -/
theorem HasValue.abs_le {x : Float} {a : ℤ} (h : HasValue x a) :
    -(top - 2 ^ greatestLoss) ≤ a ∧ a ≤ top - 2 ^ greatestLoss := by
  rw [top_sub_eq]
  rcases finite_cases (canonical x) h.value h.neg_top_lt h.lt_top with
    ⟨rfl, -⟩ | ⟨s, m, k, hm, -, hd, hk, rfl⟩
  · omega
  · have hle : m * 2 ^ k ≤ (2 ^ 53 - 1) * 2 ^ greatestLoss :=
      Nat.mul_le_mul (Nat.le_sub_one_of_lt hd.lt) (Nat.pow_le_pow_right (by norm_num) hk)
    cases s <;> simp only [Float.Model.UnpackedFloat.Sign.apply] <;> omega

/-- The finite doubles are those that have a finite value. -/
theorem finite_iff {x : Float} : Scalar.Finite x ↔ ∃ a, HasValue x a := by
  have hg := hasValue_greatest
  have hn := hg.neg
  constructor
  · rintro ⟨hl, hu⟩
    obtain ⟨b, a, hb, ha, hba⟩ := le_iff.1 hl
    obtain ⟨a', c, ha', hc, hac⟩ := le_iff.1 hu
    obtain rfl := Option.some.inj (ha.symm.trans ha')
    obtain rfl := Option.some.inj (hc.symm.trans hg.value)
    obtain rfl := Option.some.inj (hb.symm.trans hn.value)
    have := hg.lt_top
    have := hg.neg_top_lt
    exact ⟨a, ha, by omega, by omega⟩
  · rintro ⟨a, ha⟩
    obtain ⟨hl, hu⟩ := ha.abs_le
    exact ⟨le_iff.2 ⟨_, _, hn.value, ha.value, hl⟩, le_iff.2 ⟨_, _, ha.value, hg.value, hu⟩⟩

/-- A share of a finite double is finite. -/
theorem finite_mul_of_le_one {x y : Float} (hx : Scalar.Finite x) (h₀ : 0 ≤ y) (h₁ : y ≤ 1) :
    Scalar.Finite (x * y) := by
  obtain ⟨a, ha⟩ := finite_iff.1 hx
  obtain ⟨z, b, hz, hb, hzb⟩ := le_iff.1 h₀
  obtain ⟨b', u, hb', hu, hbu⟩ := le_iff.1 h₁
  obtain rfl := Option.some.inj (hz.symm.trans value_zero)
  obtain rfl := Option.some.inj (hb.symm.trans hb')
  obtain rfl := Option.some.inj (hu.symm.trans value_one)
  have hy : HasValue y b := ⟨hb, by have := top_pos; omega, by have := hasValue_one.lt_top; omega⟩
  have hself : capped (rounded a) = a :=
    capped_rounded_value (canonical x) ha.value ha.neg_top_lt ha.lt_top
  have hshare₀ : (0 : ℝ) ≤ b / unit := by
    have := unit_pos
    positivity
  have hshare₁ : (b : ℝ) / unit ≤ 1 := by
    rw [div_le_one (by exact_mod_cast unit_pos)]
    exact_mod_cast hbu
  have hvalue := value_mul ha hy
  rw [mul_div_assoc] at hvalue
  have htop := ha.lt_top
  have hbottom := ha.neg_top_lt
  have hzero : capped (rounded 0) = 0 := by
    rw [rounded_of_nonneg le_rfl, magnitude_zero]
    exact capped_of_abs_le (by omega) (by omega)
  -- The product lies between zero and the finite double, and so does what it is rounded to.
  have hbetween : min a 0 ≤ capped (rounded (a * (b / unit))) ∧
      capped (rounded (a * (b / unit))) ≤ max a 0 := by
    rcases le_total 0 a with hpos | hneg
    · have hreal : (0 : ℝ) ≤ a := by exact_mod_cast hpos
      have hlow := capped_mono (rounded_mono (mul_nonneg hreal hshare₀))
      have hhigh := capped_mono (rounded_mono (mul_le_of_le_one_right hreal hshare₁))
      rw [hzero] at hlow
      rw [hself] at hhigh
      omega
    · have hreal : (a : ℝ) ≤ 0 := by exact_mod_cast hneg
      have hlow := capped_mono (rounded_mono (le_mul_of_le_one_right hreal hshare₁))
      have hhigh := capped_mono (rounded_mono (mul_nonpos_of_nonpos_of_nonneg hreal hshare₀))
      rw [hself] at hlow
      rw [hzero] at hhigh
      omega
  exact finite_iff.2 ⟨_, hvalue, by omega, by omega⟩

/-- The whole numbers that are read as finite doubles. -/
theorem finite_ofInt_iff {n : ℤ} :
    Scalar.Finite (Scalar.ofInt n : Float) ↔ n.natAbs < lastHalf 970 := by
  have hv := value_ofInt n
  have hloss : 53 + greatestLoss = 54 + 2044 := by
    unfold greatestLoss
    rfl
  have htop : top = ((2 ^ (54 + 2044) : ℕ) : ℤ) := by
    rw [top, hloss, Nat.cast_pow, Nat.cast_ofNat]
  have habs : |rounded (n * unit)| < top ↔ n.natAbs < lastHalf 970 := by
    have hn : |(n : ℝ)| = (n.natAbs : ℝ) := by
      rw [← Int.cast_abs, Int.abs_eq_natAbs, Int.cast_natCast]
    have hunit : |(unit : ℝ)| = ((2 ^ 1074 : ℕ) : ℝ) := by
      rw [cast_unit, abs_of_nonneg (by positivity), Nat.cast_pow, Nat.cast_ofNat]
    rw [abs_rounded, htop, Nat.cast_lt, magnitude_lt_two_pow_iff, abs_mul, hn, hunit,
      ← Nat.cast_mul, Nat.cast_lt, lastHalf_add 970 1074,
      Nat.mul_lt_mul_right (Nat.two_pow_pos 1074)]
  rw [← habs, finite_iff, abs_lt]
  constructor
  · rintro ⟨a, ha⟩
    have := ha.neg_top_lt
    have := ha.lt_top
    obtain rfl := Option.some.inj (hv.symm.trans ha.value)
    unfold capped at *
    omega
  · intro h
    refine ⟨_, hv, ?_, ?_⟩
    · unfold capped
      omega
    · unfold capped
      omega

theorem value_sub_one {x : Float} {a : ℤ} (h : HasValue x a) :
    value (x - 1) = some (capped (rounded (a - unit))) := by
  rw [sub_eq_add_neg, value_add h hasValue_one.neg]
  push_cast
  rfl

theorem rounded_neg_unit : capped (rounded (-(unit : ℝ))) = -unit := by
  have h := capped_rounded_natCast (n := 1) (by norm_num)
  rw [Nat.cast_one, Nat.cast_one, one_mul, one_mul] at h
  rw [rounded_neg, capped_neg, h]

/-- What a finite double that is not below zero has above one lies between minus one and itself. -/
theorem exists_hasValue_sub_one {x : Float} {a : ℤ} (h : HasValue x a) (h₀ : 0 ≤ a) :
    ∃ d, HasValue (x - 1) d ∧ -unit ≤ d := by
  have hunit : (0 : ℝ) < unit := Int.cast_pos.2 unit_pos
  have hl : -(unit : ℝ) ≤ a - unit := by
    have : (0 : ℝ) ≤ a := by exact_mod_cast h₀
    linarith
  have hu : (a : ℝ) - unit ≤ a := by linarith
  have hl := capped_mono (rounded_mono hl)
  have hu := capped_mono (rounded_mono hu)
  rw [rounded_neg_unit] at hl
  rw [capped_rounded_value (canonical x) h.value h.neg_top_lt h.lt_top] at hu
  have := h.lt_top
  have := hasValue_one.lt_top
  exact ⟨_, ⟨value_sub_one h, by omega, by omega⟩, hl⟩

/-- What is left of one, with a share of what a finite double has above one or lacks of it. -/
theorem not_neg_one_add_mul_pred {c x : Float} (hc₀ : 0 ≤ c) (hc₁ : c ≤ 1) (hx₀ : 0 ≤ x)
    (hx : Scalar.Finite x) : ¬ 1 + c * (x - 1) < 0 := by
  obtain ⟨a, ha⟩ := finite_iff.1 hx
  obtain ⟨_, c', h₀, hc, hc₀⟩ := le_iff.1 hc₀
  obtain rfl := Option.some.inj (value_zero.symm.trans h₀)
  obtain ⟨c'', _, hc', h₁, hc₁⟩ := le_iff.1 hc₁
  obtain rfl := Option.some.inj (value_one.symm.trans h₁)
  obtain rfl := Option.some.inj (hc.symm.trans hc')
  obtain ⟨_, a', h₀', ha', ha₀⟩ := le_iff.1 hx₀
  obtain rfl := Option.some.inj (value_zero.symm.trans h₀')
  obtain rfl := Option.some.inj (ha.value.symm.trans ha')
  have hunit := unit_pos
  have hunit' : (0 : ℝ) < unit := Int.cast_pos.2 hunit
  have hone := hasValue_one.lt_top
  have hc' : HasValue c c' := ⟨hc, by omega, by omega⟩
  obtain ⟨d, hd, hd₀⟩ := exists_hasValue_sub_one ha ha₀
  -- A share of it is no lower than it is, or than nothing.
  have hmul : ∃ p, HasValue (c * (x - 1)) p ∧ -unit ≤ p := by
    have hfix := capped_rounded_value (canonical _) hd.value hd.neg_top_lt hd.lt_top
    have hc₀' : (0 : ℝ) ≤ c' := by exact_mod_cast hc₀
    have hc₁' : (c' : ℝ) ≤ unit := by exact_mod_cast hc₁
    have htop := hd.neg_top_lt
    have htop' := hd.lt_top
    rcases le_total 0 d with h | h
    · have h' : (0 : ℝ) ≤ d := by exact_mod_cast h
      have hl := capped_rounded_nonneg (div_nonneg (mul_nonneg hc₀' h') hunit'.le)
      have hu : (c' : ℝ) * d / unit ≤ d := by
        rw [div_le_iff₀ hunit', mul_comm (d : ℝ)]
        exact mul_le_mul_of_nonneg_right hc₁' h'
      have hu := capped_mono (rounded_mono hu)
      exact ⟨_, ⟨value_mul hc' hd, by omega, by omega⟩, by omega⟩
    · have h' : (d : ℝ) ≤ 0 := by exact_mod_cast h
      have hl : (d : ℝ) ≤ c' * d / unit := by
        rw [le_div_iff₀ hunit', mul_comm (d : ℝ)]
        exact mul_le_mul_of_nonpos_right hc₁' h'
      have hu : (c' : ℝ) * d / unit ≤ (0 : ℤ) := by
        rw [Int.cast_zero]
        exact div_nonpos_of_nonpos_of_nonneg (mul_nonpos_of_nonneg_of_nonpos hc₀' h') hunit'.le
      have hl := capped_mono (rounded_mono hl)
      have hu := capped_mono (rounded_mono hu)
      rw [capped_rounded_value (canonical 0) value_zero (by omega) (by omega)] at hu
      exact ⟨_, ⟨value_mul hc' hd, by omega, by omega⟩, by omega⟩
  obtain ⟨p, hp, hp₀⟩ := hmul
  rw [not_lt_zero_iff, value_add hasValue_one hp]
  intro b hb
  obtain rfl := Option.some.inj hb
  refine capped_rounded_nonneg ?_
  have : -(unit : ℝ) ≤ p := by exact_mod_cast hp₀
  linarith

instance : LawfulScalar (Double pow) where
  le_self_of_le_left := fun {a b} h => by
    obtain ⟨x, y, hx, hy, hle⟩ := le_iff.1 h
    exact le_iff.2 ⟨x, x, hx, hx, le_rfl⟩
  le_self_of_le_right := fun {a b} h => by
    obtain ⟨x, y, hx, hy, hle⟩ := le_iff.1 h
    exact le_iff.2 ⟨y, y, hy, hy, le_rfl⟩
  le_trans := fun {a b c} h h' => by
    obtain ⟨x, y, hx, hy, hle⟩ := le_iff.1 h
    obtain ⟨y', z, hy', hz, hle'⟩ := le_iff.1 h'
    obtain rfl := Option.some.inj (hy.symm.trans hy')
    exact le_iff.2 ⟨x, z, hx, hz, hle.trans hle'⟩
  le_total := fun {a b} h h' => by
    obtain ⟨x, _, hx, -, -⟩ := le_iff.1 h
    obtain ⟨y, _, hy, -, -⟩ := le_iff.1 h'
    rcases le_total x y with hle | hle
    · exact Or.inl (le_iff.2 ⟨x, y, hx, hy, hle⟩)
    · exact Or.inr (le_iff.2 ⟨y, x, hy, hx, hle⟩)
  lt_iff := fun {a b} => by
    constructor
    · intro h
      obtain ⟨x, y, hx, hy, hlt⟩ := lt_iff.1 h
      refine ⟨le_iff.2 ⟨x, y, hx, hy, hlt.le⟩, fun hba => ?_⟩
      obtain ⟨y', x', hy', hx', hle⟩ := le_iff.1 hba
      obtain rfl := Option.some.inj (hx.symm.trans hx')
      obtain rfl := Option.some.inj (hy.symm.trans hy')
      omega
    · rintro ⟨h, hn⟩
      obtain ⟨x, y, hx, hy, hle⟩ := le_iff.1 h
      refine lt_iff.2 ⟨x, y, hx, hy, lt_of_not_ge fun hyx => ?_⟩
      exact hn (le_iff.2 ⟨y, x, hy, hx, hyx⟩)
  zero_le_one := le_iff.2 ⟨0, unit, value_zero, value_one, unit_pos.le⟩
  one_le_greatest := le_iff.2 ⟨_, _, value_one, hasValue_greatest.value, hasValue_one.abs_le.2⟩
  neg_greatest_le_zero :=
    le_iff.2 ⟨_, _, hasValue_greatest.neg.value, value_zero, hasValue_zero.abs_le.1⟩
  not_neg_add := add_not_neg
  not_neg_mul := mul_not_neg
  not_neg_div := div_not_neg
  not_neg_sqrt := sqrt_not_neg
  pos_sqrt := sqrt_pos
  finite_one_div_sqrt := fun h => finite_iff.2 (hasValue_one_div_sqrt h)
  not_neg_one_add_mul_pred := not_neg_one_add_mul_pred
  not_neg_ofScientific := not_neg_ofScientific
  pos_ofInt := zero_lt_ofInt

theorem amount_critDamage :
    Scalar.Amount (Settings.default : Settings (Double pow)).critDamage := by
  have h : Scalar.Finite (1.5 : Float) ∧ ¬ (1.5 : Float) < 0 := by decide +kernel
  exact Scalar.amount_iff.2 h

instance : LawfulWeights (Double pow) where
  attackWeight := show ¬ (1 - 0.6 : Float) < 0 by decide +kernel
  two := show (0 : Float) < 2.0 by decide +kernel
  critDamage := amount_critDamage
  floor := show (0 : Float) < 1e-6 by decide +kernel
  stabPower := show (0 : Float) < 1.5 by decide +kernel
  stabRoot := show (0 : Float) < 1 / 1.5 ∧ (1 / 1.5 : Float) ≤ 1 by decide +kernel
  stabExponent := show (0 : Float) < 0.6 ∧ (0.6 : Float) ≤ 1 by decide +kernel
  typeDefenseExponent := show (0 : Float) < 0.65 ∧ (0.65 : Float) ≤ 1 by decide +kernel

theorem lawfulPower (h : LawfulPow pow) : LawfulPower (Double pow) where
  not_neg_pow := h.not_neg
  finite_pow := h.finite

/-- The identity behaves like a power on zero, one and infinity. -/
theorem lawfulPow_fst : LawfulPow fun x _ => x where
  not_neg := fun hx _ => hx
  finite := fun _ hf _ _ => hf

instance : LawfulScalar Float := inferInstanceAs (LawfulScalar (Double Float.pow))

instance : LawfulWeights Float := inferInstanceAs (LawfulWeights (Double Float.pow))

end Double

end Roster
