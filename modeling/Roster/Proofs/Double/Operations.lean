import Roster.Proofs.Double.Quotient

/-!
# Operations on doubles

The program's operations on doubles, by the values of their operands. A finite operand gives the
nearest double to the exact result. Where operands are infinite the results keep the sign that the
operands have in common, or are not numbers.
-/

namespace Roster.Double

open Float.Model (Format UnpackedFloat)
open Float.Model.UnpackedFloat

/-- A double that is neither infinite nor undefined, and its value. -/
structure HasValue (x : Float) (a : ℤ) : Prop where
  value : value x = some a
  neg_top_lt : -top < a
  lt_top : a < top

theorem unpack_add (x y : Float) : (x + y).toModel.unpack =
    repacked (UnpackedFloat.add Format.binary64 x.toModel.unpack y.toModel.unpack) := rfl

theorem unpack_mul (x y : Float) : (x * y).toModel.unpack =
    repacked (UnpackedFloat.mul Format.binary64 x.toModel.unpack y.toModel.unpack) := rfl

theorem unpack_div (x y : Float) : (x / y).toModel.unpack =
    repacked (UnpackedFloat.div Format.binary64 x.toModel.unpack y.toModel.unpack) := rfl

theorem unpack_sqrt (x : Float) : x.sqrt.toModel.unpack =
    repacked (UnpackedFloat.sqrt Format.binary64 x.toModel.unpack) := rfl

theorem unpack_neg (x : Float) : (-x).toModel.unpack = repacked x.toModel.unpack.neg := rfl

@[simp] theorem value_zero : value 0 = some 0 := by decide +kernel

theorem hasValue_zero : HasValue 0 0 := ⟨value_zero, by have := top_pos; omega, top_pos⟩

theorem value_eq_none {x : Float} (h : value x = none) : x.toModel.unpack = .notANumber := by
  unfold value at h
  cases hu : x.toModel.unpack with
  | notANumber => rfl
  | infinity s => rw [hu] at h; cases h
  | zero s => rw [hu] at h; cases h
  | finite s m e hm => rw [hu] at h; cases h

theorem value_eq_top {x : Float} (h : value x = some top) :
    x.toModel.unpack = .infinity .positive := by
  have hpos := top_pos
  have hc := canonical x
  unfold value at h
  generalize x.toModel.unpack = u at h hc
  cases u with
  | notANumber => cases h
  | infinity s =>
    have := Option.some.inj h
    cases s
    · simp only [Sign.apply] at this
      omega
    · rfl
  | zero s =>
    have := Option.some.inj h
    omega
  | finite s m e hm =>
    obtain ⟨k, -, -, -, hv, h₀, h₁⟩ := hc.value
    have := Option.some.inj (hv.symm.trans h)
    cases s <;> simp only [Sign.apply] at this <;> omega

theorem not_lt_zero_iff {x : Float} : ¬ x < 0 ↔ ∀ a, value x = some a → 0 ≤ a := by
  rw [lt_iff]
  constructor
  · intro h a ha
    by_contra hneg
    exact h ⟨a, 0, ha, value_zero, not_le.1 hneg⟩
  · rintro h ⟨a, b, ha, hb, hlt⟩
    obtain rfl := Option.some.inj (value_zero.symm.trans hb)
    exact absurd (h a ha) (not_le.2 hlt)

theorem zero_lt_iff {x : Float} : 0 < x ↔ ∃ a, value x = some a ∧ 0 < a := by
  rw [lt_iff]
  constructor
  · rintro ⟨a, b, ha, hb, hlt⟩
    obtain rfl := Option.some.inj (value_zero.symm.trans ha)
    exact ⟨b, hb, hlt⟩
  · rintro ⟨a, ha, hlt⟩
    exact ⟨0, a, value_zero, ha, hlt⟩

/-- What is not negative is no number, positively infinite, or finite and not negative. -/
theorem not_neg_cases {x : Float} (h : ¬ x < 0) :
    x.toModel.unpack = .notANumber ∨ x.toModel.unpack = .infinity .positive ∨
      ∃ a, HasValue x a ∧ 0 ≤ a := by
  have hpos := top_pos
  cases hv : value x with
  | none => exact Or.inl (value_eq_none hv)
  | some a =>
    have h₀ := not_lt_zero_iff.1 h a hv
    have h₁ := (abs_value_le hv).2
    rcases h₁.lt_or_eq with hlt | rfl
    · exact Or.inr (Or.inr ⟨a, ⟨hv, by omega, hlt⟩, h₀⟩)
    · exact Or.inr (Or.inl (value_eq_top hv))

/-! ### Finite operands -/

section Finite

variable {x y : Float} {a b : ℤ}

theorem value_add (hx : HasValue x a) (hy : HasValue y b) :
    value (x + y) = some (capped (rounded (a + b))) :=
  unpackedValue_add (canonical x) (canonical y) hx.value hy.value ⟨hx.neg_top_lt, hx.lt_top⟩
    ⟨hy.neg_top_lt, hy.lt_top⟩

theorem value_mul (hx : HasValue x a) (hy : HasValue y b) :
    value (x * y) = some (capped (rounded (a * b / unit))) :=
  unpackedValue_mul (canonical x) (canonical y) hx.value hy.value ⟨hx.neg_top_lt, hx.lt_top⟩
    ⟨hy.neg_top_lt, hy.lt_top⟩

theorem value_div (hx : HasValue x a) (hy : HasValue y b) (hb : b ≠ 0) :
    value (x / y) = some (capped (rounded (a / b * unit))) :=
  unpackedValue_div (canonical x) (canonical y) hx.value hy.value ⟨hx.neg_top_lt, hx.lt_top⟩
    ⟨hy.neg_top_lt, hy.lt_top⟩ hb

theorem value_sqrt (hx : HasValue x a) (ha : 0 < a) :
    value x.sqrt = some (capped (rounded (√(a / unit) * unit))) :=
  unpackedValue_sqrt (canonical x) hx.value ha hx.lt_top

end Finite

/-! ### Differences and negation -/

theorem canonical_neg {u : UnpackedFloat} (h : Canonical u) : Canonical u.neg := by
  cases u with
  | finite s m e hm => exact h
  | _ => trivial

theorem unpackedValue_neg (u : UnpackedFloat) :
    unpackedValue u.neg = (unpackedValue u).map (-·) := by
  cases u with
  | notANumber => rfl
  | infinity s => exact congrArg some (apply_neg s _)
  | zero s => rfl
  | finite s m e hm => exact congrArg some (apply_neg s _)

@[simp] theorem value_neg (x : Float) : value (-x) = (value x).map (-·) := by
  unfold value
  rw [unpack_neg, repacked_of_canonical (canonical_neg (canonical x)), unpackedValue_neg]

theorem HasValue.neg {x : Float} {a : ℤ} (h : HasValue x a) : HasValue (-x) (-a) :=
  ⟨by rw [value_neg, h.value]; rfl, by have := h.lt_top; omega, by have := h.neg_top_lt; omega⟩

theorem sub_eq_add_neg (x y : Float) : x - y = x + -y := by
  have hu : UnpackedFloat.sub Format.binary64 x.toModel.unpack y.toModel.unpack =
      UnpackedFloat.add Format.binary64 x.toModel.unpack (-y).toModel.unpack := by
    rw [unpack_neg, repacked_of_canonical (canonical_neg (canonical y))]
    generalize x.toModel.unpack = u
    generalize y.toModel.unpack = v
    cases u with
    | notANumber => rfl
    | infinity s => cases v <;> rfl
    | zero s => cases v <;> rfl
    | finite s m e hm =>
      cases v with
      | finite t n f hn =>
        have h (p q : ℤ) : p - t.apply q = p + (-t).apply q := by rw [apply_neg, Int.sub_eq_add_neg]
        change normalize _ (_ - t.apply _) _ _ = normalize _ (_ + (-t).apply _) _ _
        rw [h]
      | _ => rfl
  exact congrArg (fun u => Float.ofModel (Float.Model.pack u)) hu

/-! ### Infinite operands -/

theorem unpack_neg_cases {x : Float} (h : ¬ x < 0) {a : ℤ} (hx : HasValue x a) :
    (∃ s, x.toModel.unpack = .zero s) ∨ ∃ m e hm, x.toModel.unpack = .finite .positive m e hm := by
  rcases finite_cases (canonical x) hx.value hx.neg_top_lt hx.lt_top with
    ⟨-, s, hs⟩ | ⟨s, m, k, hm, hu, -, -, rfl⟩
  · exact Or.inl ⟨s, hs⟩
  · have h₀ : 0 ≤ s.apply ((m * 2 ^ k : ℕ) : ℤ) := not_lt_zero_iff.1 h _ hx.value
    obtain rfl := (apply_nonneg_iff (by positivity) s).1 h₀
    exact Or.inr ⟨m, _, hm, hu⟩

theorem capped_rounded_nonneg {w : ℝ} (h : 0 ≤ w) : 0 ≤ capped (rounded w) :=
  capped_nonneg (rounded_nonneg h)

theorem not_neg_of_unpack {x : Float} {u : UnpackedFloat} (hx : x.toModel.unpack = repacked u)
    (h : u = .notANumber ∨ u = .infinity .positive ∨ ∃ s, u = .zero s) : ¬ x < 0 := by
  rw [not_lt_zero_iff]
  intro a ha
  unfold value at ha
  have hpos := top_pos
  rw [hx] at ha
  rcases h with rfl | rfl | ⟨s, rfl⟩
  · rw [repacked_notANumber] at ha
    cases ha
  · rw [repacked_infinity] at ha
    exact Option.some.inj ha ▸ hpos.le
  · rw [repacked_zero] at ha
    exact (Option.some.inj ha).le

theorem add_not_neg {x y : Float} (hx : ¬ x < 0) (hy : ¬ y < 0) : ¬ x + y < 0 := by
  have hu := unpack_add x y
  rcases not_neg_cases hx with hx' | hx' | ⟨a, ha, ha₀⟩
  · rw [hx'] at hu
    exact not_neg_of_unpack hu (Or.inl rfl)
  · rw [hx'] at hu
    refine not_neg_of_unpack hu ?_
    rcases not_neg_cases hy with hy' | hy' | ⟨b, hb, hb₀⟩
    · rw [hy']
      exact Or.inl rfl
    · rw [hy']
      exact Or.inr (Or.inl rfl)
    · rcases unpack_neg_cases hy hb with ⟨s, hs⟩ | ⟨m, e, hm, hs⟩ <;> rw [hs]
      · exact Or.inr (Or.inl rfl)
      · exact Or.inr (Or.inl rfl)
  · rcases not_neg_cases hy with hy' | hy' | ⟨b, hb, hb₀⟩
    · rw [hy'] at hu
      refine not_neg_of_unpack hu (Or.inl ?_)
      cases x.toModel.unpack <;> rfl
    · rw [hy'] at hu
      refine not_neg_of_unpack hu (Or.inr (Or.inl ?_))
      rcases unpack_neg_cases hx ha with ⟨s, hs⟩ | ⟨m, e, hm, hs⟩ <;> rw [hs] <;> rfl
    · rw [not_lt_zero_iff, value_add ha hb]
      intro c hc
      obtain rfl := Option.some.inj hc
      exact capped_rounded_nonneg (by positivity)

theorem mul_not_neg {x y : Float} (hx : ¬ x < 0) (hy : ¬ y < 0) : ¬ x * y < 0 := by
  have hu := unpack_mul x y
  rcases not_neg_cases hx with hx' | hx' | ⟨a, ha, ha₀⟩
  · rw [hx'] at hu
    exact not_neg_of_unpack hu (Or.inl rfl)
  · rw [hx'] at hu
    refine not_neg_of_unpack hu ?_
    rcases not_neg_cases hy with hy' | hy' | ⟨b, hb, hb₀⟩
    · rw [hy']
      exact Or.inl rfl
    · rw [hy']
      exact Or.inr (Or.inl rfl)
    · rcases unpack_neg_cases hy hb with ⟨s, hs⟩ | ⟨m, e, hm, hs⟩ <;> rw [hs]
      · exact Or.inl rfl
      · exact Or.inr (Or.inl rfl)
  · rcases not_neg_cases hy with hy' | hy' | ⟨b, hb, hb₀⟩
    · rw [hy'] at hu
      refine not_neg_of_unpack hu (Or.inl ?_)
      cases x.toModel.unpack <;> rfl
    · rw [hy'] at hu
      refine not_neg_of_unpack hu ?_
      rcases unpack_neg_cases hx ha with ⟨s, hs⟩ | ⟨m, e, hm, hs⟩ <;> rw [hs]
      · exact Or.inl rfl
      · exact Or.inr (Or.inl rfl)
    · rw [not_lt_zero_iff, value_mul ha hb]
      intro c hc
      obtain rfl := Option.some.inj hc
      have hunit : (0 : ℝ) < unit := Int.cast_pos.2 unit_pos
      exact capped_rounded_nonneg (by positivity)

/-- What is positive is positively infinite, or finite and positive. -/
theorem pos_cases {x : Float} (h : 0 < x) :
    x.toModel.unpack = .infinity .positive ∨ ∃ a, HasValue x a ∧ 0 < a := by
  have hpos := top_pos
  obtain ⟨a, ha, ha₀⟩ := zero_lt_iff.1 h
  rcases (abs_value_le ha).2.lt_or_eq with hlt | rfl
  · exact Or.inr ⟨a, ⟨ha, by omega, hlt⟩, ha₀⟩
  · exact Or.inl (value_eq_top ha)

theorem not_neg_of_pos {x : Float} (h : 0 < x) : ¬ x < 0 := by
  obtain ⟨a, ha, ha₀⟩ := zero_lt_iff.1 h
  rw [not_lt_zero_iff]
  intro b hb
  obtain rfl := Option.some.inj (ha.symm.trans hb)
  exact ha₀.le

theorem div_not_neg {x y : Float} (hx : ¬ x < 0) (hy : 0 < y) : ¬ x / y < 0 := by
  have hu := unpack_div x y
  rcases pos_cases hy with hy' | ⟨b, hb, hb₀⟩
  · rw [hy'] at hu
    refine not_neg_of_unpack hu ?_
    rcases not_neg_cases hx with hx' | hx' | ⟨a, ha, ha₀⟩
    · rw [hx']
      exact Or.inl rfl
    · rw [hx']
      exact Or.inl rfl
    · rcases unpack_neg_cases hx ha with ⟨s, hs⟩ | ⟨m, e, hm, hs⟩ <;> rw [hs]
      · exact Or.inr (Or.inr ⟨_, rfl⟩)
      · exact Or.inr (Or.inr ⟨_, rfl⟩)
  · rcases not_neg_cases hx with hx' | hx' | ⟨a, ha, ha₀⟩
    · rw [hx'] at hu
      exact not_neg_of_unpack hu (Or.inl rfl)
    · rw [hx'] at hu
      refine not_neg_of_unpack hu ?_
      rcases unpack_neg_cases (not_neg_of_pos hy) hb with ⟨s, hs⟩ | ⟨m, e, hm, hs⟩
      · have hv : value y = some 0 := by
          unfold value
          rw [hs]
          rfl
        have := Option.some.inj (hv.symm.trans hb.value)
        omega
      · rw [hs]
        exact Or.inr (Or.inl rfl)
    · rw [not_lt_zero_iff, value_div ha hb hb₀.ne']
      intro c hc
      obtain rfl := Option.some.inj hc
      have hunit : (0 : ℝ) < unit := Int.cast_pos.2 unit_pos
      have hb' : (0 : ℝ) < b := Int.cast_pos.2 hb₀
      exact capped_rounded_nonneg (by positivity)

/-! ### Roots -/

theorem sqrt_unit : √(unit : ℝ) = 2 ^ 537 := by
  have : (unit : ℝ) = 2 ^ 537 * 2 ^ 537 := by
    rw [cast_unit, ← pow_add]
  rw [this, Real.sqrt_mul_self (by positivity)]

theorem rounded_two_pow (k : ℕ) : rounded (2 ^ k) = 2 ^ k := by
  rw [rounded_of_nonneg (by positivity), magnitude_two_pow]
  exact_mod_cast rfl

theorem two_pow_lt_top {k : ℕ} (h : k < 2098) : (2 : ℤ) ^ k < top := by
  unfold top greatestLoss
  exact pow_lt_pow_right₀ (by norm_num) h

/-- What the root of a positive finite number is rounded from. -/
theorem sqrt_bounds {a : ℤ} (h : 0 < a) (ha : a < top) :
    2 ^ 537 ≤ √((a : ℝ) / unit) * unit ∧ √((a : ℝ) / unit) * unit ≤ 2 ^ 1586 := by
  have hunit : (0 : ℝ) < unit := Int.cast_pos.2 unit_pos
  constructor
  · have ha₁ : (1 : ℝ) ≤ a := by exact_mod_cast h
    calc
      (2 : ℝ) ^ 537 = √(1 / unit) * unit := by
        rw [Real.sqrt_div zero_le_one, Real.sqrt_one, ← sqrt_unit, one_div,
          inv_mul_eq_div, Real.div_sqrt]
      _ ≤ √((a : ℝ) / unit) * unit := by gcongr
  · have htop : (a : ℝ) / unit ≤ 2 ^ 512 * 2 ^ 512 := by
      rw [div_le_iff₀ hunit]
      have : (a : ℝ) ≤ top := by exact_mod_cast ha.le
      refine this.trans_eq ?_
      rw [cast_top, cast_unit, ← pow_add, ← pow_add]
    calc
      √((a : ℝ) / unit) * unit ≤ √(2 ^ 512 * 2 ^ 512) * unit := by gcongr
      _ = 2 ^ 512 * 2 ^ 1074 := by
        rw [Real.sqrt_mul_self (by positivity), cast_unit]
      _ = 2 ^ 1586 := by rw [← pow_add]

theorem sqrt_cases {x : Float} (h : 0 < x) :
    x.sqrt.toModel.unpack = .infinity .positive ∨ ∃ r, HasValue x.sqrt r ∧ 2 ^ 537 ≤ r := by
  rcases pos_cases h with hx | ⟨a, ha, ha₀⟩
  · left
    rw [unpack_sqrt, hx]
    exact repacked_infinity _
  · obtain ⟨hl, hu⟩ := sqrt_bounds ha₀ ha.lt_top
    have hl := rounded_mono hl
    have hu := rounded_mono hu
    rw [rounded_two_pow] at hl hu
    have hlt := two_pow_lt_top (k := 1586) (by norm_num)
    have hpos : (0 : ℤ) < 2 ^ 537 := by positivity
    refine Or.inr ⟨rounded (√(a / unit) * unit), ⟨?_, by omega, by omega⟩, hl⟩
    rw [value_sqrt ha ha₀, capped_of_abs_le (by omega) (by omega)]

theorem sqrt_pos {x : Float} (h : 0 < x) : 0 < x.sqrt := by
  rw [zero_lt_iff]
  rcases sqrt_cases h with hx | ⟨r, hr, hr₀⟩
  · exact ⟨top, by unfold value; rw [hx]; rfl, top_pos⟩
  · exact ⟨r, hr.value, lt_of_lt_of_le (by positivity) hr₀⟩

/-- No root is negative; that of what is negative is no number. -/
theorem sqrt_not_neg (x : Float) : ¬ x.sqrt < 0 := by
  by_cases h : 0 < x
  · exact not_neg_of_pos (sqrt_pos h)
  · refine not_neg_of_unpack (unpack_sqrt x) ?_
    rw [zero_lt_iff] at h
    unfold value at h
    have hc := canonical x
    generalize x.toModel.unpack = u at h hc
    cases u with
    | notANumber => exact Or.inl rfl
    | infinity s =>
      cases s
      · exact Or.inl rfl
      · exact Or.inr (Or.inl rfl)
    | zero s => exact Or.inr (Or.inr ⟨s, rfl⟩)
    | finite s m e hm =>
      cases s
      · exact Or.inl rfl
      · obtain ⟨k, -, -, -, hv, hpos, -⟩ := hc.value
        exact absurd ⟨_, hv, hpos⟩ h

theorem value_one : value 1 = some unit := by
  unfold unit
  decide +kernel

theorem hasValue_one : HasValue 1 unit := by
  have : unit < top := by
    unfold unit
    exact two_pow_lt_top (by norm_num)
  have := unit_pos
  exact ⟨value_one, by omega, by omega⟩

/-- The reciprocal of the root of a positive number is finite. -/
theorem hasValue_one_div_sqrt {x : Float} (h : 0 < x) : ∃ c, HasValue (1 / x.sqrt) c := by
  rcases sqrt_cases h with hx | ⟨r, hr, hr₀⟩
  · have hu := unpack_div 1 x.sqrt
    have hz : ∃ s, (1 / x.sqrt).toModel.unpack = .zero s := by
      rw [hu, hx]
      rcases unpack_neg_cases (by decide +kernel) hasValue_one with ⟨s, hs⟩ | ⟨m, e, hm, hs⟩ <;>
        rw [hs]
      · exact ⟨_, repacked_zero _⟩
      · exact ⟨_, repacked_zero _⟩
    obtain ⟨s, hs⟩ := hz
    exact ⟨0, by unfold value; rw [hs]; rfl, by have := top_pos; omega, top_pos⟩
  · have hpos : (0 : ℤ) < r := lt_of_lt_of_le (by positivity) hr₀
    have hr' : (0 : ℝ) < r := Int.cast_pos.2 hpos
    have hunit : (0 : ℝ) < unit := Int.cast_pos.2 unit_pos
    have hle : (unit : ℝ) / r * unit ≤ 2 ^ 1611 := by
      have hsq : (unit : ℝ) * unit = 2 ^ 1611 * 2 ^ 537 := by
        rw [cast_unit, ← pow_add, ← pow_add]
      have hr₁ : (2 : ℝ) ^ 537 ≤ r := by
        rw [← Int.cast_ofNat, ← Int.cast_pow]
        exact Int.cast_le.2 hr₀
      rw [div_mul_eq_mul_div, div_le_iff₀ hr', hsq]
      gcongr
    have hu := rounded_mono hle
    rw [rounded_two_pow] at hu
    have hl := rounded_nonneg (w := (unit : ℝ) / r * unit) (by positivity)
    have hlt := two_pow_lt_top (k := 1611) (by norm_num)
    refine ⟨rounded (unit / r * unit), ?_, by omega, by omega⟩
    rw [value_div hasValue_one hr hpos.ne', capped_of_abs_le (by omega) (by omega)]

end Roster.Double
