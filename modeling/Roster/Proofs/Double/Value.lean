import Roster.Proofs.Double.Packing

/-!
# The values of doubles

The value of a double is a whole number, in units of the least positive double; an infinite double
has one that is beyond all finite ones, and what is not a number has none. The order of doubles is
that of their values.
-/

namespace Roster.Double

open Float.Model (Format UnpackedFloat)
open Float.Model.UnpackedFloat

/-- The value of the infinite double: the first beyond the finite ones. -/
def top : ℤ := 2 ^ (53 + greatestLoss)

/-- The value of one. -/
@[irreducible] def unit : ℤ := 2 ^ 1074

/-- The value of an unpacked double in units of the least positive one. -/
def unpackedValue : UnpackedFloat → Option ℤ
  | .notANumber => none
  | .infinity s => some (s.apply top)
  | .zero _ => some 0
  | .finite s m e _ => some (s.apply (m * 2 ^ (e + 1074).toNat : ℕ))

theorem unpackedValue_finite (s : Sign) (m k : ℕ) (hm : 0 < m) :
    unpackedValue (.finite s m (k - 1074) hm) = some (s.apply (m * 2 ^ k : ℕ)) := by
  have hk : ((k : ℤ) - 1074 + 1074).toNat = k := by omega
  change some (s.apply (m * 2 ^ ((k : ℤ) - 1074 + 1074).toNat : ℕ)) = _
  rw [hk]

/-- A number brought between the values of the infinite doubles. -/
def capped (n : ℤ) : ℤ := max (-top) (min n top)

theorem top_pos : 0 < top := by
  unfold top
  positivity

theorem unit_pos : 0 < unit := by
  unfold unit
  positivity

theorem unit_ne_zero : (unit : ℝ) ≠ 0 := Int.cast_ne_zero.2 unit_pos.ne'

theorem cast_unit : (unit : ℝ) = 2 ^ 1074 := by
  unfold unit
  rw [Int.cast_pow, Int.cast_ofNat]

theorem cast_top : (top : ℝ) = 2 ^ 2098 := by
  unfold top greatestLoss
  rw [Int.cast_pow, Int.cast_ofNat]

theorem zpow_add_unit (e : ℤ) : (2 : ℝ) ^ (e + 1074) = 2 ^ e * unit := by
  rw [zpow_add₀ (by norm_num), cast_unit]
  exact congrArg _ (zpow_natCast 2 1074)

theorem zpow_sub_unit (e : ℤ) : (2 : ℝ) ^ (e - 1074) = 2 ^ e / unit := by
  rw [eq_div_iff unit_ne_zero, ← zpow_add_unit, sub_add_cancel]

theorem capped_mono {m n : ℤ} (h : m ≤ n) : capped m ≤ capped n := by
  unfold capped
  omega

theorem capped_of_abs_le {n : ℤ} (h₁ : -top ≤ n) (h₂ : n ≤ top) : capped n = n := by
  unfold capped
  omega

theorem capped_neg (n : ℤ) : capped (-n) = -capped n := by
  have := top_pos
  unfold capped
  omega

theorem capped_nonneg {n : ℤ} (h : 0 ≤ n) : 0 ≤ capped n := by
  have := top_pos
  unfold capped
  omega

theorem apply_nonneg_iff {n : ℤ} (h : 0 < n) (s : Sign) : 0 ≤ s.apply n ↔ s = .positive := by
  cases s <;> simp [Sign.apply] <;> omega

theorem apply_neg (s : Sign) (n : ℤ) : (-s).apply n = -s.apply n := by
  cases s
  · exact (neg_neg n).symm
  · rfl

theorem apply_eq_mul (s : Sign) (n : ℤ) : s.apply n = s.apply 1 * n := by
  cases s
  · exact (neg_one_mul n).symm
  · exact (one_mul n).symm

theorem apply_mul (s t : Sign) (m n : ℤ) : (s * t).apply (m * n) = s.apply m * t.apply n := by
  cases s <;> cases t
  · exact (neg_mul_neg m n).symm
  · exact neg_mul_eq_neg_mul m n
  · exact neg_mul_eq_mul_neg m n
  · rfl

/-- The magnitudes of finite doubles stay below that of the infinite one. -/
theorem Digits.mul_pow_lt {n k : ℕ} (h : Digits n k) (hk : k ≤ greatestLoss) :
    ((n * 2 ^ k : ℕ) : ℤ) < top := by
  have : n * 2 ^ k < 2 ^ 53 * 2 ^ greatestLoss :=
    Nat.mul_lt_mul_of_lt_of_le h.lt (Nat.pow_le_pow_right (by norm_num) hk) (by positivity)
  rw [← pow_add] at this
  unfold top
  exact_mod_cast this

theorem Digits.top_le {n k : ℕ} (h : Digits n k) (hk : ¬ k ≤ greatestLoss) :
    top ≤ ((n * 2 ^ k : ℕ) : ℤ) := by
  have hn : 2 ^ 52 ≤ n := h.full.resolve_left (by omega)
  have : 2 ^ 52 * 2 ^ (1 + greatestLoss) ≤ n * 2 ^ k :=
    Nat.mul_le_mul hn (Nat.pow_le_pow_right (by norm_num) (by omega))
  rw [← pow_add, ← add_assoc] at this
  unfold top
  exact_mod_cast this

/-- The value of a double of few digits; it is infinite where its magnitude is too large. -/
theorem unpackedValue_repacked_ofDigits (s : Sign) {n k : ℕ} (h : Digits n k) :
    unpackedValue (repacked (ofDigits s n k)) = some (s.apply (capped (n * 2 ^ k : ℕ))) := by
  have hpos := top_pos
  unfold ofDigits
  by_cases hz : n = 0
  · rw [dif_pos hz, repacked_zero, hz, Nat.zero_mul, Nat.cast_zero,
      capped_of_abs_le (by omega) (by omega)]
    cases s <;> rfl
  · rw [dif_neg hz, repacked_finite (Nat.pos_of_ne_zero hz) h]
    by_cases hk : k ≤ greatestLoss
    · have := h.mul_pow_lt hk
      rw [if_pos hk, capped_of_abs_le (by omega) (by omega), unpackedValue_finite]
    · have := h.top_le hk
      rw [if_neg hk]
      change some (s.apply top) = _
      congr 2
      unfold capped
      omega

/-- Rounding gives the value nearest to the exact number. -/
theorem unpackedValue_round (s : Sign) {m : ℕ} {e : ℤ} {acc : Accuracy} {w : ℝ} (hw₀ : 0 ≤ w)
    (hw : Tracks (.ofMantissaAndAccuracy m acc) (w / 2 ^ (e + 1074)))
    (hwide : 52 ≤ m.log2 ∨ e ≤ -1074) :
    unpackedValue (repacked (roundWithAccuracy Format.binary64 s m e acc)) =
      some (s.apply (capped (rounded w))) := by
  obtain ⟨n, k, hd, hmag, hr⟩ := roundWithAccuracy_eq s hw hwide
  rw [hr, unpackedValue_repacked_ofDigits s hd, rounded_of_nonneg hw₀, hmag]

/-- Doubles of few digits are compared by the digits lost, then by those kept. -/
theorem compare_digits {m n j k : ℕ} (hm : Digits m j) (hn : Digits n k) :
    (compare ((j : ℤ) - 1074) (k - 1074)).then (compare m n) =
      compare ((m * 2 ^ j : ℕ) : ℤ) ((n * 2 ^ k : ℕ) : ℤ) := by
  have step {m n j k : ℕ} (hm : Digits m j) (hn : Digits n k) (h : j < k) :
      m * 2 ^ j < n * 2 ^ k := by
    have hfull : 2 ^ 52 ≤ n := hn.full.resolve_left (by omega)
    calc
      m * 2 ^ j < 2 ^ 53 * 2 ^ j := Nat.mul_lt_mul_of_pos_right hm.lt (by positivity)
      _ = 2 ^ 52 * 2 ^ (j + 1) := by ring
      _ ≤ n * 2 ^ k := Nat.mul_le_mul hfull (Nat.pow_le_pow_right (by norm_num) h)
  rcases lt_trichotomy j k with h | rfl | h
  · have hl : compare ((j : ℤ) - 1074) (k - 1074) = .lt := compare_lt_iff_lt.2 (by omega)
    have hr : compare ((m * 2 ^ j : ℕ) : ℤ) ((n * 2 ^ k : ℕ) : ℤ) = .lt :=
      compare_lt_iff_lt.2 (by exact_mod_cast step hm hn h)
    rw [hl, hr]
    rfl
  · have hpos : 0 < 2 ^ j := by positivity
    rw [compare_eq_iff_eq.2 rfl]
    change compare m n = _
    rcases lt_trichotomy m n with hlt | rfl | hlt
    · rw [compare_lt_iff_lt.2 hlt, eq_comm, compare_lt_iff_lt]
      exact_mod_cast Nat.mul_lt_mul_of_pos_right hlt hpos
    · rw [compare_eq_iff_eq.2 rfl, compare_eq_iff_eq.2 rfl]
    · rw [compare_gt_iff_gt.2 hlt, eq_comm, compare_gt_iff_gt]
      exact_mod_cast Nat.mul_lt_mul_of_pos_right hlt hpos
  · have hl : compare ((j : ℤ) - 1074) (k - 1074) = .gt := compare_gt_iff_gt.2 (by omega)
    have hr : compare ((m * 2 ^ j : ℕ) : ℤ) ((n * 2 ^ k : ℕ) : ℤ) = .gt :=
      compare_gt_iff_gt.2 (by exact_mod_cast step hn hm h)
    rw [hl, hr]
    rfl

theorem swap_compare (x y : ℤ) : (compare x y).swap = compare (-x) (-y) := by
  rcases lt_trichotomy x y with h | rfl | h
  · rw [compare_lt_iff_lt.2 h, compare_gt_iff_gt.2 (neg_lt_neg h)]
    rfl
  · rw [compare_eq_iff_eq.2 rfl, compare_eq_iff_eq.2 rfl]
    rfl
  · rw [compare_gt_iff_gt.2 h, compare_lt_iff_lt.2 (neg_lt_neg h)]
    rfl

/-- The value of a canonical double that is neither infinite nor zero. -/
theorem Canonical.value {s : Sign} {m : ℕ} {e : ℤ} {hm : 0 < m}
    (h : Canonical (.finite s m e hm)) :
    ∃ k : ℕ, e = k - 1074 ∧ Digits m k ∧ k ≤ greatestLoss ∧
      unpackedValue (.finite s m e hm) = some (s.apply (m * 2 ^ k : ℕ)) ∧
      0 < ((m * 2 ^ k : ℕ) : ℤ) ∧ ((m * 2 ^ k : ℕ) : ℤ) < top := by
  obtain ⟨k, rfl, hd, hk⟩ := h
  exact ⟨k, rfl, hd, hk, unpackedValue_finite s m k hm, by positivity, hd.mul_pow_lt hk⟩

/-- The order of canonical doubles is that of their values. -/
theorem compare_eq {a b : UnpackedFloat} (ha : Canonical a) (hb : Canonical b) :
    a.compare b =
      (unpackedValue a).bind fun x => (unpackedValue b).map fun y => compare x y := by
  have hpos := top_pos
  have lt {x y : ℤ} (h : x < y) : some Ordering.lt = some (compare x y) := by
    rw [compare_lt_iff_lt.2 h]
  have gt {x y : ℤ} (h : y < x) : some Ordering.gt = some (compare x y) := by
    rw [compare_gt_iff_gt.2 h]
  cases a with
  | notANumber => rfl
  | infinity s =>
    cases b with
    | notANumber => cases s <;> rfl
    | infinity t =>
      cases s <;> cases t
      · exact (congrArg some (compare_eq_iff_eq.2 rfl)).symm
      · exact lt (by simp only [Sign.apply]; omega)
      · exact gt (by simp only [Sign.apply]; omega)
      · exact (congrArg some (compare_eq_iff_eq.2 rfl)).symm
    | zero t =>
      cases s
      · exact lt (by simp only [Sign.apply]; omega)
      · exact gt (by simp only [Sign.apply]; omega)
    | finite t n f hn =>
      obtain ⟨k, -, -, -, hv, h₀, h₁⟩ := hb.value
      rw [hv]
      cases s
      · exact lt (by cases t <;> simp only [Sign.apply] <;> omega)
      · exact gt (by cases t <;> simp only [Sign.apply] <;> omega)
  | zero s =>
    cases b with
    | notANumber => rfl
    | infinity t =>
      cases t
      · exact gt (by simp only [Sign.apply]; omega)
      · exact lt (by simp only [Sign.apply]; omega)
    | zero t => exact (congrArg some (compare_eq_iff_eq.2 rfl)).symm
    | finite t n f hn =>
      obtain ⟨k, -, -, -, hv, h₀, -⟩ := hb.value
      rw [hv]
      cases t
      · exact gt (by simp only [Sign.apply]; omega)
      · exact lt (by simp only [Sign.apply]; omega)
  | finite s m e hm =>
    obtain ⟨j, rfl, hd, hj, hv, h₀, h₁⟩ := ha.value
    rw [hv]
    cases b with
    | notANumber => cases s <;> rfl
    | infinity t =>
      cases t
      · cases s
        · exact gt (by simp only [Sign.apply]; omega)
        · exact gt (by simp only [Sign.apply]; omega)
      · cases s
        · exact lt (by simp only [Sign.apply]; omega)
        · exact lt (by simp only [Sign.apply]; omega)
    | zero t =>
      cases s
      · exact lt (by simp only [Sign.apply]; omega)
      · exact gt (by simp only [Sign.apply]; omega)
    | finite t n f hn =>
      obtain ⟨k, rfl, hd', hk, hv', h₀', -⟩ := hb.value
      rw [hv']
      cases s <;> cases t
      · exact congrArg some ((congrArg Ordering.swap (compare_digits hd hd')).trans
          (swap_compare _ _))
      · exact lt (by simp only [Sign.apply]; omega)
      · exact gt (by simp only [Sign.apply]; omega)
      · exact congrArg some (compare_digits hd hd')

/-- The value of a double. -/
def value (x : Float) : Option ℤ := unpackedValue x.toModel.unpack

theorem canonical (x : Float) : Canonical x.toModel.unpack := canonical_unpack _

theorem le_iff {x y : Float} :
    x ≤ y ↔ ∃ a b, value x = some a ∧ value y = some b ∧ a ≤ b := by
  change decide (x.toModel ≤ y.toModel) = true ↔ _
  rw [decide_eq_true_iff]
  change (x.toModel.unpack.compare y.toModel.unpack).any (·.isLE) = true ↔ _
  rw [compare_eq (canonical x) (canonical y)]
  change _ ↔ ∃ a b, unpackedValue _ = some a ∧ unpackedValue _ = some b ∧ a ≤ b
  cases unpackedValue x.toModel.unpack <;> cases unpackedValue y.toModel.unpack <;>
    simp [Std.isLE_compare]

theorem lt_iff {x y : Float} :
    x < y ↔ ∃ a b, value x = some a ∧ value y = some b ∧ a < b := by
  change decide (x.toModel < y.toModel) = true ↔ _
  rw [decide_eq_true_iff]
  change (x.toModel.unpack.compare y.toModel.unpack == some .lt) = true ↔ _
  rw [compare_eq (canonical x) (canonical y)]
  change _ ↔ ∃ a b, unpackedValue _ = some a ∧ unpackedValue _ = some b ∧ a < b
  cases unpackedValue x.toModel.unpack <;> cases unpackedValue y.toModel.unpack <;>
    simp [compare_lt_iff_lt]

/-- No value is beyond those of the infinite doubles. -/
theorem abs_value_le {x : Float} {a : ℤ} (h : value x = some a) : -top ≤ a ∧ a ≤ top := by
  have hpos := top_pos
  unfold value at h
  generalize hu : x.toModel.unpack = u at h
  have hc : Canonical u := hu ▸ canonical x
  cases u with
  | notANumber => cases h
  | infinity s =>
    obtain rfl := Option.some.inj h
    cases s <;> simp only [Sign.apply] <;> omega
  | zero s =>
    obtain rfl := Option.some.inj h
    omega
  | finite s m e hm =>
    obtain ⟨k, -, -, -, hv, h₀, h₁⟩ := hc.value
    obtain rfl := Option.some.inj (hv.symm.trans h)
    cases s <;> simp only [Sign.apply] <;> omega

end Roster.Double
