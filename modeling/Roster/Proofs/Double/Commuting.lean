import Roster.Proofs.Double.Laws

/-!
# Operands in either order

Sums and products of doubles do not depend on the order of their operands, bit for bit. The larger
of two doubles depends on it only where the operands are the two zeros, since the order tells all
other doubles apart.
-/

namespace Roster.Double

open Float.Model (Format UnpackedFloat)
open Float.Model.UnpackedFloat

/-! ### Sums and products -/

theorem unpacked_add_comm (u v : UnpackedFloat) :
    UnpackedFloat.add Format.binary64 u v = UnpackedFloat.add Format.binary64 v u := by
  cases u with
  | notANumber => cases v <;> rfl
  | infinity s =>
    cases v with
    | infinity t => cases s <;> cases t <;> rfl
    | _ => rfl
  | zero s =>
    cases v with
    | zero t => cases s <;> cases t <;> rfl
    | _ => rfl
  | finite s m e hm =>
    cases v with
    | finite t n f hn =>
      unfold UnpackedFloat.add
      dsimp only
      rw [Int.min_comm, Int.add_comm]
    | _ => rfl

theorem unpacked_mul_comm (u v : UnpackedFloat) :
    UnpackedFloat.mul Format.binary64 u v = UnpackedFloat.mul Format.binary64 v u := by
  have hsign (s t : Sign) : s * t = t * s := by cases s <;> cases t <;> rfl
  cases u with
  | notANumber => cases v <;> rfl
  | infinity s =>
    cases v with
    | infinity t | finite t => exact congrArg UnpackedFloat.infinity (hsign s t)
    | _ => rfl
  | zero s =>
    cases v with
    | zero t | finite t => exact congrArg UnpackedFloat.zero (hsign s t)
    | _ => rfl
  | finite s m e hm =>
    cases v with
    | finite t n f hn =>
      unfold UnpackedFloat.mul
      dsimp only
      rw [hsign, Nat.mul_comm, Int.add_comm]
    | infinity t => exact congrArg UnpackedFloat.infinity (hsign s t)
    | zero t => exact congrArg UnpackedFloat.zero (hsign s t)
    | notANumber => rfl

theorem add_comm (x y : Float) : x + y = y + x :=
  congrArg (fun u => Float.ofModel (Float.Model.pack u)) (unpacked_add_comm _ _)

theorem mul_comm (x y : Float) : x * y = y * x :=
  congrArg (fun u => Float.ofModel (Float.Model.pack u)) (unpacked_mul_comm _ _)

/-! ### Doubles by what is unpacked from them -/

theorem toBitVec_ofBitVec (s : BitVec 1) : (Sign.ofBitVec s).toBitVec = s := by
  decide +revert

/-- A word is put together again from its components. -/
theorem packComponents_unpack (b : BitVec 64) :
    packComponents Format.binary64 (Sign.ofBitVec (@unpackSign Format.binary64 b))
      (@unpackExponent Format.binary64 b) (@unpackMantissa Format.binary64 b) = b := by
  rw [packComponents, toBitVec_ofBitVec]
  change (b.extractLsb' 63 1 ++ b.extractLsb' 52 11 ++ b.extractLsb' 0 52 : BitVec (1 + 11 + 52)) =
    b
  ext i hi
  grind

/-- What is unpacked from components is packed into them again; only what is not a number could have
others. -/
theorem pack_ofComponents {s : Sign} {e : BitVec 11} {m : BitVec 52}
    (h : e = -1#11 → m = 0#52) :
    pack Format.binary64 (ofComponents s e m) = packComponents Format.binary64 s e m := by
  have he' : e.toNat < 2048 := e.isLt
  have hm' : m.toNat < 2 ^ 52 := m.isLt
  unfold ofComponents
  by_cases he : e = -1#11
  · obtain rfl := h he
    subst he
    rfl
  · by_cases he₀ : e = 0#11
    · subst he₀
      by_cases hm₀ : m = 0#52
      · subst hm₀
        rfl
      · have hlog : ¬ m.toNat.log2 + 1 = 53 := by
          have hne : m.toNat ≠ 0 := fun hz => hm₀ (BitVec.eq_of_toNat_eq hz)
          have := (Nat.log2_lt hne).2 hm'
          omega
        rw [if_neg he, if_pos rfl, dif_neg hm₀]
        refine (pack_finite s m.toNat 0 _).trans ?_
        rw [if_neg (by norm_num), if_neg hlog, BitVec.ofNat_toNat, BitVec.setWidth_eq]
    · have h₀ : e.toNat ≠ 0 := fun h => he₀ (BitVec.eq_of_toNat_eq h)
      have h₁ : e.toNat ≠ 2047 := fun h => he (BitVec.eq_of_toNat_eq h)
      have hlog : (1#1 ++ m).toNat.log2 + 1 = 53 := by
        have hpos := (implicit_pos m).ne'
        rw [toNat_implicit] at hpos ⊢
        have := (Nat.le_log2 hpos).2 (Nat.le_add_right _ _)
        have := (Nat.log2_lt hpos).2 (show 2 ^ 52 + m.toNat < 2 ^ 53 by omega)
        omega
      have hexp : (e.toNat : ℤ) - 1075 = (e.toNat - 1 : ℕ) - 1074 := by omega
      have hmant : BitVec.ofNat 52 (1#1 ++ m).toNat = m := by
        apply BitVec.eq_of_toNat_eq
        rw [toNat_implicit, BitVec.toNat_ofNat]
        omega
      have he₂ : BitVec.ofNat 11 (e.toNat - 1 + 1) = e := by
        rw [Nat.sub_add_cancel (Nat.pos_of_ne_zero h₀), BitVec.ofNat_toNat, BitVec.setWidth_eq]
      rw [if_neg he, if_neg he₀, finite_congr rfl hexp (implicit_pos m), pack_finite,
        if_neg (by omega), if_pos hlog, he₂, hmant]

/-- No double is lost by unpacking it. -/
theorem pack_unpack (x : Float) : Float.Model.pack x.toModel.unpack = x.toModel := by
  obtain ⟨⟨bits⟩, hvalid⟩ := x.toModel
  have hbits : pack Format.binary64 (unpack Format.binary64 bits) = bits := by
    rw [unpack_eq]
    by_cases hnan : @unpackExponent Format.binary64 bits = -1#11 ∧
        @unpackMantissa Format.binary64 bits ≠ 0#52
    · obtain ⟨he, hm⟩ := hnan
      rw [ofComponents, if_pos he, if_neg hm]
      exact (hvalid.eq_packedNaN he hm).symm
    · rw [pack_ofComponents fun he => not_not.1 fun hm => hnan ⟨he, hm⟩]
      exact packComponents_unpack bits
  unfold Float.Model.pack Float.Model.unpack
  congr

theorem eq_of_unpack_eq {x y : Float} (h : x.toModel.unpack = y.toModel.unpack) : x = y := by
  have hmodel : x.toModel = y.toModel := by rw [← pack_unpack x, h, pack_unpack]
  cases x
  cases y
  exact congrArg Float.ofModel hmodel

/-! ### The larger of two doubles -/

/-- Doubles of the same value other than zero are the same. -/
theorem eq_of_value_eq {x y : Float} {a : ℤ} (hx : HasValue x a) (hy : value y = some a)
    (ha : a ≠ 0) : x = y := by
  rcases finite_cases (canonical x) hx.value hx.neg_top_lt hx.lt_top with
    ⟨h, -⟩ | ⟨s, m, j, hm, hu, hd, -, rfl⟩
  · exact absurd h ha
  rcases finite_cases (canonical y) hy hx.neg_top_lt hx.lt_top with
    ⟨h, -⟩ | ⟨t, n, k, hn, hv, hd', -, heq⟩
  · exact absurd h ha
  have hpos : 0 < ((m * 2 ^ j : ℕ) : ℤ) := by positivity
  have hpos' : 0 < ((n * 2 ^ k : ℕ) : ℤ) := by positivity
  obtain ⟨rfl, hmag⟩ : s = t ∧ ((m * 2 ^ j : ℕ) : ℤ) = (n * 2 ^ k : ℕ) := by
    cases s <;> cases t <;> simp only [Sign.apply] at heq <;>
      first | exact ⟨rfl, by omega⟩ | (exfalso; omega)
  have hcompare := compare_digits hd hd'
  rw [compare_eq_iff_eq.2 hmag, Ordering.then_eq_eq, compare_eq_iff_eq, compare_eq_iff_eq]
    at hcompare
  obtain ⟨he, rfl⟩ := hcompare
  obtain rfl : j = k := by omega
  exact eq_of_unpack_eq (hu.trans hv.symm)

theorem unpack_of_value_eq_zero {x : Float} (h : value x = some 0) :
    ∃ s, x.toModel.unpack = .zero s := by
  have hpos := top_pos
  rcases finite_cases (canonical x) h (by omega) hpos with ⟨-, hs⟩ | ⟨s, m, k, hm, -, -, -, heq⟩
  · exact hs
  · have hmag : 0 < ((m * 2 ^ k : ℕ) : ℤ) := by positivity
    cases s <;> simp only [Sign.apply] at heq <;> omega

/-- There are two zeros. -/
theorem zero_cases {x : Float} (h : value x = some 0) : x = 0 ∨ x = -0 := by
  obtain ⟨s, hs⟩ := unpack_of_value_eq_zero h
  obtain ⟨t, ht⟩ := unpack_of_value_eq_zero value_zero
  have hneg : (-0 : Float).toModel.unpack = .zero (-t) := by
    rw [unpack_neg, ht]
    exact repacked_zero _
  have hsign : s = t ∨ s = -t := by
    cases s <;> cases t
    · exact Or.inl rfl
    · exact Or.inr rfl
    · exact Or.inr rfl
    · exact Or.inl rfl
  rcases hsign with rfl | rfl
  · exact Or.inl (eq_of_unpack_eq (hs.trans ht.symm))
  · exact Or.inr (eq_of_unpack_eq (hs.trans hneg.symm))

/-- The larger of two finite doubles is the same in either order, unless both are zeros. -/
theorem larger_comm {x y : Float} (hx : Scalar.Finite x) (hy : Scalar.Finite y) :
    Scalar.larger x y = Scalar.larger y x ∨ (value x = some 0 ∧ value y = some 0) := by
  obtain ⟨a, ha⟩ := finite_iff.1 hx
  obtain ⟨b, hb⟩ := finite_iff.1 hy
  have hlt : x < y ↔ a < b := by
    rw [lt_iff]
    simp [ha.value, hb.value]
  have hgt : y < x ↔ b < a := by
    rw [lt_iff]
    simp [ha.value, hb.value]
  unfold Scalar.larger
  rcases lt_trichotomy a b with h | rfl | h
  · rw [if_pos (hlt.2 h), if_neg (fun h' => absurd (hgt.1 h') (by omega))]
    exact Or.inl rfl
  · by_cases hzero : a = 0
    · subst hzero
      exact Or.inr ⟨ha.value, hb.value⟩
    · rw [eq_of_value_eq ha hb.value hzero]
      exact Or.inl rfl
  · rw [if_pos (hgt.2 h), if_neg (fun h' => absurd (hlt.1 h') (by omega))]
    exact Or.inl rfl

end Roster.Double
