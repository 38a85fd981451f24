import Roster.Proofs.Double.Shifting

/-!
# Packed doubles

A double is packed into 64 bits. What is unpacked from bits has a mantissa of 53 digits, or the
least exponent; a double in that form is packed and unpacked without loss, and one whose exponent is
too large becomes infinite.
-/

namespace Roster.Double

open Float.Model (Format UnpackedFloat)
open Float.Model.UnpackedFloat

/-- The greatest number of digits that a finite double loses. -/
@[irreducible] def greatestLoss : ℕ := 2045

/-- The form of what is unpacked from bits. -/
def Canonical : UnpackedFloat → Prop
  | .finite _ m e _ => ∃ k : ℕ, e = k - 1074 ∧ Digits m k ∧ k ≤ greatestLoss
  | _ => True

/-- A double after it was packed and unpacked. -/
def repacked (u : UnpackedFloat) : UnpackedFloat :=
  unpack Format.binary64 (pack Format.binary64 u)

theorem toNat_implicit (m : BitVec 52) : (1#1 ++ m).toNat = 2 ^ 52 + m.toNat := by
  rw [BitVec.toNat_append, ← Nat.shiftLeft_add_eq_or_of_lt m.isLt]
  rfl

theorem implicit_pos (m : BitVec 52) : 0 < (1#1 ++ m).toNat := by
  rw [toNat_implicit]
  positivity

/-- The double of a sign, an exponent and a mantissa as they stand in the bits. -/
def ofComponents (s : Sign) (e : BitVec 11) (m : BitVec 52) : UnpackedFloat :=
  if e = -1#11 then if m = 0#52 then .infinity s else .notANumber
  else if e = 0#11 then
    if h : m = 0#52 then .zero s
    else .finite s m.toNat ((e.toNat : ℤ) - 1075 + 1)
      (by simpa [BitVec.toNat_pos, BitVec.pos_iff_ne_zero])
  else .finite s (1#1 ++ m).toNat ((e.toNat : ℤ) - 1075) (implicit_pos m)

theorem unpack_eq (b : BitVec 64) :
    unpack Format.binary64 b =
      ofComponents (Sign.ofBitVec (@unpackSign Format.binary64 b))
        (@unpackExponent Format.binary64 b)
        (@unpackMantissa Format.binary64 b) := rfl

theorem unpackSign_packComponents {s : Sign} {e : BitVec 11} {m : BitVec 52} :
    unpackSign (packComponents Format.binary64 s e m) = s.toBitVec := by
  ext i hi
  obtain rfl : i = 0 := by omega
  have htop : unpackSign (packComponents Format.binary64 s e m) =
      (s.toBitVec ++ e ++ m : BitVec (1 + 11 + 52)).extractLsb' 63 1 := rfl
  simp only [htop, BitVec.getElem_extractLsb']
  change (s.toBitVec ++ e ++ m : BitVec (1 + 11 + 52)).getLsbD 63 = _
  rw [BitVec.getLsbD_append, BitVec.getLsbD_append]
  simp [BitVec.getLsbD_eq_getElem]

theorem ofBitVec_toBitVec (s : Sign) : Sign.ofBitVec s.toBitVec = s := by cases s <;> rfl

theorem unpack_packComponents (s : Sign) (e : BitVec 11) (m : BitVec 52) :
    unpack Format.binary64 (packComponents Format.binary64 s e m) = ofComponents s e m := by
  rw [unpack_eq, unpackSign_packComponents, unpackExponent_packComponents,
    unpackMantissa_packComponents, ofBitVec_toBitVec]

@[simp] theorem repacked_notANumber : repacked .notANumber = .notANumber := by
  change unpack _ (packComponents _ _ _ _) = _
  rw [unpack_packComponents]
  rfl

@[simp] theorem repacked_infinity (s : Sign) : repacked (.infinity s) = .infinity s := by
  change unpack _ (packComponents _ _ _ _) = _
  rw [unpack_packComponents]
  rfl

@[simp] theorem repacked_zero (s : Sign) : repacked (.zero s) = .zero s := by
  change unpack _ (packComponents _ _ _ _) = _
  rw [unpack_packComponents]
  rfl

theorem pack_finite (s : Sign) (m k : ℕ) (hm : 0 < m) :
    pack Format.binary64 (.finite s m (k - 1074) hm) =
      if 2048 ≤ k + 1 + 1 then packedInfinity Format.binary64 s
      else if m.log2 + 1 = 53 then
        packComponents Format.binary64 s (BitVec.ofNat 11 (k + 1)) (BitVec.ofNat 52 m)
      else packComponents Format.binary64 s (0#11) (BitVec.ofNat 52 m) := by
  have hb : ((k : ℤ) - 1074 + Format.binary64.exponentBias
      + Format.binary64.mantissaBitsWithoutImplicit).toNat = k + 1 := by
    have : (Format.binary64.exponentBias : ℤ) = 1023 := rfl
    have : (Format.binary64.mantissaBitsWithoutImplicit : ℤ) = 52 := rfl
    omega
  have hcap : 2 ^ Format.binary64.exponentBits = 2048 := rfl
  unfold pack
  simp only [hb, mantissaBits_binary64, hcap]

/-- A double whose exponent fits is packed without loss. -/
theorem repacked_finite {s : Sign} {m k : ℕ} (hm : 0 < m) (h : Digits m k) :
    repacked (.finite s m (k - 1074) hm) =
      if k ≤ greatestLoss then .finite s m (k - 1074) hm else .infinity s := by
  rw [repacked, pack_finite]
  by_cases hk : k ≤ greatestLoss
  · have hk' : ¬ 2048 ≤ k + 1 + 1 := by unfold greatestLoss at hk; omega
    rw [if_neg hk', if_pos hk]
    by_cases hn : 2 ^ 52 ≤ m
    · have hl : m.log2 + 1 = 53 := by
        have := (Nat.le_log2 hm.ne').2 hn
        have := (Nat.log2_lt hm.ne').2 h.lt
        omega
      have he : (BitVec.ofNat 11 (k + 1)).toNat = k + 1 := by
        rw [BitVec.toNat_ofNat, Nat.mod_eq_of_lt (by omega)]
      have he₁ : BitVec.ofNat 11 (k + 1) ≠ -1#11 := by
        intro heq
        have := congrArg BitVec.toNat heq
        rw [he] at this
        simp at this
        omega
      have he₀ : BitVec.ofNat 11 (k + 1) ≠ 0#11 := by
        intro heq
        have := congrArg BitVec.toNat heq
        rw [he] at this
        simp at this
      have hmant : (1#1 ++ BitVec.ofNat 52 m).toNat = m := by
        have := h.lt
        rw [toNat_implicit, BitVec.toNat_ofNat]
        omega
      rw [if_pos hl, unpack_packComponents, ofComponents, if_neg he₁, if_neg he₀]
      exact finite_congr hmant (by rw [he]; omega) _
    · obtain rfl : k = 0 := h.full.resolve_right hn
      have hl : ¬ m.log2 + 1 = 53 := by
        have := (Nat.log2_lt hm.ne').2 (not_le.1 hn)
        omega
      have hmant : (BitVec.ofNat 52 m).toNat = m := by
        rw [BitVec.toNat_ofNat, Nat.mod_eq_of_lt (by omega)]
      have hm₀ : BitVec.ofNat 52 m ≠ 0#52 := by
        intro heq
        have := congrArg BitVec.toNat heq
        rw [hmant] at this
        simp at this
        omega
      rw [if_neg hl, unpack_packComponents, ofComponents, if_neg (by decide), if_pos rfl,
        dif_neg hm₀]
      exact finite_congr hmant rfl _
  · have hk' : 2048 ≤ k + 1 + 1 := by unfold greatestLoss at hk; omega
    rw [if_pos hk', if_neg hk]
    exact repacked_infinity s

/-- What is unpacked from bits is canonical. -/
theorem canonical_unpack (b : BitVec 64) : Canonical (unpack Format.binary64 b) := by
  rw [unpack_eq]
  generalize Sign.ofBitVec _ = s
  generalize (@unpackExponent Format.binary64 b : BitVec 11) = e
  generalize (@unpackMantissa Format.binary64 b : BitVec 52) = m
  have he' : e.toNat < 2048 := e.isLt
  have hm' : m.toNat < 2 ^ 52 := m.isLt
  unfold ofComponents
  by_cases he : e = -1#11
  · rw [if_pos he]
    by_cases hzero : m = 0#52
    · rw [if_pos hzero]
      trivial
    · rw [if_neg hzero]
      trivial
  · rw [if_neg he]
    by_cases he₀ : e = 0#11
    · rw [if_pos he₀]
      by_cases hzero : m = 0#52
      · rw [dif_pos hzero]
        trivial
      · rw [dif_neg hzero]
        subst he₀
        exact ⟨0, rfl, ⟨hm'.trans (by norm_num), Or.inl rfl⟩, Nat.zero_le _⟩
    · have h₀ : e.toNat ≠ 0 := fun h => he₀ (BitVec.eq_of_toNat_eq h)
      have h₁ : e.toNat ≠ 2047 := fun h => he (BitVec.eq_of_toNat_eq h)
      rw [if_neg he₀]
      refine ⟨e.toNat - 1, by omega, ⟨?_, Or.inr ?_⟩, ?_⟩
      · rw [toNat_implicit]
        omega
      · rw [toNat_implicit]
        omega
      · unfold greatestLoss
        omega

end Roster.Double
