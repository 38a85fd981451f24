import Roster.Potentials
import Roster.Proofs.Bundle.Shielded

/-!
# The worth of types under shields

A tag that shields lowers what a creature takes in from attacks of all types together, or leaves it.
Its types are then worth as much as before or more, with one exception. Nothing taken in counts as a
least mean, so that a creature that took in less than that, and now takes in nothing, is counted as
if it took in more.
-/

namespace Roster.Potentials

open Powered

section Shielded

variable {root : ℝ → ℝ} {power : ℝ → ℝ → ℝ} {b b' : Bundle (Powered root power)}
  (type1 : Int) (type2 : Option Int) {chart : TypeChart (Powered root power)}

/-! ### What is taken in -/

/-- No attack gets through a shield with a greater multiplier, nor does one that did not before. -/
theorem rises_incomingFrom (h : b.Shielded b') (hchart : ∀ e ∈ chart.entries, 0 ≤ e.2)
    (attacker : TypeInfo) :
    Rises (incomingFrom b' type1 type2 chart attacker)
      (incomingFrom b type1 type2 chart attacker) := by
  have hagainst : Rises (chart.against attacker.id type1 type2)
      (chart.against attacker.id type1 type2) :=
    .same (TypeChart.holds_against LawfulOrder.zero_le_one (fun _ _ => mul_nonneg (α := ℝ)) hchart
      attacker.id type1 type2)
  have hproduct := rises_product
    (.cons hagainst (.cons (h.multiplier attacker.name) (.cons (h.factor attacker.name) .nil)))
  unfold incomingFrom
  dsimp only
  by_cases hstopped : b.hasWonderGuard ∧ Scalar.product [chart.against attacker.id type1 type2,
      b.incomingMultiplier attacker.name 1 false, b.incomingFactor attacker.name] ≤ 1
  · rw [if_pos hstopped, if_pos ⟨h.guard hstopped.1, LawfulOrder.le_trans hproduct.le hstopped.2⟩]
    exact .same (le_refl (α := ℝ) 0)
  · rw [if_neg hstopped]
    split
    · exact ⟨le_refl (α := ℝ) 0, hproduct.nonneg'⟩
    · exact hproduct

theorem rises_meanIncoming (h : b.Shielded b') (hchart : ∀ e ∈ chart.entries, 0 ≤ e.2)
    (types : List TypeInfo) :
    Rises (meanIncoming b' type1 type2 types chart) (meanIncoming b type1 type2 types chart) := by
  have hsquares := rises_foldl_squares
    (List.forall₂_map_left_iff.2 (List.forall₂_map_right_iff.2
      (List.forall₂_same.2 fun t (_ : t ∈ types) => rises_incomingFrom type1 type2 h hchart t)))
    (.same (le_refl (α := ℝ) 0))
  exact Rises.div hsquares (Int.cast_nonneg (Int.natCast_nonneg _))

/-! ### What it is worth -/

/-- A mean that is positive but less than the least one, and a mean of nothing, for which the least
one stands. -/
def Vanishes (mean mean' : Powered root power) : Prop := 0 < mean ∧ mean < 1e-6 ∧ mean' = 0

theorem incomingFloor_pos (mean : Powered root power) : 0 < incomingFloor mean := by
  unfold incomingFloor
  split
  · assumption
  · exact show (0 : ℝ) < 1e-6 by norm_num

theorem incomingFloor_of_pos {mean : Powered root power} (h : 0 < mean) :
    incomingFloor mean = mean := if_pos h

theorem incomingFloor_zero : incomingFloor (0 : Powered root power) = 1e-6 :=
  if_neg (Scalar.not_lt_of_le Scalar.zero_le_zero)

/-- A mean that falls stands for no more than before, unless it vanishes. -/
theorem incomingFloor_le {mean mean' : Powered root power} (h : Rises mean' mean)
    (hvanish : ¬ Vanishes mean mean') : incomingFloor mean' ≤ incomingFloor mean := by
  by_cases hpos' : 0 < mean'
  · rw [incomingFloor_of_pos hpos', incomingFloor_of_pos (Scalar.lt_of_lt_of_le hpos' h.le)]
    exact h.le
  · obtain rfl : mean' = 0 := le_antisymm (α := ℝ) (not_lt.1 hpos') h.nonneg
    rw [incomingFloor_zero, incomingFloor]
    split
    · exact Scalar.le_of_not_lt (le_refl (α := ℝ) mean) (le_refl (α := ℝ) 1e-6) fun hlt =>
        hvanish ⟨‹_›, hlt, rfl⟩
    · exact le_refl (α := ℝ) 1e-6

theorem le_incomingFloor_of_vanishes {mean mean' : Powered root power} (h : Vanishes mean mean') :
    incomingFloor mean ≤ incomingFloor mean' := by
  obtain ⟨hpos, hlt, rfl⟩ := h
  rw [incomingFloor_zero, incomingFloor_of_pos hpos]
  exact Scalar.le_of_lt hlt

end Shielded

/-- Wherever among other tags one comes that shields, a creature takes in no more, and its types are
worth as much as before or more: with any root and power that keep order, and a chart without
negative multipliers. Only a mean that vanishes takes them down, to the worth of the least mean. -/
theorem typeDefenseOf_insert_shield {root : ℝ → ℝ} {power : ℝ → ℝ → ℝ}
    (hlawful : Lawful root power) {tag : Text} (htag : Tag.Shield (Powered root power) tag)
    (before after holder : List Text) (type1 : Int) (type2 : Option Int) (types : List TypeInfo)
    {chart : TypeChart (Powered root power)} (hchart : ∀ e ∈ chart.entries, 0 ≤ e.2) :
    let mean (tags : List Text) : Powered root power :=
      meanIncoming (.resolve tags holder) type1 type2 types chart
    let worth (tags : List Text) : Powered root power :=
      typeDefenseOf (.resolve tags holder) type1 type2 types chart
    0 ≤ mean (before ++ tag :: after) ∧
      mean (before ++ tag :: after) ≤ mean (before ++ after) ∧
      (¬ Vanishes (mean (before ++ after)) (mean (before ++ tag :: after)) →
        worth (before ++ after) ≤ worth (before ++ tag :: after)) ∧
      (Vanishes (mean (before ++ after)) (mean (before ++ tag :: after)) →
        worth (before ++ tag :: after) = Scalar.pow (1 / Scalar.sqrt 1e-6) 0.65 ∧
          worth (before ++ tag :: after) ≤ worth (before ++ after)) := by
  intro mean worth
  have hmean : Rises (mean (before ++ tag :: after)) (mean (before ++ after)) :=
    rises_meanIncoming type1 type2 (Bundle.shielded_insert htag before after holder) hchart types
  have hexponent : (0 : Powered root power) ≤ 0.65 := show (0 : ℝ) ≤ 0.65 by norm_num
  refine ⟨hmean.nonneg, hmean.le, fun hvanish => ?_, fun hvanish => ⟨?_, ?_⟩⟩
  · exact pow_one_div_sqrt_le hlawful hexponent (incomingFloor_pos _)
      (incomingFloor_le hmean hvanish)
  · have hzero : mean (before ++ tag :: after) = 0 := hvanish.2.2
    have hfloor : incomingFloor (mean (before ++ tag :: after)) = 1e-6 := by
      rw [hzero, incomingFloor_zero]
    exact congrArg (fun m => Scalar.pow (1 / Scalar.sqrt m) 0.65) hfloor
  · exact pow_one_div_sqrt_le hlawful hexponent (incomingFloor_pos _)
      (le_incomingFloor_of_vanishes hvanish)

/-! ### One type alone -/

section Alone

variable {root : ℝ → ℝ} {power : ℝ → ℝ → ℝ} (x : Powered root power)

/-- A type whose attacks on itself are charted with a multiplier. -/
def plain : TypeInfo := ⟨1, "Plain", none, false⟩

def plainChart : TypeChart (Powered root power) := .ofRows [⟨1, 1, x⟩]

theorem nonneg_plainChart (hx : 0 ≤ x) : ∀ e ∈ (plainChart x).entries, 0 ≤ e.2 := by
  intro e he
  obtain rfl := List.mem_singleton.1 he
  exact hx

theorem shield_immune_plain : Tag.Shield (Powered root power) "immune:plain" :=
  .immune (show Text.split ':' (Text.trim "immune:plain") = ["immune", "plain"] by decide)

theorem meanIncoming_plain (b : Bundle (Powered root power)) :
    meanIncoming b 1 none [plain] (plainChart x) =
      incomingFrom b 1 none (plainChart x) plain * incomingFrom b 1 none (plainChart x) plain := by
  have hone (y : ℝ) : (0 + y * y) / ((1 : ℤ) : ℝ) = y * y := by
    rw [Int.cast_one, div_one, zero_add]
  exact hone _

/-- Without tags the charted multiplier is taken in. -/
theorem meanIncoming_bare (h₀ : 0 ≤ x) (h : x ≤ Exact.limit) :
    meanIncoming (.resolve [] []) 1 none [plain] (plainChart x) = x * x := by
  have hbounded : Saturation.bounded Exact.limit x = x :=
    Saturation.bounded_of_mem ((neg_nonpos.2 Exact.limit_pos.le).trans h₀) h
  have hstep (y : ℝ) (hy : Saturation.bounded Exact.limit y = y) :
      Saturation.boundedProduct Exact.limit 1 [y, 1, 1] = y := by
    simp only [Saturation.boundedProduct, List.foldl_cons, List.foldl_nil, one_mul, mul_one, hy]
  have hproduct : incomingFrom (.resolve [] []) 1 none (plainChart x) plain = x := by
    change Scalar.product [x, Incoming.fold [] _ 1 false, 1] = x
    rw [Incoming.fold_nil, Scalar.product, productFrom_eq]
    exact hstep x hbounded
  rw [meanIncoming_plain, hproduct]

/-- Immune to the type, nothing is. -/
theorem meanIncoming_immune :
    meanIncoming (.resolve ["immune:plain"] []) 1 none [plain] (plainChart x) = 0 := by
  have himmune : Tag.Immune (Powered root power) ["immune:plain"] plain.name := by
    have hname : TypeName.normal plain.name = "plain" := by decide
    rw [Tag.Immune, hname]
    exact List.mem_singleton.2 rfl
  have hproduct (factor : Powered root power) :
      Scalar.product [(plainChart x).against 1 1 none, 0, factor] = 0 := by
    have hmem : (0 : Powered root power) ∈ [(plainChart x).against 1 1 none, 0, factor] := by
      simp
    exact (productFrom_eq 1 _).trans
      (Saturation.boundedProduct_of_zero_mem Exact.limit_pos.le hmem 1)
  have hzero : incomingFrom (.resolve ["immune:plain"] []) 1 none (plainChart x) plain = 0 := by
    unfold incomingFrom
    rw [Bundle.incomingMultiplier_resolve, Tag.multiplier_of_immune himmune]
    exact (congrArg _ (hproduct _)).trans (ite_self 0)
  rw [meanIncoming_plain, hzero]
  exact show (0 : ℝ) * 0 = 0 from mul_zero 0

end Alone

/-- A creature that took in four times the plain attacks, and is made immune to them. -/
theorem typeDefenseOf_insert_immune :
    typeDefenseOf (.resolve [] []) 1 none [plain] (plainChart (2.0 : Powered Real.sqrt Real.rpow)) ≤
      typeDefenseOf (.resolve ["immune:plain"] []) 1 none [plain] (plainChart 2.0) := by
  have htwo : (0 : Powered Real.sqrt Real.rpow) ≤ 2.0 := show (0 : ℝ) ≤ 2.0 by norm_num
  have hlimit : (2.0 : ℝ) ≤ Exact.limit := by
    have := Exact.four_le_limit
    linarith
  obtain ⟨-, -, hworth, -⟩ := typeDefenseOf_insert_shield lawful_sqrt_rpow shield_immune_plain
    [] [] [] 1 none [plain] (nonneg_plainChart _ htwo)
  refine hworth fun hvanish => ?_
  have hmean : (2.0 : ℝ) * 2.0 < 1e-6 := by
    have hlt : meanIncoming (.resolve [] []) 1 none [plain]
        (plainChart (2.0 : Powered Real.sqrt Real.rpow)) < 1e-6 := hvanish.2.1
    rw [meanIncoming_bare _ htwo hlimit] at hlt
    exact hlt
  norm_num at hmean

/-- A creature that takes in next to nothing loses most of its types' worth to an immunity that
takes the rest away. -/
theorem typeDefenseOf_immune_lt :
    Tag.Shield (Powered Real.sqrt Real.rpow) "immune:plain" ∧
      (∀ e ∈ (plainChart (1e-4 : Powered Real.sqrt Real.rpow)).entries, 0 ≤ e.2) ∧
      typeDefenseOf (.resolve ["immune:plain"] []) 1 none [plain]
          (plainChart (1e-4 : Powered Real.sqrt Real.rpow)) <
        typeDefenseOf (.resolve [] []) 1 none [plain] (plainChart 1e-4) := by
  have hnonneg : (0 : Powered Real.sqrt Real.rpow) ≤ 1e-4 := show (0 : ℝ) ≤ 1e-4 by norm_num
  have hlimit : (1e-4 : ℝ) ≤ Exact.limit := by
    have := Exact.four_le_limit
    linarith
  refine ⟨shield_immune_plain, nonneg_plainChart _ hnonneg, ?_⟩
  have hpos : (0 : ℝ) < 1e-4 * 1e-4 := by norm_num
  have hroots : Real.sqrt (1e-4 * 1e-4) < Real.sqrt 1e-6 :=
    Real.sqrt_lt_sqrt hpos.le (by norm_num)
  have hworths : (1 / Real.sqrt 1e-6) ^ (0.65 : ℝ) < (1 / Real.sqrt (1e-4 * 1e-4)) ^ (0.65 : ℝ) :=
    Real.rpow_lt_rpow (by positivity)
      (one_div_lt_one_div_of_lt (Real.sqrt_pos.2 hpos) hroots) (by norm_num)
  have hpos' : (0 : Powered Real.sqrt Real.rpow) < 1e-4 * 1e-4 := hpos
  unfold typeDefenseOf
  rw [meanIncoming_immune, meanIncoming_bare _ hnonneg hlimit, incomingFloor_zero,
    incomingFloor_of_pos hpos']
  exact hworths

end Roster.Potentials
