import Roster.Potentials
import Roster.Proofs.Bundle.Bounds

/-!
# Bounds of potentials

Every score is finite and not below zero, as long as the stats, the chart and the crit damage are.
Infinite values come up on the way: in the sums over the types, and in powers of charted
multipliers. A mean that is infinite has a root that is, and the reciprocal of that is zero; what
else is infinite is brought back into the finite range before it is a score.
-/

namespace Roster

open Scalar

/-- The laws of a power function for positive exponents. -/
class LawfulPower (α : Type) [Scalar α] : Prop where
  not_neg_pow {x y : α} : ¬ x < 0 → 0 < y → ¬ pow x y < 0
  /-- A finite base keeps to the finite range under an exponent that is at most one. -/
  finite_pow {x y : α} : ¬ x < 0 → Finite x → 0 < y → y ≤ 1 → Finite (pow x y)

/-- Where the constants of the formulas lie. -/
class LawfulWeights (α : Type) [Scalar α] : Prop where
  attackWeight : ¬ (1 - Potentials.speedWeight : α) < 0
  two : (0 : α) < 2.0
  critDamage : Amount (Settings.default : Settings α).critDamage
  floor : (0 : α) < 1e-6
  stabPower : (0 : α) < Potentials.stabPower
  stabRoot : (0 : α) < 1 / Potentials.stabPower ∧ (1 / Potentials.stabPower : α) ≤ 1
  stabExponent : (0 : α) < 0.6 ∧ (0.6 : α) ≤ 1
  typeDefenseExponent : (0 : α) < 0.65 ∧ (0.65 : α) ≤ 1

section Chart

variable {α : Type} [Scalar α]

/-- A chart whose multipliers are amounts. -/
def TypeChart.Sound (c : TypeChart α) : Prop := ∀ e ∈ c.entries, Amount e.2

theorem TypeChart.sound_ofRows {rows : List (ChartRow α)} (h : ∀ r ∈ rows, Amount r.multiplier) :
    (TypeChart.ofRows rows).Sound := holds_ofRows h

variable [LawfulScalar α] {c : TypeChart α}

theorem TypeChart.Sound.multiplier (h : c.Sound) (attacking defending : Int) :
    Amount (c.multiplier attacking defending) :=
  TypeChart.holds_multiplier amount_one h attacking defending

theorem TypeChart.Sound.not_neg_bestOffense (h : c.Sound) (defending type1 : Int)
    (type2 : Option Int) : ¬ c.bestOffense defending type1 type2 < 0 := by
  cases type2 with
  | none => exact (h.multiplier type1 defending).not_neg
  | some type2 =>
    exact not_neg_larger (h.multiplier type1 defending).not_neg
      (h.multiplier type2 defending).not_neg

end Chart

/-- Crit expectations whose numbers are amounts. -/
structure Crit.Info.Sound {α : Type} [Scalar α] (info : Crit.Info α) : Prop where
  chance : Amount info.chance
  damage : Amount info.damage
  expected : Amount info.expected

/-- Whatever the table and the bonuses are, the crit expectation of an amount of damage is sound. -/
theorem Crit.sound_expectation {α : Type} [Scalar α] [LawfulScalar α]
    (presets : Keyed Text (List α)) {modifiers : CritModifiers α} (preset : Text) {baseDamage : α}
    (fallback : Option α) (hm : ¬ modifiers.damageFactor < 0) (hd : ¬ baseDamage < 0) :
    (Crit.expectation presets modifiers preset baseDamage fallback).Sound := by
  have hdamage : Amount (saturate (baseDamage * modifiers.damageFactor)) :=
    amount_saturate (LawfulScalar.not_neg_mul hd hm)
  refine ⟨?_, hdamage, amount_saturate ?_⟩
  · exact amount_of_le_one (clamp_zero_one _).1 (clamp_zero_one _).2
  · exact LawfulScalar.not_neg_one_add_mul_pred (clamp_zero_one _).1 (clamp_zero_one _).2
      hdamage.nonneg hdamage.finite

namespace Potentials

/-- Values are there for all stats if one is there for each. -/
theorem ofFnM_eq_some_iff {β : Type} {f : Stat → Option β} {s : Stats β} :
    Stats.ofFnM f = some s ↔ ∀ stat, f stat = some (s.get stat) := by
  constructor
  · intro h
    obtain ⟨hp, h₁, h⟩ := Option.bind_eq_some_iff.1 h
    obtain ⟨attack, h₂, h⟩ := Option.bind_eq_some_iff.1 h
    obtain ⟨defense, h₃, h⟩ := Option.bind_eq_some_iff.1 h
    obtain ⟨specialAttack, h₄, h⟩ := Option.bind_eq_some_iff.1 h
    obtain ⟨specialDefense, h₅, h⟩ := Option.bind_eq_some_iff.1 h
    obtain ⟨speed, h₆, h⟩ := Option.bind_eq_some_iff.1 h
    cases Option.some.inj h
    rintro ⟨⟩ <;> assumption
  · intro h
    simp only [Stats.ofFnM, h]
    rfl

variable {α : Type} [Scalar α]

/-- Scores that are all amounts. -/
structure Sound (p : Potentials α) : Prop where
  physicalOffense : Amount p.physicalOffense
  specialOffense : Amount p.specialOffense
  physicalDefense : Amount p.physicalDefense
  specialDefense : Amount p.specialDefense
  offense : Amount p.offense
  defense : Amount p.defense
  rank : Amount p.rank
  crit : p.crit.Sound
  typeDefense : Amount p.typeDefense
  stab : Amount p.stab

variable [LawfulScalar α]

open LawfulOrder LawfulScalar

theorem not_neg_meanOver (count : Nat) {sum : α} (h : ¬ sum < 0) : ¬ meanOver count sum < 0 := by
  refine not_neg_div h (pos_ofInt ?_)
  split <;> omega

/-! ### The sides and the rank -/

/-- The larger of two sides is positive unless both are zero. -/
theorem pos_larger {offense defense : α} (ho : Amount offense) (hd : Amount defense)
    (h : ¬ IsZero (larger offense defense)) : 0 < larger offense defense := by
  have hl : 0 ≤ larger offense defense := by
    unfold larger
    split
    · exact hd.nonneg
    · exact ho.nonneg
  exact lt_iff.2 ⟨hl, fun hle => h ⟨hle, hl⟩⟩

theorem not_neg_balance {offense defense : α} (ho : Amount offense) (hd : Amount defense) :
    ¬ balance offense defense < 0 := by
  unfold balance
  split
  · exact not_neg_one
  · exact not_neg_div (not_neg_smaller ho.not_neg hd.not_neg) (pos_larger ho hd ‹_›)

theorem amount_rankOf {offense defense : α} (ho : Amount offense) (hd : Amount defense) :
    Amount (rankOf offense defense) := by
  have hraw : Amount (rawRank offense defense) :=
    amount_saturate (not_neg_add (not_neg_mul (not_neg_ofScientific _ _ _) ho.not_neg)
      (not_neg_mul (not_neg_ofScientific _ _ _) hd.not_neg))
  exact amount_saturate (not_neg_mul hraw.not_neg (not_neg_add (not_neg_ofScientific _ _ _)
    (not_neg_mul (not_neg_ofScientific _ _ _) (not_neg_balance ho hd))))

theorem amount_adjusted {stats : Stats α} (hs : ∀ stat, Amount (stats.get stat))
    {bundle : Bundle α} (hb : bundle.Sound) (stat : Stat) :
    Amount ((adjusted stats bundle).get stat) := by
  rw [adjusted, Stats.get_ofFn]
  exact Bundle.amount_saturate_mul (hs stat) (hb.stats stat)

theorem amount_bulkProduct {stats : Stats α} (hs : ∀ stat, Amount (stats.get stat)) (stat : Stat) :
    Amount (bulkProduct stats.hp (stats.get stat)) := by
  refine amount_product fun x hx => ?_
  rcases List.mem_cons.1 hx with rfl | hx
  · exact (hs .hp).not_neg
  · exact List.mem_singleton.1 hx ▸ (hs stat).not_neg

theorem amount_bulk (hp defense : α) {factor : α} (hf : Amount factor) :
    Amount (bulk hp defense factor) := by
  refine amount_product fun x hx => ?_
  rcases List.mem_cons.1 hx with rfl | hx
  · exact not_neg_sqrt _
  · exact List.mem_singleton.1 hx ▸ hf.not_neg

variable [LawfulWeights α]

theorem amount_blend {physical special : α} (hp : Amount physical) (hs : Amount special) :
    Amount (blend physical special) := by
  refine amount_saturate (not_neg_add (not_neg_mul (not_neg_ofScientific _ _ _) ?_)
    (not_neg_mul (not_neg_ofScientific _ _ _) ?_))
  · exact not_neg_larger hp.not_neg hs.not_neg
  · exact not_neg_div (not_neg_add hp.not_neg hs.not_neg) LawfulWeights.two

theorem amount_baseOffense {attack speed : α} (ha : Amount attack) (hs : Amount speed) :
    Amount (baseOffense attack speed) :=
  amount_saturate (not_neg_add (not_neg_mul LawfulWeights.attackWeight ha.not_neg)
    (not_neg_mul (not_neg_ofScientific _ _ _) hs.not_neg))

omit [LawfulScalar α] in
theorem pos_incomingFloor (mean : α) : 0 < incomingFloor mean := by
  unfold incomingFloor
  split
  · assumption
  · exact LawfulWeights.floor

/-! ### Powers -/

variable [LawfulPower α]

omit [LawfulScalar α] in
theorem not_neg_stabPowerOf {multiplier : α} (h : ¬ multiplier < 0) :
    ¬ stabPowerOf multiplier < 0 := by
  unfold stabPowerOf
  rw [if_neg h]
  exact LawfulPower.not_neg_pow h LawfulWeights.stabPower

/-- The worth of a typing in defense is an amount, whether or not the mean is a finite number. -/
theorem amount_typeDefenseOf (bundle : Bundle α) (type1 : Int) (type2 : Option Int)
    (types : List TypeInfo) (chart : TypeChart α) :
    Amount (typeDefenseOf bundle type1 type2 types chart) := by
  have hpos := pos_incomingFloor (meanIncoming bundle type1 type2 types chart)
  have hneg := not_neg_div (not_neg_one (α := α)) (pos_sqrt hpos)
  obtain ⟨h₀, h₁⟩ := LawfulWeights.typeDefenseExponent (α := α)
  exact amount_iff.2 ⟨LawfulPower.finite_pow hneg (finite_one_div_sqrt hpos) h₀ h₁,
    LawfulPower.not_neg_pow hneg h₀⟩

/-- The sum of the powers of a creature's multipliers is not below zero. -/
theorem not_neg_stabSum (type1 : Int) (type2 : Option Int) (types : List TypeInfo)
    {chart : TypeChart α} (hc : chart.Sound) :
    ¬ types.foldl (fun sum t => sum + stabPowerOf (chart.bestOffense t.id type1 type2)) 0 < 0 :=
  not_neg_foldl_add (fun t : TypeInfo => stabPowerOf (chart.bestOffense t.id type1 type2))
    not_neg_zero fun t _ => not_neg_stabPowerOf (hc.not_neg_bestOffense t.id type1 type2)

theorem not_neg_stabCover (type1 : Int) (type2 : Option Int) (types : List TypeInfo)
    {chart : TypeChart α} (hc : chart.Sound) :
    ¬ pow (meanOver types.length (types.foldl
      (fun sum t => sum + stabPowerOf (chart.bestOffense t.id type1 type2)) 0))
        (1 / stabPower) < 0 :=
  LawfulPower.not_neg_pow (not_neg_meanOver _ (not_neg_stabSum type1 type2 types hc))
    LawfulWeights.stabRoot.1

theorem amount_stabOf (type1 : Int) (type2 : Option Int) (types : List TypeInfo)
    {chart : TypeChart α} (hc : chart.Sound) : Amount (stabOf type1 type2 types chart) :=
  amount_saturate (LawfulPower.not_neg_pow (not_neg_stabCover type1 type2 types hc)
    LawfulWeights.stabExponent.1)

/-- The scores of amounts are amounts. -/
theorem sound_ofBundle {stats : Stats α} (hs : ∀ stat, Amount (stats.get stat))
    {bundle : Bundle α} (hb : bundle.Sound) (type1 : Int) (type2 : Option Int)
    (types : List TypeInfo) {chart : TypeChart α} (hc : chart.Sound) {settings : Settings α}
    (hd : Amount settings.critDamage) :
    (ofBundle stats bundle type1 type2 types chart settings).Sound := by
  have hstat := amount_adjusted hs hb
  have htype := amount_typeDefenseOf bundle type1 type2 types chart
  have hstab := amount_stabOf type1 type2 types hc
  have hcrit := Crit.sound_expectation Crit.presets settings.critPreset settings.critChance
    hb.critDamage.not_neg hd.not_neg
  have hoff {attack : α} (ha : Amount attack) : Amount (product
      [baseOffense attack (adjusted stats bundle).speed, stabOf type1 type2 types chart,
        (Crit.expectation Crit.presets bundle.crit settings.critPreset settings.critDamage
          settings.critChance).expected, bundle.offense, bundle.offenseByType]) := by
    refine amount_product ?_
    simp only [List.forall_mem_cons, List.not_mem_nil, false_implies, implies_true, and_true]
    exact ⟨(amount_baseOffense ha (hstat .speed)).not_neg, hstab.not_neg, hcrit.expected.not_neg,
      hb.offense.not_neg, hb.offenseByType.not_neg⟩
  have hdef (defense : α) {factor : α} (hf : Amount factor) : Amount (product
      [bulk (adjusted stats bundle).hp defense factor,
        typeDefenseOf bundle type1 type2 types chart, bundle.defense]) := by
    refine amount_product ?_
    simp only [List.forall_mem_cons, List.not_mem_nil, false_implies, implies_true, and_true]
    exact ⟨(amount_bulk _ _ hf).not_neg, htype.not_neg, hb.defense.not_neg⟩
  have hoffense := amount_blend (hoff (hstat .attack)) (hoff (hstat .specialAttack))
  have hdefense := amount_blend (hdef (adjusted stats bundle).defense hb.physicalBulk)
    (hdef (adjusted stats bundle).specialDefense hb.specialBulk)
  exact {
    physicalOffense := hoff (hstat .attack)
    specialOffense := hoff (hstat .specialAttack)
    physicalDefense := hdef _ hb.physicalBulk
    specialDefense := hdef _ hb.specialBulk
    offense := hoffense
    defense := hdefense
    rank := amount_rankOf hoffense hdefense
    crit := hcrit
    typeDefense := htype
    stab := hstab }

end Potentials

end Roster
