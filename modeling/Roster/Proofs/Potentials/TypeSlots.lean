import Roster.Coverage
import Roster.Proofs.Analysis.OwnTypes
import Roster.Proofs.Bundle.Raised
import Roster.Proofs.Double.Commuting

/-!
# The two types of a creature

It does not matter which of a creature's two types comes first: not to its scores, and not to what
it contributes to a team's coverage. On the chart a multiplier may be a zero of either sign, so that
the better one of two may be either; powers do not tell the two zeros apart.
-/

namespace Roster

open Scalar

/-- A member with its types in the other order, if it has two. -/
def TeamMember.exchanged (m : TeamMember) : TeamMember :=
  match m.type2 with
  | none => m
  | some type2 => { m with type1 := type2, type2 := some m.type1 }

/-- A member, and the same one with its types in either order. -/
def TeamMember.SameTypes (m m' : TeamMember) : Prop := m' = m ∨ m' = m.exchanged

theorem hasTypeNamed_exchange (types : List TypeInfo) (type1 type2 : Int) (name : Text) :
    HasTypeNamed types type1 (some type2) name ↔ HasTypeNamed types type2 (some type1) name := by
  simp only [HasTypeNamed, Option.toList_some, List.mem_cons, List.not_mem_nil, or_false,
    exists_eq_or_imp, exists_eq_left]
  exact or_comm

section Doubles

variable {pow : Float → Float → Float} (chart : TypeChart (Double pow))

theorem TypeChart.against_exchange (attacking type1 type2 : Int) :
    chart.against attacking type1 (some type2) = chart.against attacking type2 (some type1) :=
  Double.mul_comm (chart.multiplier attacking type1) (chart.multiplier attacking type2)

namespace Potentials

theorem typeDefenseOf_exchange (bundle : Bundle (Double pow)) (type1 type2 : Int)
    (types : List TypeInfo) :
    typeDefenseOf bundle type1 (some type2) types chart =
      typeDefenseOf bundle type2 (some type1) types chart := by
  have hfrom : incomingFrom bundle type1 (some type2) chart =
      incomingFrom bundle type2 (some type1) chart := by
    funext attacker
    rw [incomingFrom, incomingFrom, chart.against_exchange]
  rw [typeDefenseOf, typeDefenseOf, meanIncoming, meanIncoming, hfrom]

theorem stabPowerOf_of_not_neg {α : Type} [Scalar α] {m : α} (h : ¬ m < 0) :
    stabPowerOf m = Scalar.pow m stabPower := by
  rw [stabPowerOf, if_neg h]

variable {chart} (hpow : pow (-0) 1.5 = pow 0 1.5) (hc : chart.Sound)

include hpow hc in
/-- The better one of two multipliers has the same power whichever comes first. -/
theorem stabPowerOf_exchange (defending type1 type2 : Int) :
    stabPowerOf (chart.bestOffense defending type1 (some type2)) =
      stabPowerOf (chart.bestOffense defending type2 (some type1)) := by
  have hm₁ := hc.multiplier type1 defending
  have hm₂ := hc.multiplier type2 defending
  have hneg := hc.not_neg_bestOffense defending type1 (some type2)
  have hneg' := hc.not_neg_bestOffense defending type2 (some type1)
  rcases Double.larger_comm hm₁.finite hm₂.finite with h | ⟨h₁, h₂⟩
  · exact congrArg stabPowerOf h
  · rw [stabPowerOf_of_not_neg hneg, stabPowerOf_of_not_neg hneg']
    have hzero {x : Double pow} (hx : Double.value x = some 0) :
        Scalar.pow x stabPower = Scalar.pow 0 stabPower := by
      rcases Double.zero_cases hx with rfl | rfl
      · rfl
      · exact hpow
    have hlarger {x y : Float} (hx : Double.value x = some 0) (hy : Double.value y = some 0) :
        Double.value (larger x y) = some 0 := by
      rcases larger_eq_or x y with h | h
      · rw [h]
        exact hx
      · rw [h]
        exact hy
    exact (hzero (hlarger h₁ h₂)).trans (hzero (hlarger h₂ h₁)).symm

include hpow hc in
theorem stabOf_exchange (type1 type2 : Int) (types : List TypeInfo) :
    stabOf type1 (some type2) types chart = stabOf type2 (some type1) types chart := by
  simp only [stabOf, stabPowerOf_exchange hpow hc _ type1 type2]

include hc in
/-- No multiplier of a sound chart stands between a creature and its scores. -/
theorem fault?_eq_of_sound (stats : Stats (Double pow)) (bundle : Bundle (Double pow))
    (type1 type1' : Int) (type2 type2' : Option Int) (types : List TypeInfo) :
    fault? stats bundle type1 type2 types chart =
      fault? stats bundle type1' type2' types chart := by
  have hpower (type1 : Int) (type2 : Option Int) :
      ¬ ∃ t ∈ types, HasNoStabPower (chart.bestOffense t.id type1 type2) :=
    fun ⟨t, _, hneg, _⟩ => hc.not_neg_bestOffense t.id type1 type2 hneg
  simp only [fault?, hpower, if_false]

include hpow hc in
theorem potentials_exchange (stats : Stats (Number (Double pow))) (tags : List Text)
    (type1 type2 : Int) (types : List TypeInfo) (settings : Settings (Number (Double pow))) :
    potentials stats tags type1 (some type2) types chart settings =
      potentials stats tags type2 (some type1) types chart settings := by
  unfold potentials
  rw [resolve_eq_of_hasTypeNamed (α := Double pow) (hasTypeNamed_exchange types type1 type2) tags]
  generalize
    Bundle.resolve (α := Double pow) tags (holderTypeNames type2 (some type1) types) = bundle
  simp only [fault?_eq_of_sound hc _ bundle type1 type2 (some type2) (some type1), ofBundle,
    typeDefenseOf_exchange chart bundle type1 type2, stabOf_exchange hpow hc type1 type2]

end Potentials

/-! ### Coverage -/

namespace Coverage

theorem multiplier_sameTypes (attacker : TypeInfo) {m m' : TeamMember} (h : m.SameTypes m') :
    multiplier chart attacker m = multiplier chart attacker m' := by
  rcases h with rfl | rfl
  · rfl
  · obtain ⟨type1, type2, tags⟩ := m
    cases type2 with
    | none => rfl
    | some type2 =>
      exact congrArg (Tag.multiplier tags attacker.name · true)
        (chart.against_exchange attacker.id type1 type2)

theorem matrix_sameTypes (types : List TypeInfo) {slots slots' : List (Option TeamMember)}
    (h : List.Forall₂ (Option.Rel TeamMember.SameTypes) slots slots') :
    matrix slots types chart = matrix slots' types chart := by
  refine List.map_congr_left fun attacker _ => ?_
  have hrow : slots.map (fun m => m.map (multiplier chart attacker)) =
      slots'.map fun m => m.map (multiplier chart attacker) :=
    map_eq_of_forall₂ h fun _ _ hm =>
      map_eq_of_rel hm fun _ _ => multiplier_sameTypes chart attacker
  simp only [matrixRow, hrow]

theorem summary_sameTypes (types : List TypeInfo) {members members' : List TeamMember}
    (h : List.Forall₂ TeamMember.SameTypes members members') :
    summary members types chart = summary members' types chart := by
  refine List.map_congr_left fun attacker _ => ?_
  rw [summaryRow, summaryRow,
    map_eq_of_forall₂ h fun m m' => multiplier_sameTypes chart attacker]

end Coverage

end Doubles

/-- Which of a creature's two types comes first makes no difference to its scores, nor to the
coverage of any team that it is in, where the multipliers on the chart are amounts. -/
theorem exchange_types {pow : Float → Float → Float} (hpow : pow (-0) 1.5 = pow 0 1.5)
    {chart : TypeChart (Double pow)} (hc : chart.Sound) (types : List TypeInfo) :
    (∀ (stats : Stats (Number (Double pow))) (tags : List Text) (type1 type2 : Int)
      (settings : Settings (Number (Double pow))),
      potentials stats tags type1 (some type2) types chart settings =
        potentials stats tags type2 (some type1) types chart settings) ∧
    (∀ slots slots', List.Forall₂ (Option.Rel TeamMember.SameTypes) slots slots' →
      Coverage.matrix slots types chart = Coverage.matrix slots' types chart) ∧
    (∀ members members', List.Forall₂ TeamMember.SameTypes members members' →
      Coverage.summary members types chart = Coverage.summary members' types chart) :=
  ⟨fun stats tags type1 type2 settings =>
      Potentials.potentials_exchange hpow hc stats tags type1 type2 types settings,
    fun _ _ => Coverage.matrix_sameTypes chart types,
    fun _ _ => Coverage.summary_sameTypes chart types⟩

/-- A function that is the power on zeros and on one: it forgets the sign of a zero. -/
def signlessPow (x _ : Float) : Float := x + 0

/-- A chart on which two types do nothing to a third one; of the two zeros one has a sign. -/
def zeroChart : TypeChart (Double signlessPow) := .ofRows [⟨1, 3, -0⟩, ⟨2, 3, 0⟩]

/-- The better one of the two multipliers is the one or the other zero. -/
theorem exchange_types_zeros :
    let types : List TypeInfo := [⟨3, "Steel", none, false⟩]
    signlessPow (-0) 1.5 = signlessPow 0 1.5 ∧ zeroChart.Sound ∧
      zeroChart.bestOffense 3 1 (some 2) ≠ zeroChart.bestOffense 3 2 (some 1) ∧
      potentials (.const (.whole 1)) ["weak:steel"] 1 (some 2) types zeroChart
          Settings.default.written =
        potentials (.const (.whole 1)) ["weak:steel"] 2 (some 1) types zeroChart
          Settings.default.written ∧
      Coverage.matrix [some ⟨1, some 2, []⟩, none] types zeroChart =
        Coverage.matrix [some ⟨2, some 1, []⟩, none] types zeroChart ∧
      Coverage.summary [⟨1, some 2, []⟩] types zeroChart =
        Coverage.summary [⟨2, some 1, []⟩] types zeroChart := by
  intro types
  have hpow : signlessPow (-0) 1.5 = signlessPow 0 1.5 := by decide +kernel
  have hamount : Amount (-0 : Double signlessPow) := amount_iff.2 (by decide +kernel)
  have hsound : zeroChart.Sound := by
    refine TypeChart.sound_ofRows fun row hrow => ?_
    rcases List.mem_cons.1 hrow with rfl | hrow
    · exact hamount
    · rw [List.mem_singleton.1 hrow]
      exact amount_zero
  have hmember : TeamMember.SameTypes ⟨1, some 2, []⟩ ⟨2, some 1, []⟩ := Or.inr rfl
  obtain ⟨hscores, hmatrix, hsummary⟩ := exchange_types hpow hsound types
  exact ⟨hpow, hsound, by decide +kernel, hscores _ _ _ _ _,
    hmatrix _ _ (.cons (.some hmember) (.cons .none .nil)), hsummary _ _ (.cons hmember .nil)⟩

end Roster
