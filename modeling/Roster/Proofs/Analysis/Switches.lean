import Roster.Proofs.Analysis.Agree
import Roster.Warning.Basic

/-!
# Abilities and items that are left out

An analysis that leaves abilities or items out is an analysis of the game in which no creature has
one. Nothing is left of them in scores, reports or warnings, nor is any complaint about their ids;
and what the game says of them does not count.
-/

namespace Roster

/-- Which gear is left out. -/
structure GearSwitches where
  abilities : Bool
  items : Bool
  deriving DecidableEq, Repr

namespace GearSwitches

/-- What either leaves out. -/
def or (s t : GearSwitches) : GearSwitches := ⟨s.abilities || t.abilities, s.items || t.items⟩

/-- The change of settings that leaves just this out. -/
def change {α : Type} (s : GearSwitches) : SettingsChange α where
  disableAbilities := some s.abilities
  disableItems := some s.items

end GearSwitches

/-- A box entry without its ability, its item or both. -/
def BoxEntry.without (s : GearSwitches) (e : BoxEntry) : BoxEntry :=
  { e with
    abilityId := if s.abilities then none else e.abilityId
    itemId := if s.items then none else e.itemId }

/-- A game in whose box no creature has an ability, an item or either. -/
def Game.without {α : Type} (s : GearSwitches) (g : Game α) : Game α :=
  { g with box := g.box.map (BoxEntry.without s) }

namespace Analyzer

variable {α : Type}

/-! ### What an analysis comes to -/

section Outcome

variable [Numeral α]

/-- What an analysis comes to: the ranked box and the report on the team, both with what came up,
and the warnings, with and without the team. -/
structure Outcome (α : Type) where
  box : Except ScoreError (List (Score α)) × List AnalysisNotice
  team : Except ScoreError (TeamReport α) × List AnalysisNotice
  warnings : Bool → Except ScoreError (List Warning)

/-- The warnings of a game that is scored; the team counts where it is asked for. -/
def warnings (a : Analyzer α) (g : Game α) (withTeam : Bool) :
    Except ScoreError (List Warning) := do
  let scores ← (a.box g).1
  let team ← if withTeam then (a.team g).1.map some else .ok none
  return Warning.evaluate Warning.defaultRules (.of a.settings scores team)

/-- What the analysis of a game under settings comes to. -/
def outcome (settings : Settings (Number α)) (g : Game α) : Outcome α :=
  let a := ofGame g settings
  ⟨a.box g, a.team g, a.warnings g⟩

/-- Analyses that agree come to the same, if the crit table has one name. -/
theorem Agree.outcome_eq {g g' : Game α} {settings settings' : Settings (Number α)}
    {counterpart : BoxEntry → BoxEntry}
    (h : (ofGame g settings).Agree g (ofGame g' settings') g' counterpart)
    (hname : g'.name = g.name) (hpreset : settings.critPreset = settings'.critPreset) :
    outcome settings g = outcome settings' g' := by
  have hwarnings : (ofGame g settings).warnings g = (ofGame g' settings').warnings g' := by
    funext withTeam
    unfold warnings Warning.Context.of
    rw [h.box_eq hname, h.team_eq]
    simp only [ofGame, hpreset]
  unfold outcome
  dsimp only
  rw [h.box_eq hname, h.team_eq, hwarnings]

end Outcome

/-! ### Gear -/

/-- What ids lead to is the same in other gear under another switch, where ids may have been taken
away; and so is what they do not lead to. -/
def SameGear (left : Bool) (all : Keyed Int Gear) (left' erased : Bool) (all' : Keyed Int Gear) :
    Prop :=
  ∀ id : Option Int, gear? left all id = gear? left' all' (if erased then none else id) ∧
    missingGear? left all id = missingGear? left' all' (if erased then none else id)

/-- Whether gear is left out or taken away is the same. -/
theorem sameGear_or (left erased : Bool) (all : Keyed Int Gear) :
    SameGear (left || erased) all left erased all := by
  intro id
  cases left with
  | true => exact ⟨rfl, rfl⟩
  | false => cases erased <;> exact ⟨rfl, rfl⟩

/-- Gear that is left out does not count, whatever it is. -/
theorem sameGear_left (all all' : Keyed Int Gear) : SameGear true all true false all' :=
  fun _ => ⟨rfl, rfl⟩

theorem sameGear_self (left : Bool) (all : Keyed Int Gear) : SameGear left all left false all :=
  fun _ => ⟨rfl, rfl⟩

variable [Numeral α]

/-- The potentials of a creature do not depend on what else is left out. -/
theorem potentials_change (stats : Stats (Number α)) (tags : List Text) (type1 : Int)
    (type2 : Option Int) (types : List TypeInfo) (chart : TypeChart α)
    (settings : Settings (Number α)) (s : GearSwitches) :
    potentials stats tags type1 type2 types chart (settings.change s.change) =
      potentials stats tags type1 type2 types chart settings := by
  have hsettings : Potentials.scalarSettings? (settings.change s.change) =
      (Potentials.scalarSettings? settings).map fun t => t.change s.change := by
    unfold Potentials.scalarSettings?
    change (settings.critDamage.toScalar?.bind _) = (settings.critDamage.toScalar?.bind _).map _
    cases settings.critDamage.toScalar? <;> rfl
  unfold potentials
  rw [hsettings]
  cases Potentials.scalarSettings? settings with
  | none => rfl
  | some t => rfl

section SameGear

variable {settings : Settings (Number α)} {g : Game α} {s s' t : GearSwitches}
  {abilities items : Keyed Int Gear}
  (ha : SameGear s.abilities g.abilities s'.abilities t.abilities abilities)
  (hi : SameGear s.items g.items s'.items t.items items)

include ha in
omit [Numeral α] in
theorem ability?_of_sameGear (e : BoxEntry) :
    (ofGame g (settings.change s.change)).ability? g e =
      (ofGame { g.without t with abilities, items } (settings.change s'.change)).ability?
        { g.without t with abilities, items } (e.without t) :=
  (ha e.abilityId).1

include hi in
omit [Numeral α] in
theorem item?_of_sameGear (e : BoxEntry) :
    (ofGame g (settings.change s.change)).item? g e =
      (ofGame { g.without t with abilities, items } (settings.change s'.change)).item?
        { g.without t with abilities, items } (e.without t) :=
  (hi e.itemId).1

include ha hi

omit [Numeral α] in
theorem tags_of_sameGear (e : BoxEntry) (species : Species α) :
    (ofGame g (settings.change s.change)).tags g e species =
      (ofGame { g.without t with abilities, items } (settings.change s'.change)).tags
        { g.without t with abilities, items } (e.without t) species := by
  unfold tags
  rw [ability?_of_sameGear ha, item?_of_sameGear hi]

/-- A creature has the same score, names and tags included. -/
theorem score_of_sameGear (e : BoxEntry) :
    (ofGame g (settings.change s.change)).score g e =
      (ofGame { g.without t with abilities, items } (settings.change s'.change)).score
        { g.without t with abilities, items } (e.without t) := by
  have hpotentials (species : Species α) :
      (ofGame g (settings.change s.change)).potentialsOf g e species =
        (ofGame { g.without t with abilities, items } (settings.change s'.change)).potentialsOf
          { g.without t with abilities, items } (e.without t) species := by
    unfold potentialsOf
    rw [← tags_of_sameGear ha hi]
    exact (potentials_change ..).trans (potentials_change ..).symm
  have hscore (species : Species α) (p : Potentials α) (names : List Text) :
      (ofGame g (settings.change s.change)).scoreWith g e species p names =
        (ofGame { g.without t with abilities, items } (settings.change s'.change)).scoreWith
          { g.without t with abilities, items } (e.without t) species p names := by
    unfold scoreWith
    rw [← tags_of_sameGear ha hi, ← ability?_of_sameGear ha, ← item?_of_sameGear hi]
    rfl
  unfold score
  cases hs : Keyed.get? e.speciesId g.species with
  | none =>
    have hs' : Keyed.get? (e.without t).speciesId (g.without t).species = none := hs
    simp only [hs']
    rfl
  | some species =>
    have hs' : Keyed.get? (e.without t).speciesId (g.without t).species = some species := hs
    simp only [hs', hpotentials, hscore]
    rfl

/-- The same comes up while it is scored. -/
theorem scoreNotices_of_sameGear (e : BoxEntry) :
    (ofGame g (settings.change s.change)).scoreNotices g e =
      (ofGame { g.without t with abilities, items } (settings.change s'.change)).scoreNotices
        { g.without t with abilities, items } (e.without t) := by
  have hfaults : (ofGame g (settings.change s.change)).faults g e =
      (ofGame { g.without t with abilities, items } (settings.change s'.change)).faults
        { g.without t with abilities, items } (e.without t) := by
    unfold faults
    change ((missingGear? s.abilities g.abilities e.abilityId).map _).toList ++
      ((missingGear? s.items g.items e.itemId).map _).toList = _
    rw [(ha e.abilityId).2, (hi e.itemId).2]
    rfl
  unfold scoreNotices
  cases hs : Keyed.get? e.speciesId g.species with
  | none =>
    have hs' : Keyed.get? (e.without t).speciesId (g.without t).species = none := hs
    simp only [hs']
  | some species =>
    have hs' : Keyed.get? (e.without t).speciesId (g.without t).species = some species := hs
    simp only [hs', hfaults, tags_of_sameGear ha hi, score_of_sameGear ha hi]

/-- Analyses that lead to the same gear come to the same. -/
theorem outcome_of_sameGear :
    outcome (settings.change s.change) g =
      outcome (settings.change s'.change) { g.without t with abilities, items } := by
  have hagree : (ofGame g (settings.change s.change)).Agree g
      (ofGame { g.without t with abilities, items } (settings.change s'.change))
      { g.without t with abilities, items } (BoxEntry.without t) :=
    ⟨score_of_sameGear ha hi, scoreNotices_of_sameGear ha hi, fun _ => rfl, rfl, rfl, rfl⟩
  exact hagree.outcome_eq rfl rfl

end SameGear

end Analyzer

namespace Game

open Analyzer

variable {α : Type}

/-- Nothing is taken away where no switch is set. -/
theorem without_nothing (g : Game α) : g.without ⟨false, false⟩ = g := by
  have hbox : g.box.map (BoxEntry.without ⟨false, false⟩) = g.box := List.map_id' g.box
  unfold without
  rw [hbox]

/-- To leave abilities or items out of an analysis is to take them from the creatures of the game:
boxes with all that is told of a score, reports, warnings and what comes up are the same, whichever
of the two is left out and whichever taken away. What is left out does not count, whatever the game
says of it. -/
theorem outcome_switches [Numeral α] (g : Game α) (settings : Settings (Number α)) :
    (∀ s t : GearSwitches,
      outcome (settings.change (s.or t).change) g =
        outcome (settings.change s.change) (g.without t)) ∧
    (∀ (s : GearSwitches) (abilities : Keyed Int Gear),
      outcome (settings.change (GearSwitches.change { s with abilities := true })) g =
        outcome (settings.change (GearSwitches.change { s with abilities := true }))
          { g with abilities }) ∧
    ∀ (s : GearSwitches) (items : Keyed Int Gear),
      outcome (settings.change (GearSwitches.change { s with items := true })) g =
        outcome (settings.change (GearSwitches.change { s with items := true }))
          { g with items } := by
  refine ⟨fun s t => ?_, fun s abilities => ?_, fun s items => ?_⟩
  · exact outcome_of_sameGear (sameGear_or s.abilities t.abilities g.abilities)
      (sameGear_or s.items t.items g.items)
  · have h : outcome (settings.change (GearSwitches.change { s with abilities := true })) g =
        outcome (settings.change (GearSwitches.change { s with abilities := true }))
          { g.without ⟨false, false⟩ with abilities, items := g.items } :=
      outcome_of_sameGear (sameGear_left g.abilities abilities) (sameGear_self s.items g.items)
    rwa [without_nothing] at h
  · have h : outcome (settings.change (GearSwitches.change { s with items := true })) g =
        outcome (settings.change (GearSwitches.change { s with items := true }))
          { g.without ⟨false, false⟩ with abilities := g.abilities, items } :=
      outcome_of_sameGear (sameGear_self s.abilities g.abilities) (sameGear_left g.items items)
    rwa [without_nothing] at h

end Game

end Roster
