import Roster.Proofs.Bundle.Slots

/-!
# Incoming damage in one pass

The multiplier on attacks of a type comes of one pass over the effects of the tags: relations and
incoming factors of the type multiply what came before, and an immunity is remembered until the end.
A bundle keeps of the effects what such a pass looks at, in the order of the tags, and the products
of the incoming factors by type beside it. So tags that are resolved multiply attacks as the tags
themselves do, step by step.
-/

namespace Roster

namespace Incoming

/-- Where a pass over effects stands: the multiplier so far, and whether an immunity came up. -/
structure Pass (α : Type) where
  multiplier : α
  immune : Bool

namespace Pass

variable {α : Type} [Scalar α]

/-- The pass with the multiplier multiplied once more. -/
def scale (p : Pass α) (factor : α) : Pass α :=
  { p with multiplier := Scalar.saturate (p.multiplier * factor) }

/-- The pass behind one more effect, for attacks of a type in normal form. -/
def step (type : Text) (withFactors : Bool) (p : Pass α) : Effect α → Pass α
  | .incoming (.relation r t) =>
    if t = type then
      match r with
      | .immune => { p with immune := true }
      | .resist => p.scale 0.5
      | .weak => p.scale 2.0
    else p
  | .incoming (.factor t f) => if withFactors ∧ t = type then p.scale f else p
  | _ => p

/-- The pass over effects, from a value of the chart. -/
def through (effects : List (Effect α)) (type : Text) (chart : α) (withFactors : Bool) : Pass α :=
  effects.foldl (step (TypeName.normal type) withFactors) ⟨chart, false⟩

/-- What the pass comes to. -/
def result (p : Pass α) : α := if p.immune then 0 else p.multiplier

/-- What effects do to a pass: the factors that match are multiplied, an immunity is kept. -/
structure Follows (type : Text) (withFactors : Bool) (effects : List (Effect α))
    (p p' : Pass α) : Prop where
  multiplier : p'.multiplier = Scalar.productFrom p.multiplier
    ((effects.filterMap Effect.incoming?).filterMap (factorFor? type withFactors))
  immune : p'.immune = (p.immune || (effects.filterMap Effect.incoming?).any (isImmunity type))

theorem follows_step (type : Text) (withFactors : Bool) (p : Pass α) (e : Effect α) :
    Follows type withFactors [e] p (p.step type withFactors e) := by
  cases e with
  | incoming i =>
    cases i with
    | relation r t =>
      by_cases h : t = type
      · cases r <;> constructor <;>
          simp [step, scale, Effect.incoming?, factorFor?, Relation.factor?, isImmunity, h]
      · cases r <;> constructor <;> simp [step, Effect.incoming?, factorFor?, isImmunity, h]
    | factor t f =>
      by_cases h : withFactors ∧ t = type
      · constructor <;> simp [step, scale, Effect.incoming?, factorFor?, isImmunity, h]
      · constructor <;> simp [step, Effect.incoming?, factorFor?, isImmunity, h]
  | _ => exact ⟨rfl, (Bool.or_false _).symm⟩

/-- A pass multiplies by the factors that match, in their order, and finds an immunity wherever it
stands. -/
theorem follows_foldl (type : Text) (withFactors : Bool) (effects : List (Effect α)) (p : Pass α) :
    Follows type withFactors effects p (effects.foldl (step type withFactors) p) := by
  induction effects generalizing p with
  | nil => exact ⟨rfl, (Bool.or_false _).symm⟩
  | cons e rest ih =>
    have hstep := follows_step type withFactors p e
    have hrest := ih (p.step type withFactors e)
    have hsplit : (e :: rest).filterMap Effect.incoming? =
        [e].filterMap Effect.incoming? ++ rest.filterMap Effect.incoming? :=
      List.filterMap_append (l := [e])
    constructor
    · rw [List.foldl_cons, hrest.multiplier, hstep.multiplier, hsplit, List.filterMap_append,
        Scalar.productFrom_append]
    · rw [List.foldl_cons, hrest.immune, hstep.immune, hsplit, List.any_append, Bool.or_assoc]

/-- The multiplier that effects put on attacks of a type is what a pass over them comes to. -/
theorem result_through (effects : List (Effect α)) (type : Text) (chart : α) (withFactors : Bool) :
    (through effects type chart withFactors).result =
      fold (effects.filterMap Effect.incoming?) type chart withFactors := by
  obtain ⟨hmultiplier, himmune⟩ :=
    follows_foldl (TypeName.normal type) withFactors effects ⟨chart, false⟩
  rw [result, through, hmultiplier, himmune, Bool.false_or]
  rfl

end Pass

end Incoming

/-! ### Incoming factors alone -/

/-- Whether a tag gives an incoming factor. -/
def Tag.givesFactor (α : Type) [Numeral α] (tag : Text) : Bool :=
  ((parse (α := α) tag).bind Effect.factorType?).isSome

namespace Bundle

variable {α : Type} [Numeral α] (tags holder : List Text)

/-- Of tags that give an incoming factor a pass takes what a bundle gathers for the type. -/
theorem incoming_givesFactor (type : Text) :
    (Tag.incoming (tags.filter (Tag.givesFactor α))).filterMap
        (Incoming.factorFor? (α := α) type true) =
      tags.filterMap ((Slot.incoming type).ofTag? holder) := by
  unfold Tag.incoming Tag.effects
  rw [List.filterMap_filterMap, List.filterMap_filterMap, List.filterMap_filter]
  refine List.filterMap_congr fun tag _ => ?_
  unfold Tag.givesFactor Slot.ofTag?
  cases Tag.parse (α := α) tag with
  | none => rfl
  | some e =>
    cases e with
    | incoming i =>
      cases i with
      | relation r t => rfl
      | factor t factor =>
        simp [Effect.factorType?, Effect.incoming?, Incoming.factorFor?, Slot.factor?]
    | _ => rfl

/-- None of them is an immunity. -/
theorem not_immune_givesFactor (type : Text) :
    (Tag.incoming (tags.filter (Tag.givesFactor α))).any (Incoming.isImmunity (α := α) type) =
      false := by
  rw [List.any_eq_false]
  intro i hi
  obtain ⟨e, he, hi⟩ := List.mem_filterMap.1 hi
  obtain ⟨tag, htag, he⟩ := List.mem_filterMap.1 he
  have hfactor : (Effect.factorType? e).isSome := by
    have := (List.mem_filter.1 htag).2
    rwa [Tag.givesFactor, he] at this
  cases e with
  | incoming i' =>
    cases i' with
    | relation r t => cases hfactor
    | factor t factor =>
      cases hi
      simp [Incoming.isImmunity]
  | _ => cases hfactor

/-- Tags that are resolved multiply attacks of a type as a pass over the tags does, whatever the
chart's value is and however it is written; and the factor that they hold for the type is what a
pass from one over the incoming factors alone comes to. -/
theorem multiplier_resolved_eq_pass (type : Text) :
    (∀ (chart : α) (withFactors : Bool),
      (resolve tags holder : Bundle α).incomingMultiplier type chart withFactors =
          Tag.multiplier tags type chart withFactors ∧
        Tag.multiplier tags type chart withFactors =
          (Incoming.Pass.through (Tag.effects tags) type chart withFactors).result) ∧
      (∀ (chart : Number α) (withFactors : Bool),
        Incoming.writtenFold (resolve tags holder : Bundle α).incoming type chart withFactors =
          Incoming.writtenFold (Tag.incoming tags) type chart withFactors) ∧
      (resolve tags holder : Bundle α).incomingFactor type =
        Tag.multiplier (tags.filter (Tag.givesFactor α)) type 1 true := by
  refine ⟨fun chart withFactors => ⟨?_, ?_⟩, fun chart withFactors => ?_, ?_⟩
  · exact incomingMultiplier_resolve tags holder type chart withFactors
  · exact (Incoming.Pass.result_through _ type chart withFactors).symm
  · rw [incoming_resolve]
  · rw [Tag.multiplier, Incoming.fold, not_immune_givesFactor, if_neg Bool.false_ne_true,
      incoming_givesFactor tags holder]
    exact product_resolve tags holder (.incoming (TypeName.normal type))

/-- A weakness and a factor of the same type, and what does not count for attacks of it. -/
example :
    let tags : List Text := ["weak:fire", "mult:in_type:Fire:0.25", "resist:water", "mult:off:3"]
    (resolve tags [] : Bundle Float).incomingMultiplier " FIRE" 1 true = 0.5 ∧
      (resolve tags [] : Bundle Float).incomingFactor "fire" = 0.25 := by
  decide +kernel

end Bundle

end Roster
