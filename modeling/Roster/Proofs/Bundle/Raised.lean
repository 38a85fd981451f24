import Roster.Proofs.Bundle.Order
import Roster.Proofs.Bundle.Sides
import Roster.Proofs.Related
import Roster.Proofs.Scalar.Rooted
import Roster.Proofs.Tag.Bounds

/-!
# Bundles of raised tags

The factors of multipliers are raised, each in its place among other tags. Every slot of the bundle
then holds what it held or more, and all that no multiplier bears on stays the same.
-/

namespace Roster

/-- Effects that are the same but for the factor of a multiplier, which is not lower in the second:
the multiplier of a stat, a bulk or a side, with or without a condition on the holder's type. -/
inductive Effect.Raised {α : Type} [Scalar α] : Effect α → Effect α → Prop
  | same (e : Effect α) : Raised e e
  | stat (s : Stat) {f f' : α} : f ≤ f' → Raised (.stat s f) (.stat s f')
  | statIfType (s : Stat) (type : Text) {f f' : α} :
    f ≤ f' → Raised (.statIfType s type f) (.statIfType s type f')
  | physicalBulk {f f' : α} : f ≤ f' → Raised (.physicalBulk f) (.physicalBulk f')
  | specialBulk {f f' : α} : f ≤ f' → Raised (.specialBulk f) (.specialBulk f')
  | defense {f f' : α} : f ≤ f' → Raised (.defense f) (.defense f')
  | offense {f f' : α} : f ≤ f' → Raised (.offense f) (.offense f')
  | offenseIfType (type : Text) {f f' : α} :
    f ≤ f' → Raised (.offenseIfType type f) (.offenseIfType type f')

/-- A tag, and the same one or one with a raised effect. -/
def Tag.Raised (α : Type) [Numeral α] (tag tag' : Text) : Prop :=
  tag = tag' ∨ ∃ e e' : Effect α, Tag.parse tag = some e ∧ Tag.parse tag' = some e' ∧ e.Raised e'

/-- A number, and one that is not below it; neither is below zero. -/
def Number.Raised {α : Type} [Scalar α] (n n' : Number α) : Prop :=
  ∃ x x', n.toScalar? = some x ∧ n'.toScalar? = some x' ∧ 0 ≤ x ∧ x ≤ x'

/-! ### Effects -/

variable {root : ℝ → ℝ}

/-- The factors for a slot rise with the effects. -/
theorem Slot.rel_factor? {holder : List Text} {slot : Slot} {e e' : Effect (Rooted root)}
    (h : e.Raised e') (he : e.Sound) :
    Option.Rel Rises (slot.factor? holder e) (slot.factor? holder e') := by
  have hrise {x x' : Rooted root} (hx : Scalar.Amount x) (hle : x ≤ x') : Rises x x' :=
    ⟨hx.nonneg, hle⟩
  have hite {p : Prop} [Decidable p] {x x' : Rooted root} (h : Rises x x') :
      Option.Rel Rises (if p then some x else none) (if p then some x' else none) := by
    split
    · exact .some h
    · exact .none
  have hsame {x : Option (Rooted root)} (hx : ∀ f, x = some f → 0 ≤ f) : Option.Rel Rises x x := by
    cases x with
    | none => exact .none
    | some f => exact .some (.same (hx f rfl))
  cases h with
  | same e => exact hsame fun f hf => (slot.amount_of_factor? he hf).nonneg
  | stat s hle =>
    cases slot with
    | stat s' => exact hite (hrise he hle)
    | _ => exact .none
  | statIfType s type hle =>
    cases slot with
    | stat s' => exact hite (hrise he hle)
    | _ => exact .none
  | offenseIfType type hle =>
    cases slot with
    | offenseByType => exact hite (hrise he hle)
    | _ => exact .none
  | physicalBulk hle =>
    cases slot with
    | physicalBulk => exact .some (hrise he hle)
    | _ => exact .none
  | specialBulk hle =>
    cases slot with
    | specialBulk => exact .some (hrise he hle)
    | _ => exact .none
  | defense hle =>
    cases slot with
    | defense => exact .some (hrise he hle)
    | _ => exact .none
  | offense hle =>
    cases slot with
    | offense => exact .some (hrise he hle)
    | _ => exact .none

/-- What raised tags do is raised effect by effect. -/
theorem Tag.raised_effects {tags tags' : List Text}
    (h : List.Forall₂ (Tag.Raised (Rooted root)) tags tags') :
    List.Forall₂ (fun e e' : Effect (Rooted root) => e.Raised e' ∧ e.Sound) (Tag.effects tags)
      (Tag.effects tags') := by
  refine List.rel_filterMap (fun tag tag' htag => ?_) h
  rcases htag with rfl | ⟨e, e', he, he', hraised⟩
  · cases he : Tag.parse (α := Rooted root) tag with
    | none => exact .none
    | some e => exact .some ⟨.same e, Tag.sound_of_parse he⟩
  · rw [he, he']
    exact .some ⟨hraised, Tag.sound_of_parse he⟩

/-! ### Bundles -/

namespace Bundle

/-- Bundles of which the second holds as much as the first or more in every slot, and the same of
all that no multiplier bears on. -/
structure Raised (b b' : Bundle (Rooted root)) : Prop where
  product (slot : Slot) : Rises (b.product slot) (b'.product slot)
  crit : b.crit = b'.crit
  incoming (roster : List Text) : b.SameIncoming roster b'

/-- Raised tags are resolved to raised bundles. -/
theorem raised_resolve {tags tags' : List Text}
    (h : List.Forall₂ (Tag.Raised (Rooted root)) tags tags') (holder : List Text) :
    (resolve tags holder : Bundle (Rooted root)).Raised (resolve tags' holder) := by
  have heffects := Tag.raised_effects h
  have hfactors (tags : List Text) (slot : Slot) :
      tags.filterMap (slot.ofTag? (α := Rooted root) holder) =
        (Tag.effects tags).filterMap (slot.factor? (TypeName.normals holder)) :=
    List.filterMap_filterMap.symm
  have hterms (tags : List Text) (tally : Tally) :
      tags.filterMap (tally.ofTag? (α := Rooted root)) =
        (Tag.effects tags).filterMap tally.term? :=
    List.filterMap_filterMap.symm
  -- No multiplier is meant for what follows, so that the effects agree on it one by one.
  have hkept {γ : Type} {part? : Effect (Rooted root) → Option γ}
      (hpart : ∀ e e', e.Raised e' → part? e = part? e') :
      (Tag.effects tags).filterMap part? = (Tag.effects tags').filterMap part? :=
    filterMap_eq_of_forall₂ heffects fun e e' he => hpart e e' he.1
  have hsame (slot : Slot)
      (hslot : ∀ e e' : Effect (Rooted root), e.Raised e' →
        slot.factor? (TypeName.normals holder) e = slot.factor? (TypeName.normals holder) e') :
      (resolve tags holder : Bundle (Rooted root)).product slot =
        (resolve tags' holder).product slot := by
    rw [product_resolve, product_resolve, hfactors, hfactors, hkept hslot]
  refine ⟨fun slot => ?_, crit_eq (fun tally => ?_) (hsame _ fun e e' he => ?_) ?_,
    fun roster => ?_⟩
  · rw [product_resolve, product_resolve, hfactors, hfactors]
    exact Rooted.rises_product (List.rel_filterMap (fun e e' he => Slot.rel_factor? he.1 he.2)
      heffects)
  · rw [total_resolve, total_resolve, hterms, hterms, hkept fun e e' he => ?_]
    cases tally <;> cases he <;> rfl
  · cases he <;> rfl
  · rw [applied_resolve, applied_resolve]
    refine any_eq_of_forall₂ heffects fun e e' he => ?_
    cases he.1 <;> rfl
  · refine ⟨fun type _ => ?_, fun type _ => ?_, ?_⟩
    · refine hsame (.incoming (TypeName.normal type)) fun e e' he => ?_
      cases he <;> rfl
    · rw [incomingMultiplier_resolve, incomingMultiplier_resolve, Tag.multiplier, Tag.multiplier,
        Tag.incoming, Tag.incoming, hkept fun e e' he => ?_]
      cases he <;> rfl
    · rw [hasWonderGuard_resolve, hasWonderGuard_resolve]
      refine any_eq_of_forall₂ heffects fun e e' he => ?_
      cases he.1 <;> rfl

end Bundle

end Roster
