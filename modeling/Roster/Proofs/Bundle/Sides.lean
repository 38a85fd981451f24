import Roster.Proofs.Bundle.Slots

/-!
# The sides of a bundle

Every effect of a tag is for one side of a creature, or for none, and so is every slot of a bundle.
A tag that does not act on a side leaves what a bundle holds for it, wherever among other tags it
comes.
-/

namespace Roster

/-- The sides of a creature, attack and defense. -/
inductive Side where
  | offense
  | defense
  deriving DecidableEq, Repr

/-- The side that a stat counts for. -/
def Stat.side : Stat → Side
  | .hp | .defense | .specialDefense => .defense
  | .attack | .specialAttack | .speed => .offense

namespace Effect

variable {α : Type}

/-- The side that an effect is for, if it bears on scores. -/
def side? : Effect α → Option Side
  | .stat s _ | .statIfType s _ _ => some s.side
  | .physicalBulk _ | .specialBulk _ | .defense _ | .incoming _ | .flag .wonderGuard =>
    some .defense
  | .offense _ | .offenseIfType _ _ | .crit _ _ => some .offense
  | .flag .avoid | .note _ => none

/-- Whether an effect is for a type that is not there: a condition on the holder's types, whose
names are `holder`, or on attacks of types, whose names are `roster`. -/
def Idle (holder roster : List Text) : Effect α → Prop
  | .statIfType _ type _ | .offenseIfType type _ => type ∉ holder
  | .incoming i => i.type ∉ roster
  | _ => False

/-- Whether an effect changes what the scores of a side are made of. -/
def ActsOn (holder roster : List Text) (side : Side) (e : Effect α) : Prop :=
  e.side? = some side ∧ ¬ e.Idle holder roster

end Effect

/-- The side whose scores a slot enters. -/
def Slot.side : Slot → Side
  | .stat s => s.side
  | .physicalBulk | .specialBulk | .defense | .incoming _ => .defense
  | .offense | .offenseByType | .critDamage => .offense

/-- Whether a slot is looked at where attacks have the types of a roster. -/
def Slot.Among (roster : List Text) : Slot → Prop
  | .incoming type => type ∈ roster
  | _ => True

/-- An effect that is meant for a slot acts on the side of the slot. -/
theorem Slot.actsOn_of_factor? {α : Type} {holder roster : List Text} {e : Effect α} {slot : Slot}
    {f : α} (hs : slot.Among roster) (h : slot.factor? holder e = some f) :
    e.ActsOn holder roster slot.side := by
  unfold factor? at h
  split at h
  · obtain ⟨rfl, -⟩ := Option.ite_none_right_eq_some.1 h
    exact ⟨rfl, not_false⟩
  · obtain ⟨⟨rfl, htype⟩, -⟩ := Option.ite_none_right_eq_some.1 h
    exact ⟨rfl, not_not.2 htype⟩
  · exact ⟨rfl, not_false⟩
  · exact ⟨rfl, not_false⟩
  · exact ⟨rfl, not_false⟩
  · exact ⟨rfl, not_false⟩
  · obtain ⟨htype, -⟩ := Option.ite_none_right_eq_some.1 h
    exact ⟨rfl, not_not.2 htype⟩
  · obtain ⟨rfl, -⟩ := Option.ite_none_right_eq_some.1 h
    exact ⟨rfl, not_not.2 hs⟩
  · exact ⟨rfl, not_false⟩
  · cases h

/-- What is counted for a tally acts on the attack. -/
theorem Tally.actsOn_of_term? {α : Type} (holder roster : List Text) {e : Effect α} {tally : Tally}
    {x : α} (h : tally.term? e = some x) : e.ActsOn holder roster .offense := by
  unfold term? at h
  split at h
  · exact ⟨rfl, not_false⟩
  · exact ⟨rfl, not_false⟩
  · cases h

/-! ### One tag more -/

/-- Whether a tag changes what the scores of a side are made of. -/
def Tag.ActsOn (α : Type) [Numeral α] (holder roster : List Text) (side : Side) (tag : Text) :
    Prop :=
  ∃ e, Tag.parse (α := α) tag = some e ∧ e.ActsOn holder roster side

/-- What gathers nothing from an element gathers the same without it. -/
theorem filterMap_insert {β γ : Type} {f : β → Option γ} {x : β} (h : f x = none)
    (before after : List β) :
    (before ++ x :: after).filterMap f = (before ++ after).filterMap f := by
  rw [List.filterMap_append, List.filterMap_cons_none h, List.filterMap_append]

section Insert

variable {α : Type} [Numeral α] {holder roster : List Text} {side : Side} {tag : Text}

/-- Of a tag that does not act on a side nothing is gathered that takes an effect on the side. -/
theorem Tag.bind_parse_of_not_actsOn {γ : Type} {part? : Effect α → Option γ}
    (hpart : ∀ e x, part? e = some x → e.ActsOn holder roster side)
    (h : ¬ Tag.ActsOn α holder roster side tag) : (Tag.parse tag).bind part? = none := by
  refine Option.eq_none_iff_forall_ne_some.2 fun x hx => ?_
  obtain ⟨e, he, hx⟩ := Option.bind_eq_some_iff.1 hx
  exact h ⟨e, he, hpart e x hx⟩

theorem Tag.any_effects_insert {p : Effect α → Bool}
    (hp : ∀ e, p e = true → e.ActsOn holder roster side)
    (h : ¬ Tag.ActsOn α holder roster side tag) (before after : List Text) :
    (Tag.effects (before ++ tag :: after)).any p = (Tag.effects (before ++ after)).any p := by
  cases ht : Tag.parse (α := α) tag with
  | none => rw [Tag.effects, filterMap_insert ht, Tag.effects]
  | some e =>
    have he : p e = false := Bool.eq_false_iff.2 fun he => h ⟨e, ht, hp e he⟩
    rw [Tag.effects, List.filterMap_append, List.filterMap_cons_some ht, Tag.effects,
      List.filterMap_append, List.any_append, List.any_cons, he, Bool.false_or, List.any_append]

theorem Incoming.fold_insert {i : Incoming α} {type : Text} (h : i.type ≠ TypeName.normal type)
    (before after : List (Incoming α)) (chart : α) (withFactors : Bool) :
    fold (before ++ i :: after) type chart withFactors =
      fold (before ++ after) type chart withFactors := by
  have himmune : isImmunity (TypeName.normal type) i = false := by
    cases i with
    | relation r t => cases r <;> simp_all [isImmunity, Incoming.type]
    | factor t f => rfl
  have hfactor : factorFor? (TypeName.normal type) withFactors i = none := by
    cases i <;> simp_all [factorFor?, Incoming.type]
  unfold fold
  simp only [List.any_append, List.any_cons, himmune, Bool.false_or, filterMap_insert hfactor]

/-- What a tag does to incoming damage, if it is of that family. -/
def Tag.incoming? (tag : Text) : Option (Incoming α) := (Tag.parse tag).bind Effect.incoming?

theorem Tag.incoming_eq_filterMap (tags : List Text) :
    Tag.incoming (α := α) tags = tags.filterMap Tag.incoming? :=
  List.filterMap_filterMap

/-- Attacks of a type meet the same multiplier whatever tags come for other types. -/
theorem Tag.multiplier_insert {type : Text} (h : ¬ Tag.ActsOn α holder roster .defense tag)
    (htype : TypeName.normal type ∈ roster) (before after : List Text) (chart : α)
    (withFactors : Bool) :
    Tag.multiplier (before ++ tag :: after) type chart withFactors =
      Tag.multiplier (before ++ after) type chart withFactors := by
  unfold Tag.multiplier
  rw [incoming_eq_filterMap, incoming_eq_filterMap]
  cases hi : Tag.incoming? (α := α) tag with
  | none => rw [filterMap_insert hi]
  | some i =>
    have hne : i.type ≠ TypeName.normal type := by
      intro heq
      obtain ⟨e, he, hei⟩ := Option.bind_eq_some_iff.1 hi
      cases e with
      | incoming j =>
        cases hei
        exact h ⟨_, he, rfl, not_not.2 (heq ▸ htype)⟩
      | _ => cases hei
    rw [List.filterMap_append, List.filterMap_cons_some hi, List.filterMap_append,
      Incoming.fold_insert hne]

end Insert

/-! ### Bundles -/

namespace Bundle

/-- Bundles that hold the same of what the scores of the attack are made of. -/
structure SameOffense {α : Type} [Scalar α] (b b' : Bundle α) : Prop where
  product (slot : Slot) : slot.side = .offense → b.product slot = b'.product slot
  total (tally : Tally) : b.total tally = b'.total tally
  applied : b.crit.applied = b'.crit.applied

/-- Bundles that make the same of attacks whose types are of a roster. -/
structure SameIncoming {α : Type} [Scalar α] (roster : List Text) (b b' : Bundle α) : Prop where
  factor (type : Text) : TypeName.normal type ∈ roster →
    b.incomingFactor type = b'.incomingFactor type
  multiplier (type : Text) : TypeName.normal type ∈ roster →
    b.incomingMultiplier type 1 false = b'.incomingMultiplier type 1 false
  guard : b.hasWonderGuard = b'.hasWonderGuard

/-- Bundles that hold the same of what the scores of the defense are made of, where attacks have the
types of a roster. -/
structure SameDefense {α : Type} [Scalar α] (roster : List Text) (b b' : Bundle α) : Prop extends
    SameIncoming roster b b' where
  product (slot : Slot) :
    slot.side = .defense → slot.Among roster → b.product slot = b'.product slot

/-- What is expected of crits is made of two tallies and a slot. -/
theorem crit_eq {α : Type} [Scalar α] {b b' : Bundle α}
    (htotal : ∀ tally, b.total tally = b'.total tally)
    (hdamage : b.product .critDamage = b'.product .critDamage)
    (happlied : b.crit.applied = b'.crit.applied) : b.crit = b'.crit := by
  have hchance : b.crit.chanceBonus = b'.crit.chanceBonus := htotal .critChance
  have hdamage : b.crit.damageFactor = b'.crit.damageFactor := hdamage
  have hstage : b.crit.stageBonus = b'.crit.stageBonus := htotal .critStage
  cases hb : b.crit
  cases hb' : b'.crit
  simp_all

variable {α : Type} [Numeral α] {holder roster : List Text} {side : Side} {tag : Text}

theorem product_insert {slot : Slot} (hs : slot.Among roster)
    (h : ¬ Tag.ActsOn α (TypeName.normals holder) roster slot.side tag) (before after : List Text) :
    (resolve (before ++ tag :: after) holder : Bundle α).product slot =
      (resolve (before ++ after) holder).product slot := by
  have hnone : slot.ofTag? (α := α) holder tag = none :=
    Tag.bind_parse_of_not_actsOn (fun _ _ => Slot.actsOn_of_factor? hs) h
  rw [product_resolve, product_resolve, filterMap_insert hnone]

/-- A tag that does not act on the attack leaves what its scores are made of. -/
theorem sameOffense_insert (h : ¬ Tag.ActsOn α (TypeName.normals holder) roster .offense tag)
    (before after : List Text) :
    (resolve (before ++ tag :: after) holder : Bundle α).SameOffense
      (resolve (before ++ after) holder) where
  product slot hs := by
    have hamong : slot.Among roster := by
      cases slot with
      | incoming type => cases hs
      | _ => exact trivial
    exact product_insert hamong (hs ▸ h) before after
  total tally := by
    have hnone : tally.ofTag? (α := α) tag = none :=
      Tag.bind_parse_of_not_actsOn (fun _ _ => Tally.actsOn_of_term? _ _) h
    rw [total_resolve, total_resolve, filterMap_insert hnone]
  applied := by
    rw [applied_resolve, applied_resolve]
    refine Tag.any_effects_insert (fun e he => ?_) h before after
    cases e with
    | crit kind value => exact ⟨rfl, not_false⟩
    | _ => cases he

theorem hasWonderGuard_resolve (tags holder : List Text) :
    (resolve tags holder : Bundle α).hasWonderGuard =
      (Tag.effects (α := α) tags).any fun e => e.flag? = some .wonderGuard := by
  have hflag (e : Effect α) : e.flag? = some .wonderGuard ↔ e = .flag .wonderGuard := by
    cases e <;> simp [Effect.flag?]
  rw [Bool.eq_iff_iff, hasWonderGuard, List.contains_iff_mem, mem_flags_resolve]
  simp [hflag]

/-- A tag that does not act on the defense leaves what its scores are made of. -/
theorem sameDefense_insert (h : ¬ Tag.ActsOn α (TypeName.normals holder) roster .defense tag)
    (before after : List Text) :
    (resolve (before ++ tag :: after) holder : Bundle α).SameDefense roster
      (resolve (before ++ after) holder) where
  product slot hs hamong := product_insert hamong (hs ▸ h) before after
  factor type htype := by
    have hamong : (Slot.incoming (TypeName.normal type)).Among roster := htype
    exact product_insert hamong h before after
  multiplier type htype := by
    rw [incomingMultiplier_resolve, incomingMultiplier_resolve]
    exact Tag.multiplier_insert h htype before after 1 false
  guard := by
    rw [hasWonderGuard_resolve, hasWonderGuard_resolve]
    refine Tag.any_effects_insert (fun e he => ?_) h before after
    cases e with
    | flag f =>
      cases f with
      | avoid => cases of_decide_eq_true he
      | wonderGuard => exact ⟨rfl, not_false⟩
    | _ => cases of_decide_eq_true he

end Bundle

end Roster
