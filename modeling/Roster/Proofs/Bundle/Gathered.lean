import Roster.Proofs.Bundle.Slots
import Roster.Proofs.Tag.Grammar

/-!
# Bundles gathered field by field

What a bundle holds can be said without following the tags one by one: every field is made of those
tags alone that are meant for it, in the order in which they come. Tags resolved one after the other
give just that bundle.
-/

namespace Roster

attribute [ext] CritModifiers Bundle

namespace Bundle

variable {α : Type} [Numeral α]

/-- The product of the factors that tags have for a slot. -/
def slotProduct (tags holder : List Text) (slot : Slot) : α :=
  Scalar.product (tags.filterMap (slot.ofTag? holder))

/-- The sum of the terms that tags have for a tally. -/
def tallySum (tags : List Text) (tally : Tally) : α := Scalar.sum (tags.filterMap tally.ofTag?)

/-- The bundle whose every field is gathered from the tags that are meant for it. -/
def gathered (tags holder : List Text) : Bundle α where
  stats := .ofFn fun stat => slotProduct tags holder (.stat stat)
  physicalBulk := slotProduct tags holder .physicalBulk
  specialBulk := slotProduct tags holder .specialBulk
  defense := slotProduct tags holder .defense
  offense := slotProduct tags holder .offense
  offenseByType := slotProduct tags holder .offenseByType
  incomingFactors :=
    (factorTypes α tags).map fun type => (type, slotProduct tags holder (.incoming type))
  incoming := (Tag.effects tags).filterMap Effect.incoming?
  flags := ((Tag.effects (α := α) tags).filterMap Effect.flag?).eraseDups
  crit :=
    { chanceBonus := tallySum tags .critChance
      damageFactor := slotProduct tags holder .critDamage
      stageBonus := tallySum tags .critStage
      applied := (Tag.effects (α := α) tags).any Effect.isCrit }
  notes := (Tag.effects (α := α) tags).filterMap Effect.note?
  ignored := tags.filter fun tag => (Tag.parse (α := α) tag).isNone

end Bundle

/-! ### Resolved tags -/

namespace Bundle

section Resolve

variable {α : Type} [Numeral α] (tags holder : List Text)

theorem incomingFactors_resolve :
    (resolve tags holder : Bundle α).incomingFactors =
      (factorTypes α tags).map fun type => (type, slotProduct tags holder (.incoming type)) := by
  have hkeys := keys_resolve (α := α) tags holder
  have hnodup : (Keyed.keys (resolve tags holder : Bundle α).incomingFactors).Nodup := by
    rw [hkeys]
    exact nodup_eraseDups _
  rw [Keyed.eq_map_keys hnodup 1, hkeys]
  exact List.map_congr_left fun type _ =>
    congrArg (type, ·) (product_resolve tags holder (.incoming type))

theorem notes_resolve :
    (resolve tags holder : Bundle α).notes =
      (Tag.effects (α := α) tags).filterMap Effect.note? :=
  list_resolve tags holder (·.notes) Effect.note? (fun b e => (b.records_add _ e).notes)
    (fun _ _ => rfl) rfl

theorem ignored_resolve :
    (resolve tags holder : Bundle α).ignored =
      tags.filter fun tag => (Tag.parse (α := α) tag).isNone := by
  suffices h : ∀ b : Bundle α,
      (tags.foldl (addTag (TypeName.normals holder)) b).ignored =
        b.ignored ++ tags.filter fun tag => (Tag.parse (α := α) tag).isNone from h identity
  induction tags with
  | nil => exact fun b => (List.append_nil _).symm
  | cons tag tags ih =>
    intro b
    rw [List.foldl_cons, ih, addTag]
    cases ht : Tag.parse (α := α) tag with
    | none => simp [ht]
    | some e => simp [ht, (b.records_add _ e).ignored]

end Resolve

end Bundle

/-! ### The names of speed -/

namespace Text

/-- What is cut off the back of a list does not reach over an element that stays. -/
theorem trimEndBy_append_cons {β : Type} {p : β → Bool} {c : β} (s t : List β) (h : p c = false) :
    trimEndBy p (s ++ c :: t) = s ++ c :: trimEndBy p t := by
  unfold trimEndBy
  rw [List.reverse_append, List.reverse_cons, List.append_assoc, List.dropWhile_append]
  split
  · rename_i he
    rw [List.isEmpty_iff.1 he]
    simp [h]
  · simp

theorem trimBy_cons {β : Type} {p : β → Bool} {c : β} (s : List β) (h : p c = false) :
    trimBy p (c :: s) = trimEndBy p (c :: s) := by
  rw [trimBy, trimStartBy, List.dropWhile_cons_of_neg (by simp [h])]

end Text

namespace Tag

variable {α : Type} [Numeral α]

open Text

/-- A text without the blank characters at its back. -/
def trimEnd (s : Text) : Text := ⟨trimEndBy (CodePoint.satisfies isBlank) s.toList⟩

/-- A part in front of a colon is cut off whole, whatever blanks stand at the back. -/
theorem split_trimEnd {part : Text} (rest : Text) (h : .char ':' ∉ part.toList) :
    split ':' (trimEnd (part ++ ":" ++ rest)) = part :: split ':' (trimEnd rest) := by
  have hlist : (part ++ ":" ++ rest).toList = part.toList ++ .char ':' :: rest.toList := by
    simp
  have hcolon : CodePoint.satisfies isBlank (.char ':') = false := by decide
  rw [trimEnd, hlist, trimEndBy_append_cons _ _ hcolon, split, splitAt_append _ h]
  rfl

theorem trim_mult (s : Text) : trim ("mult:" ++ s) = trimEnd ("mult:" ++ s) := by
  have hlist : ("mult:" ++ s : Text).toList =
      .char 'm' :: ([.char 'u', .char 'l', .char 't', .char ':'] ++ s.toList) := rfl
  have hm : CodePoint.satisfies isBlank (.char 'm') = false := by decide
  exact ext_toList (by rw [toList_trim, trimmed, trimEnd, hlist, trimBy_cons _ hm])

theorem parse_mult (target rest : Text) (h : .char ':' ∉ target.toList) :
    parse (α := α) ("mult:" ++ (target ++ ":" ++ rest)) =
      mult? (target :: split ':' (trimEnd rest)) := by
  have hmult : ("mult:" ++ (target ++ ":" ++ rest) : Text) =
      "mult" ++ ":" ++ (target ++ ":" ++ rest) := rfl
  rw [parse, trim_mult, hmult, split_trimEnd _ (by decide), split_trimEnd _ h, ofParts?_mult]

/-- Where a tag names a stat, only the stat counts that the name stands for. -/
theorem mult?_name {name name' : Text} {stat : Stat} (h : Stat.ofText? name = some stat)
    (h' : Stat.ofText? name' = some stat) (parts : List Text) :
    mult? (α := α) (name :: parts) = mult? (name' :: parts) ∧
      mult? (α := α) ("stat_if_type" :: name :: parts) =
        mult? ("stat_if_type" :: name' :: parts) := by
  have hnone : ∀ s ∈ (["off_type", "in_type", "stat_if_type"] : List Text),
      Stat.ofText? s = none := by decide
  have hplain {s : Text} (hs : Stat.ofText? s = some stat) :
      s ≠ "off_type" ∧ s ≠ "in_type" ∧ s ≠ "stat_if_type" := by
    have : s ∉ (["off_type", "in_type", "stat_if_type"] : List Text) := by
      intro hmem
      rw [hnone s hmem] at hs
      cases hs
    simpa using this
  constructor
  · rcases parts with _ | ⟨_, _ | ⟨_, _ | ⟨_, _ | _⟩⟩⟩
    · rfl
    · simp only [mult?, multiplier?, h, h']
    · simp only [mult?, hplain h, hplain h', if_false]
    · simp only [mult?, hplain h, hplain h', if_false]
    · rfl
  · rcases parts with _ | ⟨_, _ | ⟨_, _ | _⟩⟩
    · have hno (payload : Text) : mult? (α := α) ["stat_if_type", payload] = none := by
        rw [mult?]
        cases factor? (α := α) payload <;> rfl
      rw [hno, hno]
    · rfl
    · simp only [mult?, h, h']
    · rfl

/-- Speed has a long name beside its short one, with or without a condition on the holder's type. -/
theorem parse_speed (rest : Text) :
    parse (α := α) ("mult:speed:" ++ rest) = parse ("mult:spe:" ++ rest) ∧
      parse (α := α) ("mult:stat_if_type:speed:" ++ rest) =
        parse ("mult:stat_if_type:spe:" ++ rest) := by
  have hlong : Stat.ofText? "speed" = some .speed := by decide
  have hshort : Stat.ofText? "spe" = some .speed := by decide
  constructor
  · have h := parse_mult (α := α) "speed" rest (by decide)
    have h' := parse_mult (α := α) "spe" rest (by decide)
    exact h.trans (((mult?_name hlong hshort _).1).trans h'.symm)
  · have h := parse_mult (α := α) "stat_if_type" ("speed" ++ ":" ++ rest) (by decide)
    have h' := parse_mult (α := α) "stat_if_type" ("spe" ++ ":" ++ rest) (by decide)
    rw [split_trimEnd _ (by decide)] at h h'
    exact h.trans (((mult?_name hlong hshort _).2).trans h'.symm)

end Tag

/-- Tags resolved one after the other give the bundle that is gathered from them field by field. -/
theorem Bundle.resolve_eq_gathered {α : Type} [Numeral α] (tags holder : List Text) :
    (resolve tags holder : Bundle α) = gathered tags holder ∧
      ∀ rest : Text, Tag.parse (α := α) ("mult:speed:" ++ rest) = Tag.parse ("mult:spe:" ++ rest) ∧
        Tag.parse (α := α) ("mult:stat_if_type:speed:" ++ rest) =
          Tag.parse ("mult:stat_if_type:spe:" ++ rest) := by
  refine ⟨?_, Tag.parse_speed⟩
  apply Bundle.ext
  · exact Stats.ext_get fun stat => by
      rw [gathered, Stats.get_ofFn]
      exact product_resolve tags holder (.stat stat)
  · exact product_resolve tags holder .physicalBulk
  · exact product_resolve tags holder .specialBulk
  · exact product_resolve tags holder .defense
  · exact product_resolve tags holder .offense
  · exact product_resolve tags holder .offenseByType
  · exact incomingFactors_resolve tags holder
  · exact incoming_resolve tags holder
  · exact flags_resolve tags holder
  · apply CritModifiers.ext
    · exact total_resolve tags holder .critChance
    · exact product_resolve tags holder .critDamage
    · exact total_resolve tags holder .critStage
    · exact applied_resolve tags holder
  · exact notes_resolve tags holder
  · exact ignored_resolve tags holder

end Roster
