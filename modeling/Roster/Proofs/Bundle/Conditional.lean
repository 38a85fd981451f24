import Roster.Proofs.Bundle.Sides
import Roster.Proofs.Tag.Bounds

/-!
# Conditional tags

A tag can multiply a stat, or the attack as a whole, for holders of a type alone. Its factor goes
into one slot, and that only for them; for others it might as well be missing.
-/

namespace Roster

/-- A tag as it is written that multiplies a slot for holders of a type alone. -/
inductive Tag.Conditional {α : Type} [Numeral α] (tag : Text) : Slot → Text → α → Prop
  | offenseIfType {type payload : Text} {f : α} :
      Text.split ':' (Text.trim tag) = (["mult", "off_type", type, payload] : List Text) →
      TypeName.normal type ≠ "" → Tag.factor? payload = some f →
      Conditional tag .offenseByType type f
  | statIfType {key type payload : Text} {stat : Stat} {f : α} :
      Text.split ':' (Text.trim tag) = (["mult", "stat_if_type", key, type, payload] : List Text) →
      Stat.ofText? key = some stat → TypeName.normal type ≠ "" → Tag.factor? payload = some f →
      Conditional tag (.stat stat) type f

/-- The slot, the type and the factor of an effect that is for holders of a type alone. -/
def Effect.condition? {α : Type} : Effect α → Option (Slot × Text × α)
  | .statIfType s type f => some (.stat s, type, f)
  | .offenseIfType type f => some (.offenseByType, type, f)
  | _ => none

namespace Tag

variable {α : Type} [Numeral α] {tag type : Text} {slot : Slot} {f : α}

/-- A conditional tag has a conditional effect. -/
theorem Conditional.parse (h : Conditional tag slot type f) :
    ∃ e, parse tag = some e ∧ e.condition? = some (slot, TypeName.normal type, f) := by
  cases h with
  | @offenseIfType _ payload _ hparts htype hf =>
    refine ⟨.offenseIfType (TypeName.normal type) f, ?_, rfl⟩
    rw [parse_of_split hparts, mult?, if_pos rfl, typeName?_eq_some_iff.2 ⟨htype, rfl⟩, hf]
    rfl
  | @statIfType key _ payload stat _ hparts hstat htype hf =>
    refine ⟨.statIfType stat (TypeName.normal type) f, ?_, rfl⟩
    rw [parse_of_split hparts, mult?, if_pos rfl, hstat, typeName?_eq_some_iff.2 ⟨htype, rfl⟩, hf]
    rfl

theorem Conditional.normal_ne (h : Conditional tag slot type f) :
    TypeName.normal type ≠ "" := by
  cases h <;> assumption

/-- A tag whose effect has a condition is one of these. -/
theorem exists_conditional_of_parse {e : Effect α} (he : parse tag = some e)
    {name : Text} (h : e.condition? = some (slot, name, f)) :
    ∃ type, TypeName.normal type = name ∧ Conditional tag slot type f := by
  have hreads := reads_of_parse he
  generalize hparts : Text.split ':' (Text.trim tag) = parts at hreads
  cases hreads with
  | offenseIfType hname hf =>
    cases h
    obtain ⟨hne, rfl⟩ := typeName?_eq_some_iff.1 hname
    exact ⟨_, rfl, .offenseIfType hparts hne hf⟩
  | statIfType hstat hname hf =>
    cases h
    obtain ⟨hne, rfl⟩ := typeName?_eq_some_iff.1 hname
    exact ⟨_, rfl, .statIfType hparts hstat hne hf⟩
  | _ => cases h

/-- The factor of a conditional tag is one of its slot exactly for holders of the type. -/
theorem Conditional.ofTag? (h : Conditional tag slot type f) (holder : List Text) :
    slot.ofTag? holder tag =
      if TypeName.normal type ∈ TypeName.normals holder then some f else none := by
  obtain ⟨e, he, hcondition⟩ := h.parse
  rw [Slot.ofTag?, he, Option.bind_some]
  cases e with
  | statIfType stat type' f' =>
    cases hcondition
    simp only [Slot.factor?, true_and]
  | offenseIfType type' f' =>
    cases hcondition
    rfl
  | _ => cases hcondition

/-- For others it acts on no side. -/
theorem Conditional.not_actsOn (h : Conditional tag slot type f) {holder : List Text}
    (htype : TypeName.normal type ∉ holder) (roster : List Text) (side : Side) :
    ¬ ActsOn α holder roster side tag := by
  obtain ⟨e, he, hcondition⟩ := h.parse
  rintro ⟨e', he', -, hidle⟩
  obtain rfl := Option.some.inj (he.symm.trans he')
  refine hidle ?_
  cases e with
  | statIfType stat type' f' =>
    cases hcondition
    exact htype
  | offenseIfType type' f' =>
    cases hcondition
    exact htype
  | _ => cases hcondition

end Tag

namespace Bundle

variable {α : Type} [Numeral α] {holder holder' : List Text}

omit [Numeral α] in
theorem add_eq_of_mem_iff [Scalar α] (h : ∀ type, type ∈ holder ↔ type ∈ holder') (b : Bundle α)
    (e : Effect α) : b.add holder e = b.add holder' e := by
  cases e with
  | statIfType s type factor => simp only [add, h]
  | offenseIfType type factor => simp only [add, h]
  | _ => rfl

/-- Conditions see which types the holder has, and nothing else of their names. -/
theorem resolve_eq_of_mem_iff
    (h : ∀ type, type ∈ TypeName.normals holder ↔ type ∈ TypeName.normals holder')
    (tags : List Text) : resolve (α := α) tags holder = resolve tags holder' := by
  have hadd : addTag (α := α) (TypeName.normals holder) = addTag (TypeName.normals holder') := by
    funext b tag
    unfold addTag
    split
    · rfl
    · exact add_eq_of_mem_iff h b _
  rw [resolve, resolve, hadd]

end Bundle

end Roster
