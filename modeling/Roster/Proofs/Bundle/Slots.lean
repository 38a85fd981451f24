import Mathlib.Data.List.Induction
import Mathlib.Data.List.Nodup
import Roster.Bundle

/-!
# Bundles by their slots

A bundle gathers factors and terms in slots, each of them from the tags that are meant for it, in
the order of the tags. What the slots hold, and which flags and types are there, is all that scores
need of a bundle.
-/

namespace Roster

/-- Where a bundle gathers factors. -/
inductive Slot where
  | stat (stat : Stat)
  | physicalBulk
  | specialBulk
  | defense
  | offense
  | offenseByType
  | incoming (type : Text)
  | critDamage

/-- Where a bundle gathers terms. -/
inductive Tally where
  | critChance
  | critStage

namespace Effect

variable {α : Type}

/-- The type that an incoming factor is for. -/
def factorType? : Effect α → Option Text
  | .incoming (.factor type _) => some type
  | _ => none

/-- The flag that an effect sets. -/
def flag? : Effect α → Option Flag
  | .flag f => some f
  | _ => none

/-- What an effect notes. -/
def note? : Effect α → Option Note
  | .note n => some n
  | _ => none

/-- Whether an effect is one of crit tags. -/
def isCrit : Effect α → Bool
  | .crit .. => true
  | _ => false

end Effect

namespace Slot

variable {α : Type}

/-- The factor of an effect that is meant for a slot. `holder` are the normal forms of the holder's
type names. -/
def factor? (holder : List Text) : Slot → Effect α → Option α
  | .stat s, .stat s' f => if s' = s then some f else none
  | .stat s, .statIfType s' type f => if s' = s ∧ type ∈ holder then some f else none
  | .physicalBulk, .physicalBulk f => some f
  | .specialBulk, .specialBulk f => some f
  | .defense, .defense f => some f
  | .offense, .offense f => some f
  | .offenseByType, .offenseIfType type f => if type ∈ holder then some f else none
  | .incoming type, .incoming (.factor type' f) => if type' = type then some f else none
  | .critDamage, .crit .damage f => some f
  | _, _ => none

/-- The factor of a tag that is meant for a slot. -/
def ofTag? [Numeral α] (holder : List Text) (slot : Slot) (tag : Text) : Option α :=
  (Tag.parse tag).bind (slot.factor? (TypeName.normals holder))

end Slot

namespace Tally

variable {α : Type}

/-- The term of an effect that is meant for a tally. -/
def term? : Tally → Effect α → Option α
  | .critChance, .crit .chance x => some x
  | .critStage, .crit .stage x => some x
  | _, _ => none

/-- The term of a tag that is meant for a tally. -/
def ofTag? [Numeral α] (tally : Tally) (tag : Text) : Option α := (Tag.parse tag).bind tally.term?

end Tally

/-! ### First occurrences -/

section FirstOccurrences

variable {β : Type} [DecidableEq β]

theorem eraseDups_append_singleton (l : List β) (a : β) :
    (l ++ [a]).eraseDups = if a ∈ l then l.eraseDups else l.eraseDups ++ [a] := by
  rw [List.eraseDups_append]
  by_cases h : a ∈ l <;> simp [List.removeAll, List.eraseDups_cons, h]

theorem nodup_eraseDups (l : List β) : l.eraseDups.Nodup := by
  induction l using List.reverseRecOn with
  | nil => exact List.nodup_nil
  | append_singleton l a ih =>
    rw [eraseDups_append_singleton]
    split
    · exact ih
    · rename_i h
      refine List.nodup_append.2 ⟨ih, List.nodup_singleton a, fun x hx y hy hxy => h ?_⟩
      rw [← List.mem_singleton.1 hy, ← hxy]
      exact List.mem_eraseDups.1 hx

/-- What is put last wherever it is not there yet comes to the first occurrences. -/
theorem foldl_putLast (l : List β) :
    l.foldl (fun acc a => if a ∈ acc then acc else acc ++ [a]) [] = l.eraseDups := by
  induction l using List.reverseRecOn with
  | nil => rfl
  | append_singleton l a ih =>
    rw [List.foldl_append, ih, eraseDups_append_singleton]
    simp only [List.foldl_cons, List.foldl_nil, List.mem_eraseDups]

end FirstOccurrences

namespace Bundle

variable {α : Type} [Scalar α]

/-- The product in a slot. -/
def product (b : Bundle α) : Slot → α
  | .stat stat => b.stats.get stat
  | .physicalBulk => b.physicalBulk
  | .specialBulk => b.specialBulk
  | .defense => b.defense
  | .offense => b.offense
  | .offenseByType => b.offenseByType
  | .incoming type => b.factorOf type
  | .critDamage => b.crit.damageFactor

/-- The sum in a tally. -/
def total (b : Bundle α) : Tally → α
  | .critChance => b.crit.chanceBonus
  | .critStage => b.crit.stageBonus

section Add

variable (b : Bundle α) (holder : List Text)

theorem product_scaleStat (stat : Stat) (factor : α) (slot : Slot) :
    (b.scaleStat stat factor).product slot =
      Scalar.productFrom (b.product slot) (slot.factor? holder (.stat stat factor)).toList := by
  cases slot with
  | stat s =>
    change (b.stats.set stat _).get s = _
    rw [Stats.get_set, Slot.factor?]
    by_cases h : s = stat
    · subst h
      rw [if_pos rfl, if_pos rfl]
      rfl
    · rw [if_neg h, if_neg (Ne.symm h)]
      rfl
  | _ => rfl

theorem product_addIncoming (i : Incoming α) (slot : Slot) :
    (b.addIncoming i).product slot =
      Scalar.productFrom (b.product slot) (slot.factor? holder (.incoming i)).toList := by
  cases i with
  | relation r t => cases slot <;> rfl
  | factor type factor =>
    cases slot with
    | incoming t =>
      change (Keyed.get? t (Keyed.put type _ b.incomingFactors)).getD 1 = _
      rw [Keyed.get?_put, Slot.factor?]
      by_cases h : type = t
      · subst h
        rw [if_pos rfl, if_pos rfl]
        rfl
      · rw [if_neg h, if_neg h]
        rfl
    | _ => rfl

/-- An effect changes no other slots than those that it is meant for. -/
theorem product_add (e : Effect α) (slot : Slot) :
    (b.add holder e).product slot =
      Scalar.productFrom (b.product slot) (slot.factor? holder e).toList := by
  cases e with
  | stat stat factor => exact b.product_scaleStat holder stat factor slot
  | statIfType stat type factor =>
    by_cases h : type ∈ holder
    · have hs : slot.factor? holder (.statIfType stat type factor) =
          slot.factor? holder (.stat stat factor) := by
        cases slot <;> simp [Slot.factor?, h]
      rw [hs, ← b.product_scaleStat holder stat factor slot, add, if_pos h]
    · have hs : slot.factor? holder (.statIfType stat type factor) = none := by
        cases slot <;> simp [Slot.factor?, h]
      rw [hs, add, if_neg h]
      rfl
  | offenseIfType type factor =>
    by_cases h : type ∈ holder
    · rw [add, if_pos h]
      cases slot with
      | offenseByType =>
        rw [Slot.factor?, if_pos h]
        rfl
      | _ => rfl
    · have hs : slot.factor? holder (.offenseIfType type factor) = none := by
        cases slot <;> simp [Slot.factor?, h]
      rw [hs, add, if_neg h]
      rfl
  | incoming i => exact b.product_addIncoming holder i slot
  | flag flag =>
    rw [add, addFlag]
    cases slot <;> split <;> rfl
  | crit kind value => cases slot <;> cases kind <;> rfl
  | _ => cases slot <;> rfl

theorem total_add (e : Effect α) (tally : Tally) :
    (b.add holder e).total tally =
      (tally.term? e).toList.foldl (fun acc x => Scalar.saturate (acc + x)) (b.total tally) := by
  cases e with
  | statIfType stat type factor =>
    rw [add]
    cases tally <;> split <;> rfl
  | offenseIfType type factor =>
    rw [add]
    cases tally <;> split <;> rfl
  | incoming i => cases i <;> cases tally <;> rfl
  | flag flag =>
    rw [add, addFlag]
    cases tally <;> split <;> rfl
  | crit kind value => cases tally <;> cases kind <;> rfl
  | _ => cases tally <;> rfl

/-- What a bundle records of one more effect, its slots and tallies apart. -/
structure Records (e : Effect α) (b b' : Bundle α) : Prop where
  incoming : b'.incoming = b.incoming ++ e.incoming?.toList
  factorTypes : Keyed.keys b'.incomingFactors =
    e.factorType?.toList.foldl (fun acc t => if t ∈ acc then acc else acc ++ [t])
      (Keyed.keys b.incomingFactors)
  flags : b'.flags =
    e.flag?.toList.foldl (fun acc f => if f ∈ acc then acc else acc ++ [f]) b.flags
  notes : b'.notes = b.notes ++ e.note?.toList
  applied : b'.crit.applied = (b.crit.applied || e.isCrit)
  ignored : b'.ignored = b.ignored

omit [Scalar α] in
/-- Of an effect that only multiplies nothing else is recorded. -/
theorem records_of_same {e : Effect α} {b b' : Bundle α} (hi : e.incoming? = none)
    (ht : e.factorType? = none) (hf : e.flag? = none) (hn : e.note? = none) (hc : e.isCrit = false)
    (h : (b'.incoming, b'.incomingFactors, b'.flags, b'.notes, b'.crit, b'.ignored) =
      (b.incoming, b.incomingFactors, b.flags, b.notes, b.crit, b.ignored)) : Records e b b' := by
  simp only [Prod.mk.injEq] at h
  obtain ⟨h₁, h₂, h₃, h₄, h₅, h₆⟩ := h
  constructor <;> simp [*]

theorem records_add (e : Effect α) : Records e b (b.add holder e) := by
  cases e with
  | stat stat factor => exact records_of_same rfl rfl rfl rfl rfl rfl
  | statIfType stat type factor =>
    rw [add]
    split <;> exact records_of_same rfl rfl rfl rfl rfl rfl
  | physicalBulk factor => exact records_of_same rfl rfl rfl rfl rfl rfl
  | specialBulk factor => exact records_of_same rfl rfl rfl rfl rfl rfl
  | defense factor => exact records_of_same rfl rfl rfl rfl rfl rfl
  | offense factor => exact records_of_same rfl rfl rfl rfl rfl rfl
  | offenseIfType type factor =>
    rw [add]
    split <;> exact records_of_same rfl rfl rfl rfl rfl rfl
  | incoming i =>
    cases i with
    | relation r t =>
      exact ⟨rfl, rfl, rfl, (List.append_nil _).symm, (Bool.or_false _).symm, rfl⟩
    | factor type factor =>
      exact ⟨rfl, Keyed.keys_put .., rfl, (List.append_nil _).symm, (Bool.or_false _).symm, rfl⟩
  | flag flag =>
    rw [add, addFlag]
    by_cases h : flag ∈ b.flags
    · rw [if_pos h]
      exact ⟨(List.append_nil _).symm, rfl, by simp [Effect.flag?, h], (List.append_nil _).symm,
        (Bool.or_false _).symm, rfl⟩
    · rw [if_neg h]
      exact ⟨(List.append_nil _).symm, rfl, by simp [Effect.flag?, h], (List.append_nil _).symm,
        (Bool.or_false _).symm, rfl⟩
  | crit kind value =>
    cases kind <;>
      exact ⟨(List.append_nil _).symm, rfl, rfl, (List.append_nil _).symm, (Bool.or_true _).symm,
        rfl⟩
  | note note => exact ⟨(List.append_nil _).symm, rfl, rfl, rfl, (Bool.or_false _).symm, rfl⟩

end Add

/-! ### Resolved tags -/

/-- The types that tags name with an incoming factor, in the order in which they come up. -/
def factorTypes (α : Type) [Numeral α] (tags : List Text) : List Text :=
  ((Tag.effects (α := α) tags).filterMap Effect.factorType?).eraseDups

section Resolve

variable {α : Type} [Numeral α] (tags holder : List Text)

/-- What is read off a bundle, tags without an effect apart, changes effect by effect. -/
theorem read_resolve {γ : Type} (read : Bundle α → γ) (step : γ → Effect α → γ)
    (hadd : ∀ b e, read (b.add (TypeName.normals holder) e) = step (read b) e)
    (hskip : ∀ b ignored, read { b with ignored } = read b) :
    read (resolve tags holder) = (Tag.effects tags).foldl step (read identity) := by
  have hfold : ∀ b : Bundle α, read (tags.foldl (addTag (TypeName.normals holder)) b) =
      (Tag.effects tags).foldl step (read b) := by
    unfold Tag.effects
    induction tags with
    | nil => exact fun b => rfl
    | cons tag tags ih =>
      intro b
      rw [List.foldl_cons, ih, addTag]
      cases ht : Tag.parse (α := α) tag with
      | none => rw [List.filterMap_cons_none ht, hskip]
      | some e => rw [List.filterMap_cons_some ht, List.foldl_cons, hadd]
  exact hfold identity

/-- What is gathered from the effects one after the other. -/
theorem gather_resolve {γ δ : Type} (read : Bundle α → δ) (part? : Effect α → Option γ)
    (op : δ → γ → δ)
    (hadd : ∀ b e, read (b.add (TypeName.normals holder) e) = (part? e).toList.foldl op (read b))
    (hskip : ∀ b ignored, read { b with ignored } = read b) :
    read (resolve tags holder) =
      (tags.filterMap fun tag => (Tag.parse tag).bind part?).foldl op (read identity) := by
  rw [read_resolve tags holder read (fun acc e => (part? e).toList.foldl op acc) hadd hskip,
    ← List.filterMap_filterMap, List.foldl_filterMap]
  refine congrArg (fun step => (Tag.effects tags).foldl step (read identity)) ?_
  funext acc e
  cases part? e <;> rfl

theorem product_resolve (slot : Slot) :
    (resolve tags holder : Bundle α).product slot =
      Scalar.productFrom 1 (tags.filterMap (slot.ofTag? holder)) := by
  have hone : (identity : Bundle α).product slot = 1 := by
    cases slot with
    | stat s => exact Stats.get_const 1 s
    | _ => rfl
  rw [← hone]
  refine gather_resolve tags holder (·.product slot) (slot.factor? (TypeName.normals holder)) _
    (fun b e => b.product_add (TypeName.normals holder) e slot) fun b l => ?_
  cases slot <;> rfl

theorem total_resolve (tally : Tally) :
    (resolve tags holder : Bundle α).total tally = Scalar.sum (tags.filterMap tally.ofTag?) := by
  have hzero : (identity : Bundle α).total tally = 0 := by
    cases tally <;> rfl
  rw [Scalar.sum, ← hzero]
  refine gather_resolve tags holder (·.total tally) tally.term? _
    (fun b e => b.total_add (TypeName.normals holder) e tally) fun b l => ?_
  cases tally <;> rfl

/-- What is noted of the effects one after the other. -/
theorem list_resolve {γ : Type} (read : Bundle α → List γ) (part? : Effect α → Option γ)
    (hadd : ∀ b e, read (b.add (TypeName.normals holder) e) = read b ++ (part? e).toList)
    (hskip : ∀ b ignored, read { b with ignored } = read b) (hnil : read identity = []) :
    read (resolve tags holder) = (Tag.effects tags).filterMap part? := by
  have hfold : ∀ l start : List γ, l.foldl (fun acc x => acc ++ [x]) start = start ++ l := by
    intro l
    induction l with
    | nil => simp
    | cons x l ih => simp [ih]
  rw [gather_resolve tags holder read part? (fun acc x => acc ++ [x]) (fun b e => ?_) hskip, hfold,
    hnil, ← List.filterMap_filterMap]
  · rfl
  · rw [hfold]
    exact hadd b e

theorem incoming_resolve :
    (resolve tags holder : Bundle α).incoming = Tag.incoming tags :=
  list_resolve tags holder (·.incoming) Effect.incoming? (fun b e => (b.records_add _ e).incoming)
    (fun _ _ => rfl) rfl

/-- On attacks of a type a bundle has the multiplier of its tags. -/
theorem incomingMultiplier_resolve (type : Text) (chart : α) (withFactors : Bool) :
    (resolve tags holder : Bundle α).incomingMultiplier type chart withFactors =
      Tag.multiplier tags type chart withFactors := by
  rw [incomingMultiplier, incoming_resolve]
  rfl

theorem flags_resolve :
    (resolve tags holder : Bundle α).flags =
      ((Tag.effects (α := α) tags).filterMap Effect.flag?).eraseDups := by
  rw [gather_resolve tags holder (·.flags) Effect.flag? _ (fun b e => (b.records_add _ e).flags)
    (fun b l => rfl), ← List.filterMap_filterMap]
  exact foldl_putLast _

theorem mem_flags_resolve (flag : Flag) :
    flag ∈ (resolve tags holder : Bundle α).flags ↔ .flag flag ∈ Tag.effects (α := α) tags := by
  rw [flags_resolve, List.mem_eraseDups, List.mem_filterMap]
  constructor
  · rintro ⟨e, he, hf⟩
    cases e with
    | flag f =>
      cases hf
      exact he
    | _ => cases hf
  · exact fun h => ⟨_, h, rfl⟩

theorem keys_resolve :
    Keyed.keys (resolve tags holder : Bundle α).incomingFactors = factorTypes α tags := by
  rw [gather_resolve tags holder (Keyed.keys ·.incomingFactors) Effect.factorType? _
    (fun b e => (b.records_add _ e).factorTypes) (fun b l => rfl), ← List.filterMap_filterMap]
  exact foldl_putLast _

theorem mem_keys_resolve (type : Text) :
    type ∈ Keyed.keys (resolve tags holder : Bundle α).incomingFactors ↔
      ∃ factor, .incoming (.factor type factor) ∈ Tag.effects (α := α) tags := by
  rw [keys_resolve, factorTypes, List.mem_eraseDups, List.mem_filterMap]
  constructor
  · rintro ⟨e, he, ht⟩
    cases e with
    | incoming i =>
      cases i with
      | relation r t => cases ht
      | factor t factor =>
        cases ht
        exact ⟨factor, he⟩
    | _ => cases ht
  · exact fun ⟨factor, h⟩ => ⟨_, h, rfl⟩

theorem applied_resolve :
    (resolve tags holder : Bundle α).crit.applied =
      (Tag.effects (α := α) tags).any Effect.isCrit := by
  have hfold : ∀ (effects : List (Effect α)) (start : Bool),
      effects.foldl (fun acc e => acc || e.isCrit) start =
        (start || effects.any Effect.isCrit) := by
    intro effects
    induction effects with
    | nil => simp
    | cons e effects ih => simp [ih, Bool.or_assoc]
  rw [read_resolve tags holder (·.crit.applied) (fun acc e => acc || e.isCrit)
    (fun b e => (b.records_add _ e).applied) (fun b l => rfl), hfold]
  rfl

end Resolve

end Bundle

end Roster
