import Roster.Proofs.Tag.Parts

/-!
# Tags of the other kind of damage

Physical and special damage have a stat each for attack and for defense, and a bulk each. Where a
tag multiplies one of these, the same tag with the other's name has the same effect on the other.
-/

namespace Roster

namespace Stat

/-- The stat of the other kind of damage. -/
def mirror : Stat → Stat
  | .attack => .specialAttack
  | .specialAttack => .attack
  | .defense => .specialDefense
  | .specialDefense => .defense
  | .hp => .hp
  | .speed => .speed

@[simp] theorem mirror_mirror (s : Stat) : s.mirror.mirror = s := by cases s <;> rfl

theorem mirror_eq_iff {s t : Stat} : s.mirror = t.mirror ↔ s = t :=
  ⟨fun h => by rw [← mirror_mirror s, h, mirror_mirror], congrArg mirror⟩

theorem ofText?_key (s : Stat) : ofText? s.key = some s := by cases s <;> decide

theorem colon_notMem_key (s : Stat) : CodePoint.char ':' ∉ (s.key : Text).toList := by
  cases s <;> decide

end Stat

/-- Stats with those of the two kinds of damage exchanged. -/
def Stats.mirror {β : Type} (s : Stats β) : Stats β := .ofFn fun stat => s.get stat.mirror

@[simp] theorem Stats.get_mirror {β : Type} (s : Stats β) (stat : Stat) :
    s.mirror.get stat = s.get stat.mirror := get_ofFn ..

@[simp] theorem Stats.mirror_mirror {β : Type} (s : Stats β) : s.mirror.mirror = s :=
  ext_get fun stat => by simp

/-- The effect on the stat or the bulk of the other kind of damage. -/
def Effect.mirror {α : Type} : Effect α → Effect α
  | .stat s factor => .stat s.mirror factor
  | .statIfType s type factor => .statIfType s.mirror type factor
  | .physicalBulk factor => .specialBulk factor
  | .specialBulk factor => .physicalBulk factor
  | e => e

namespace Tag

/-- The name of the stat of the other kind of damage. -/
def mirrorStat (name : Text) : Text :=
  match Stat.ofText? name with
  | none => name
  | some stat => if stat.mirror = stat then name else stat.mirror.key

/-- The name of the stat or the bulk of the other kind of damage. -/
def mirrorTarget (target : Text) : Text :=
  if target = "defeff" then "spdeff"
  else if target = "spdeff" then "defeff"
  else mirrorStat target

/-- The parts of a tag that multiplies a stat or a bulk, with the name of the other one. -/
def mirrorParts? : List Text → Option (List Text)
  | [keyword, target, payload] =>
    if keyword = "mult" then some [keyword, mirrorTarget target, payload] else none
  | [keyword, target, stat, type, payload] =>
    if keyword = "mult" ∧ target = "stat_if_type" then
      some [keyword, target, mirrorStat stat, type, payload]
    else none
  | _ => none

/-- A tag with the names of stats and bulks of the two kinds of damage exchanged; all else in it
stays as it is written. -/
def mirror (tag : Text) : Text :=
  match mirrorParts? (Text.split ':' (Text.trim tag)) with
  | none => tag
  | some parts => joined parts

example : mirror " mult: ATK :1.50 " = "mult:spa:1.50" := by decide +kernel

theorem ofText?_mirrorStat (name : Text) :
    Stat.ofText? (mirrorStat name) = (Stat.ofText? name).map Stat.mirror := by
  unfold mirrorStat
  cases h : Stat.ofText? name with
  | none => exact h
  | some stat =>
    dsimp only
    split
    · rename_i hsame
      rw [h, Option.map_some, hsame]
    · exact Stat.ofText?_key stat.mirror

theorem colon_notMem_mirrorStat {name : Text} (h : .char ':' ∉ name.toList) :
    .char ':' ∉ (mirrorStat name).toList := by
  unfold mirrorStat
  split
  · exact h
  · split
    · exact h
    · exact Stat.colon_notMem_key _

theorem colon_notMem_mirrorTarget {target : Text} (h : .char ':' ∉ target.toList) :
    .char ':' ∉ (mirrorTarget target).toList := by
  unfold mirrorTarget
  split_ifs
  · decide
  · decide
  · exact colon_notMem_mirrorStat h

variable {α : Type}

theorem multiplier?_mirrorTarget (target : Text) (factor : α) :
    multiplier? (mirrorTarget target) factor = (multiplier? target factor).map Effect.mirror := by
  by_cases hphysical : target = "defeff"
  · subst hphysical
    rfl
  by_cases hspecial : target = "spdeff"
  · subst hspecial
    rfl
  rw [mirrorTarget, if_neg hphysical, if_neg hspecial]
  unfold multiplier?
  rw [ofText?_mirrorStat]
  cases hstat : Stat.ofText? target with
  | none =>
    have hsame : mirrorStat target = target := by rw [mirrorStat, hstat]
    simp only [Option.map_none, hsame, hphysical, hspecial, if_false]
    split_ifs <;> rfl
  | some stat => rfl

variable [Numeral α]

/-- The effects that no name of a stat or a bulk leads to are the same for both kinds of damage. -/
theorem mirror_of_parse {tag : Text} {e : Effect α}
    (h : mirrorParts? (Text.split ':' (Text.trim tag)) = none) (he : parse tag = some e) :
    e.mirror = e := by
  have hreads := reads_of_parse he
  generalize Text.split ':' (Text.trim tag) = parts at h hreads
  cases hreads with
  | stat | physicalBulk | specialBulk | defense | offense | statIfType =>
    simp [mirrorParts?] at h
  | _ => rfl

/-- The tag of the other kind of damage has the effect of the other kind of damage. -/
theorem parse_mirror (tag : Text) :
    parse (α := α) (mirror tag) = (parse tag).map Effect.mirror := by
  unfold mirror
  cases h : mirrorParts? (Text.split ':' (Text.trim tag)) with
  | none =>
    dsimp only
    cases he : parse (α := α) tag with
    | none => rfl
    | some e => exact congrArg some (mirror_of_parse h he).symm
  | some parts' =>
    dsimp only
    generalize hparts : Text.split ':' (Text.trim tag) = parts at h
    have hcolon := colon_notMem_of_split hparts
    unfold mirrorParts? at h
    split at h
    · rename_i keyword target payload
      simp only [List.forall_mem_cons] at hcolon
      obtain ⟨-, htarget, hpayload, -⟩ := hcolon
      obtain ⟨rfl, h⟩ := Option.ite_none_right_eq_some.1 h
      obtain rfl := Option.some.inj h
      have hjoined := parse_joined_mult (α := α) [mirrorTarget target] payload
        (by simp [colon_notMem_mirrorTarget htarget, hpayload])
      refine hjoined.trans ?_
      rw [parse_of_split hparts, List.singleton_append, mult?, mult?]
      cases factor? (α := α) payload with
      | none => rfl
      | some factor => exact multiplier?_mirrorTarget target factor
    · rename_i keyword target stat type payload
      simp only [List.forall_mem_cons] at hcolon
      obtain ⟨-, htarget, hstat, htype, hpayload, -⟩ := hcolon
      obtain ⟨⟨rfl, rfl⟩, h⟩ := Option.ite_none_right_eq_some.1 h
      obtain rfl := Option.some.inj h
      have hjoined := parse_joined_mult (α := α) ["stat_if_type", mirrorStat stat, type]
        payload (by simp [colon_notMem_mirrorStat hstat, htype, hpayload])
      refine hjoined.trans ?_
      rw [parse_of_split hparts, List.cons_append, List.cons_append, List.singleton_append, mult?,
        mult?, if_pos rfl, if_pos rfl, ofText?_mirrorStat]
      cases Stat.ofText? stat with
      | none => rfl
      | some s =>
        cases typeName? type with
        | none => rfl
        | some name => cases factor? (α := α) payload <;> rfl
    · cases h

end Tag

/-! ### Slots -/

/-- The slot of the other kind of damage. -/
def Slot.mirror : Slot → Slot
  | .stat s => .stat s.mirror
  | .physicalBulk => .specialBulk
  | .specialBulk => .physicalBulk
  | slot => slot

theorem Slot.factor?_mirror {α : Type} (holder : List Text) (slot : Slot) (e : Effect α) :
    slot.mirror.factor? holder e.mirror = slot.factor? holder e := by
  cases e with
  | stat s factor =>
    cases slot with
    | stat s' => simp only [mirror, Effect.mirror, factor?, Stat.mirror_eq_iff]
    | _ => rfl
  | statIfType s type factor =>
    cases slot with
    | stat s' => simp only [mirror, Effect.mirror, factor?, Stat.mirror_eq_iff]
    | _ => rfl
  | crit kind value => cases slot <;> cases kind <;> rfl
  | incoming i => cases slot <;> cases i <;> rfl
  | _ => cases slot <;> rfl

end Roster
