import Roster.Proofs.Tag.Parts
import Roster.Proofs.Text.Colon

/-!
# Names spelled in other ways

Names of types and stats count by their normal form. A tag with such a name in another spelling has
the same effect: the spelling holds a colon only if the name does, so that the parts of the tag stay
its parts.
-/

namespace Roster

namespace Tag

open Text

/-- Parts of a tag, and the same ones with the names of stats and types in them spelled in other
ways, with the same normal forms. -/
inductive RespelledParts : List Text → List Text → Prop
  | same (parts : List Text) : RespelledParts parts parts
  | relation (r : Relation) {type type' : Text} :
    TypeName.normal type = TypeName.normal type' →
    RespelledParts [r.keyword, type] [r.keyword, type']
  | stat {name name' payload : Text} :
    (Stat.ofText? name).isSome → TypeName.normal name = TypeName.normal name' →
    RespelledParts ["mult", name, payload] ["mult", name', payload]
  | offenseIfType {type type' payload : Text} :
    TypeName.normal type = TypeName.normal type' →
    RespelledParts ["mult", "off_type", type, payload] ["mult", "off_type", type', payload]
  | incomingFactor {type type' payload : Text} :
    TypeName.normal type = TypeName.normal type' →
    RespelledParts ["mult", "in_type", type, payload] ["mult", "in_type", type', payload]
  | statIfType {stat stat' type type' payload : Text} :
    TypeName.normal stat = TypeName.normal stat' → TypeName.normal type = TypeName.normal type' →
    RespelledParts ["mult", "stat_if_type", stat, type, payload]
      ["mult", "stat_if_type", stat', type', payload]

/-- A tag, and one with the names of stats and types in it spelled in other ways, whatever blanks
stand around either of them. -/
def Respelled (tag tag' : Text) : Prop :=
  ∃ parts, RespelledParts (split ':' (trim tag)) parts ∧ trim tag' = trim (joined parts)

/-! ### Effects -/

theorem colon_notMem_of_normal_eq {name name' : Text}
    (h : TypeName.normal name = TypeName.normal name') (hname : .char ':' ∉ name.toList) :
    .char ':' ∉ name'.toList := by
  rwa [← TypeName.colon_mem_normal_iff, ← h, TypeName.colon_mem_normal_iff]

theorem typeName?_eq_of_normal_eq {name name' : Text}
    (h : TypeName.normal name = TypeName.normal name') : typeName? name = typeName? name' := by
  rw [typeName?, typeName?, h]

theorem ofText?_eq_of_normal_eq {name name' : Text}
    (h : TypeName.normal name = TypeName.normal name') :
    Stat.ofText? name = Stat.ofText? name' := by
  have h : lower (trim name) = lower (trim name') := h
  rw [Stat.ofText?, Stat.ofText?, h]

theorem trim_joined_split (tag : Text) : trim (joined (split ':' (trim tag))) = trim tag := by
  have hjoined : joined (split ':' (trim tag)) = trim tag := by
    refine ext_toList ?_
    rw [joined, split, List.map_map]
    exact (congrArg _ (List.map_id' _)).trans (joinWith_splitAt _ _)
  rw [hjoined, trim_trim]

variable {α : Type} [Numeral α]

theorem split_trim_relation (r : Relation) {type : Text} (h : .char ':' ∉ type.toList) :
    split ':' (trim (joined [r.keyword, type])) = [(r.keyword : Text), trimEnd type] := by
  have hkeyword : .char ':' ∉ (r.keyword : Text).toList := by cases r <;> decide
  have hparts : ∀ part ∈ [(r.keyword : Text), type], .char ':' ∉ part.toList :=
    List.forall_mem_cons.2 ⟨hkeyword, List.forall_mem_singleton.2 h⟩
  cases r with
  | immune => exact split_trim_joined rfl (by decide) [] type hparts
  | resist => exact split_trim_joined rfl (by decide) [] type hparts
  | weak => exact split_trim_joined rfl (by decide) [] type hparts

/-- A tag with names spelled in other ways has the effect that it had. -/
theorem Respelled.parse_eq {tag tag' : Text} (h : Respelled tag tag') :
    parse (α := α) tag = parse tag' := by
  obtain ⟨parts', hparts', htag'⟩ := h
  generalize hparts : split ':' (trim tag) = parts at hparts'
  have hcolon := colon_notMem_of_split hparts
  have htag' : parse (α := α) tag' = parse (joined parts') := by rw [parse, parse, htag']
  rw [htag']
  cases hparts' with
  | same =>
    rw [← hparts, parse, parse, trim_joined_split]
  | @relation r type type' htype =>
    have hcolon' := colon_notMem_of_normal_eq htype (hcolon type (by simp))
    rw [parse, parse, hparts, split_trim_relation r hcolon', ofParts?_relation, ofParts?_relation,
      typeName?_eq_of_normal_eq (htype.trans (normal_trimEnd type').symm)]
  | @stat name name' payload hstat hname =>
    obtain ⟨s, hs⟩ := Option.isSome_iff_exists.1 hstat
    have hs' : Stat.ofText? name' = some s := ofText?_eq_of_normal_eq hname ▸ hs
    have hcolon' := colon_notMem_of_normal_eq hname (hcolon name (by simp))
    have hjoined := parse_joined_mult (α := α) [name'] payload
      (by simp [hcolon', hcolon payload])
    rw [parse_of_split hparts]
    exact ((mult?_name hs hs' [payload]).1).trans hjoined.symm
  | @offenseIfType type type' payload htype =>
    have hcolon' := colon_notMem_of_normal_eq htype (hcolon type (by simp))
    have hjoined := parse_joined_mult (α := α) ["off_type", type'] payload
      (by simp [hcolon', hcolon payload])
    refine Eq.trans ?_ hjoined.symm
    rw [parse_of_split hparts, List.cons_append, List.singleton_append, mult?, mult?,
      typeName?_eq_of_normal_eq htype]
  | @incomingFactor type type' payload htype =>
    have hcolon' := colon_notMem_of_normal_eq htype (hcolon type (by simp))
    have hjoined := parse_joined_mult (α := α) ["in_type", type'] payload
      (by simp [hcolon', hcolon payload])
    refine Eq.trans ?_ hjoined.symm
    rw [parse_of_split hparts, List.cons_append, List.singleton_append, mult?, mult?,
      typeName?_eq_of_normal_eq htype]
  | @statIfType stat stat' type type' payload hstat htype =>
    have hcolonStat := colon_notMem_of_normal_eq hstat (hcolon stat (by simp))
    have hcolonType := colon_notMem_of_normal_eq htype (hcolon type (by simp))
    have hjoined := parse_joined_mult (α := α) ["stat_if_type", stat', type'] payload
      (by simp [hcolonStat, hcolonType, hcolon payload])
    refine Eq.trans ?_ hjoined.symm
    rw [parse_of_split hparts, List.cons_append, List.cons_append, List.singleton_append, mult?,
      mult?, ofText?_eq_of_normal_eq hstat, typeName?_eq_of_normal_eq htype]

end Tag

end Roster
