import Roster.Coverage
import Roster.Proofs.Analysis.OwnTypes
import Roster.Proofs.Bundle.Raised
import Roster.Proofs.Tag.Respelled

/-!
# Names spelled in other ways

How the names of types and stats are spelled, in the roster or in tags, makes no difference to the
scores of a creature or to the coverage of a team, as long as their normal forms are the same.
-/

namespace Roster

/-- A type, and one of the same id whose name is the same but for its spelling. -/
structure TypeInfo.Respelled (t t' : TypeInfo) : Prop where
  id : t.id = t'.id
  name : TypeName.normal t.name = TypeName.normal t'.name

/-- A member of a team, and one that is the same but for the spelling of names in its tags. -/
structure TeamMember.Respelled (m m' : TeamMember) : Prop where
  type1 : m.type1 = m'.type1
  type2 : m.type2 = m'.type2
  tags : List.Forall₂ Tag.Respelled m.tags m'.tags

/-- Rows of matrices that hold the same for every slot. -/
def MatrixRow.SameCells {α : Type} (row row' : MatrixRow α) : Prop :=
  row.multipliers = row'.multipliers ∧ row.weak = row'.weak ∧ row.resist = row'.resist

/-- Rows of summaries that count the same. -/
def CoverageRow.SameCounts (row row' : CoverageRow) : Prop :=
  row.weak = row'.weak ∧ row.resist = row'.resist ∧ row.immune = row'.immune

/-! ### Tags -/

section Tags

variable {α : Type} [Numeral α] {tags tags' : List Text}

theorem effects_eq_of_respelled (h : List.Forall₂ Tag.Respelled tags tags') :
    Tag.effects (α := α) tags = Tag.effects tags' :=
  filterMap_eq_of_forall₂ h fun _ _ => Tag.Respelled.parse_eq

theorem multiplier_eq_of_effects_eq (h : Tag.effects (α := α) tags = Tag.effects tags')
    (type : Text) (chart : α) (withFactors : Bool) :
    Tag.multiplier tags type chart withFactors = Tag.multiplier tags' type chart withFactors := by
  rw [Tag.multiplier, Tag.multiplier, Tag.incoming, Tag.incoming, h]

/-- Tags of the same effects are resolved to bundles that agree. -/
theorem Bundle.agree_of_effects_eq (h : Tag.effects (α := α) tags = Tag.effects tags')
    (holder : List Text) : (resolve tags holder : Bundle α).Agree (resolve tags' holder) := by
  have hparts {γ : Type} (part? : Effect α → Option γ) :
      (tags.filterMap fun tag => (Tag.parse tag).bind part?) =
        tags'.filterMap fun tag => (Tag.parse tag).bind part? := by
    rw [← List.filterMap_filterMap, ← List.filterMap_filterMap]
    exact congrArg (List.filterMap part?) h
  refine agree_of_slots (fun slot => ?_) (fun tally => ?_) (fun type => ?_) (fun flag => ?_) ?_
  · rw [product_resolve, product_resolve]
    exact congrArg _ (hparts _)
  · rw [total_resolve, total_resolve]
    exact congrArg _ (hparts _)
  · rw [mem_keys_resolve, mem_keys_resolve, h]
  · rw [mem_flags_resolve, mem_flags_resolve, h]
  · rw [applied_resolve, applied_resolve, h]

end Tags

/-! ### The roster -/

section Roster

variable {types types' : List TypeInfo} (htypes : List.Forall₂ TypeInfo.Respelled types types')

include htypes in
theorem map_id_eq_of_respelled : types.map TypeInfo.id = types'.map TypeInfo.id :=
  map_eq_of_forall₂ htypes fun _ _ h => h.id

include htypes in
/-- A type of the roster is known under both spellings. -/
theorem hasTypeNamed_iff_of_respelled (type1 : Int) (type2 : Option Int) (name : Text) :
    HasTypeNamed types type1 type2 name ↔ HasTypeNamed types' type1 type2 name := by
  have hrecord (id : Int) :
      Option.Rel TypeInfo.Respelled (typeRecord? types id) (typeRecord? types' id) := by
    refine rel_find? (List.rel_reverse htypes) fun t t' h => ?_
    rw [h.id]
  have hnormal (id : Int) : (Keyed.get? id (typeNames types)).map TypeName.normal =
      (Keyed.get? id (typeNames types')).map TypeName.normal := by
    rw [get?_typeNames, get?_typeNames, Option.map_map, Option.map_map]
    exact map_eq_of_rel (hrecord id) fun _ _ h => h.name
  unfold HasTypeNamed
  simp only [← Option.map_eq_some_iff, hnormal]

variable {α : Type} [Numeral α]

theorem incomingFrom_eq_of_respelled (bundle : Bundle α) (type1 : Int) (type2 : Option Int)
    (chart : TypeChart α) {t t' : TypeInfo} (h : t.Respelled t') :
    Potentials.incomingFrom bundle type1 type2 chart t =
      Potentials.incomingFrom bundle type1 type2 chart t' := by
  have hmultiplier : bundle.incomingMultiplier t.name 1 false =
      bundle.incomingMultiplier t'.name 1 false := by
    rw [Bundle.incomingMultiplier, Bundle.incomingMultiplier, Incoming.fold, Incoming.fold, h.name]
  have hfactor : bundle.incomingFactor t.name = bundle.incomingFactor t'.name := by
    rw [Bundle.incomingFactor, Bundle.incomingFactor, h.name]
  rw [Potentials.incomingFrom, Potentials.incomingFrom, hmultiplier, hfactor, h.id]

namespace Potentials

include htypes in
theorem typeDefenseOf_eq_of_respelled (bundle : Bundle α) (type1 : Int) (type2 : Option Int)
    (chart : TypeChart α) :
    typeDefenseOf bundle type1 type2 types chart =
      typeDefenseOf bundle type1 type2 types' chart := by
  have hfrom : types.map (incomingFrom bundle type1 type2 chart) =
      types'.map (incomingFrom bundle type1 type2 chart) :=
    map_eq_of_forall₂ htypes fun _ _ h => incomingFrom_eq_of_respelled bundle type1 type2 chart h
  rw [typeDefenseOf, typeDefenseOf, meanIncoming, meanIncoming, hfrom, htypes.length_eq]

include htypes in
theorem stabOf_eq_of_respelled (type1 : Int) (type2 : Option Int) (chart : TypeChart α) :
    stabOf type1 type2 types chart = stabOf type1 type2 types' chart := by
  have hsum (types : List TypeInfo) :
      types.foldl (fun sum t => sum + stabPowerOf (chart.bestOffense t.id type1 type2)) 0 =
        (types.map TypeInfo.id).foldl
          (fun sum id => sum + stabPowerOf (chart.bestOffense id type1 type2)) 0 := by
    rw [List.foldl_map]
  simp only [stabOf, hsum, map_id_eq_of_respelled htypes, htypes.length_eq]

include htypes in
theorem fault?_eq_of_respelled (stats : Stats α) (bundle : Bundle α) (type1 : Int)
    (type2 : Option Int) (chart : TypeChart α) :
    fault? stats bundle type1 type2 types chart = fault? stats bundle type1 type2 types' chart := by
  have hpower (types : List TypeInfo) :
      (∃ t ∈ types, HasNoStabPower (chart.bestOffense t.id type1 type2)) ↔
        ∃ id ∈ types.map TypeInfo.id, HasNoStabPower (chart.bestOffense id type1 type2) := by
    simp
  simp only [fault?, hpower, map_id_eq_of_respelled htypes]

end Potentials

include htypes in
/-- The scores of a creature see no more of the roster than ids and normal forms. -/
theorem potentials_eq_of_respelled_types (stats : Stats (Number α)) (tags : List Text)
    (type1 : Int) (type2 : Option Int) (chart : TypeChart α) (settings : Settings (Number α)) :
    potentials stats tags type1 type2 types chart settings =
      potentials stats tags type1 type2 types' chart settings := by
  unfold potentials
  rw [resolve_eq_of_hasTypeNamed (α := α) (hasTypeNamed_iff_of_respelled htypes type1 type2) tags]
  simp only [Potentials.fault?_eq_of_respelled htypes, Potentials.ofBundle,
    Potentials.typeDefenseOf_eq_of_respelled htypes, Potentials.stabOf_eq_of_respelled htypes]

end Roster

/-! ### Coverage -/

namespace Coverage

variable {α : Type} [Numeral α] (chart : TypeChart α) {attacker attacker' : TypeInfo}
  (hattacker : attacker.Respelled attacker')

include hattacker in
theorem multiplier_eq_of_respelled {m m' : TeamMember} (h : m.Respelled m') :
    multiplier chart attacker m = multiplier chart attacker' m' := by
  have htags := multiplier_eq_of_effects_eq (effects_eq_of_respelled (α := α) h.tags)
  have hname (x : α) : Tag.multiplier m'.tags attacker.name x true =
      Tag.multiplier m'.tags attacker'.name x true := by
    rw [Tag.multiplier, Tag.multiplier, Incoming.fold, Incoming.fold, hattacker.name]
  rw [multiplier, multiplier, htags, hname, hattacker.id, h.type1, h.type2]

include hattacker in
theorem sameCells_matrixRow {slots slots' : List (Option TeamMember)}
    (h : List.Forall₂ (Option.Rel TeamMember.Respelled) slots slots') :
    (matrixRow slots chart attacker).SameCells (matrixRow slots' chart attacker') := by
  have hrow : slots.map (fun m => m.map (multiplier chart attacker)) =
      slots'.map fun m => m.map (multiplier chart attacker') :=
    map_eq_of_forall₂ h fun _ _ hm =>
      map_eq_of_rel hm fun _ _ => multiplier_eq_of_respelled chart hattacker
  simp only [MatrixRow.SameCells, matrixRow, hrow, and_self]

include hattacker in
theorem sameCounts_summaryRow {members members' : List TeamMember}
    (h : List.Forall₂ TeamMember.Respelled members members') :
    (summaryRow members chart attacker).SameCounts (summaryRow members' chart attacker') := by
  have hrow : members.map (multiplier chart attacker) = members'.map (multiplier chart attacker') :=
    map_eq_of_forall₂ h fun _ _ => multiplier_eq_of_respelled chart hattacker
  have hfold (xs : List α) (row row' : CoverageRow) (hsame : row.SameCounts row') :
      (xs.foldl CoverageRow.count row).SameCounts (xs.foldl CoverageRow.count row') := by
    induction xs generalizing row row' with
    | nil => exact hsame
    | cons x xs ih =>
      refine ih _ _ ?_
      obtain ⟨hweak, hresist, himmune⟩ := hsame
      unfold CoverageRow.count
      split_ifs
      · exact ⟨hweak, hresist, congrArg (· + 1) himmune⟩
      · exact ⟨congrArg (· + 1) hweak, hresist, himmune⟩
      · exact ⟨hweak, congrArg (· + 1) hresist, himmune⟩
      · exact ⟨hweak, hresist, himmune⟩
  rw [summaryRow, summaryRow, hrow]
  exact hfold _ _ _ ⟨rfl, rfl, rfl⟩

end Coverage

/-- However the names of types and stats are spelled, in the roster and in tags, a creature has the
same scores, every slot of a team the same multipliers, and the team the same counts. -/
theorem respelled_names {α : Type} [Numeral α] {types types' : List TypeInfo}
    (htypes : List.Forall₂ TypeInfo.Respelled types types') (chart : TypeChart α) :
    (∀ tags tags', List.Forall₂ Tag.Respelled tags tags' →
      ∀ (stats : Stats (Number α)) (type1 : Int) (type2 : Option Int)
        (settings : Settings (Number α)),
        potentials stats tags type1 type2 types chart settings =
          potentials stats tags' type1 type2 types' chart settings) ∧
    (∀ slots slots', List.Forall₂ (Option.Rel TeamMember.Respelled) slots slots' →
      List.Forall₂ MatrixRow.SameCells (Coverage.matrix slots types chart)
        (Coverage.matrix slots' types' chart)) ∧
    (∀ members members', List.Forall₂ TeamMember.Respelled members members' →
      List.Forall₂ CoverageRow.SameCounts (Coverage.summary members types chart)
        (Coverage.summary members' types' chart)) := by
  refine ⟨fun tags tags' htags stats type1 type2 settings => ?_, fun slots slots' hslots => ?_,
    fun members members' hmembers => ?_⟩
  · have heffects := effects_eq_of_respelled (α := α) htags
    calc
      potentials stats tags type1 type2 types chart settings
        = potentials stats tags' type1 type2 types chart settings :=
          potentials_eq_of_agree (Bundle.agree_of_effects_eq heffects _)
            (fun type => multiplier_eq_of_effects_eq heffects type 1 false) stats chart settings
      _ = potentials stats tags' type1 type2 types' chart settings :=
          potentials_eq_of_respelled_types htypes stats tags' type1 type2 chart settings
  · exact List.forall₂_map_left_iff.2 (List.forall₂_map_right_iff.2
      (htypes.imp fun t t' h => Coverage.sameCells_matrixRow chart h hslots))
  · exact List.forall₂_map_left_iff.2 (List.forall₂_map_right_iff.2
      (htypes.imp fun t t' h => Coverage.sameCounts_summaryRow chart h hmembers))

/-- A roster of one type, and a creature's tags that name it and a stat, in two spellings each. -/
theorem respelled_names_fire :
    let types : List TypeInfo := [⟨1, "Fire", none, false⟩]
    let types' : List TypeInfo := [⟨1, " FIRE", none, false⟩]
    let tags : List Text := ["mult:off_type:Fire:2", "mult:atk:1.5", "resist:fire"]
    let tags' : List Text := ["mult:off_type: fIRE :2", "mult:ATK:1.5", "resist:FIRE "]
    let chart : TypeChart Float := ⟨[]⟩
    potentials (.const (.whole 50)) tags 1 none types chart Settings.default.written =
      potentials (.const (.whole 50)) tags' 1 none types' chart Settings.default.written ∧
    List.Forall₂ MatrixRow.SameCells (Coverage.matrix [some ⟨1, none, tags⟩, none] types chart)
      (Coverage.matrix [some ⟨1, none, tags'⟩, none] types' chart) ∧
    List.Forall₂ CoverageRow.SameCounts (Coverage.summary [⟨1, none, tags⟩] types chart)
      (Coverage.summary [⟨1, none, tags'⟩] types' chart) := by
  intro types types' tags tags' chart
  have htypes : List.Forall₂ TypeInfo.Respelled types types' :=
    .cons ⟨rfl, by decide +kernel⟩ .nil
  have hfire : TypeName.normal "Fire" = TypeName.normal " fIRE " := by decide +kernel
  have hresist : TypeName.normal "fire" = TypeName.normal "FIRE " := by decide +kernel
  have hattack : TypeName.normal "atk" = TypeName.normal "ATK" := by decide +kernel
  have hspelled {tag tag' : Text} (parts parts' : List Text)
      (hparts : Text.split ':' (Text.trim tag) = parts) (h : Tag.RespelledParts parts parts')
      (htag' : Text.trim tag' = Text.trim (Tag.joined parts')) : Tag.Respelled tag tag' :=
    ⟨parts', hparts ▸ h, htag'⟩
  have htags : List.Forall₂ Tag.Respelled tags tags' := by
    refine .cons ?_ (.cons ?_ (.cons ?_ .nil))
    · exact hspelled ["mult", "off_type", "Fire", "2"] ["mult", "off_type", " fIRE ", "2"]
        (by decide +kernel) (.offenseIfType hfire) (by decide +kernel)
    · exact hspelled ["mult", "atk", "1.5"] ["mult", "ATK", "1.5"]
        (by decide +kernel) (.stat (by decide) hattack) (by decide +kernel)
    · exact hspelled ["resist", "fire"] ["resist", "FIRE "]
        (by decide +kernel) (.relation .resist hresist) (by decide +kernel)
  have hmember : TeamMember.Respelled ⟨1, none, tags⟩ ⟨1, none, tags'⟩ := ⟨rfl, rfl, htags⟩
  obtain ⟨hscores, hmatrix, hsummary⟩ := respelled_names htypes chart
  exact ⟨hscores tags tags' htags _ _ _ _, hmatrix _ _ (.cons (.some hmember) (.cons .none .nil)),
    hsummary _ _ (.cons hmember .nil)⟩

end Roster
