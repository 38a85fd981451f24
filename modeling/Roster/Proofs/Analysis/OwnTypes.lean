import Roster.Proofs.Analysis.Ranking
import Roster.Proofs.Bundle.Conditional

/-!
# Conditions on a creature's own types

A creature has the types of its form, a game's change of the species included. Where a tag asks for
one, their names are looked up among the types that take part in the chart, whereas a score shows
the names that all types of the game have. The two agree but for types that are left out of the
chart: such a type is shown, and no condition on it holds.
-/

namespace Roster

open Scalar

/-! ### Names of own types -/

/-- The record that gives a type its name, the last one of its id. -/
def typeRecord? (types : List TypeInfo) (id : Int) : Option TypeInfo :=
  types.reverse.find? fun t => t.id = id

theorem get?_typeNames (types : List TypeInfo) (id : Int) :
    Keyed.get? id (typeNames types) = (typeRecord? types id).map TypeInfo.name := by
  unfold typeNames typeRecord?
  rw [Keyed.get?_ofList, ← List.map_reverse, List.find?_map, Option.map_map]
  rfl

/-- What is found first is found among some of the elements if it is one of them. -/
theorem find?_filter_eq_find? {β : Type} {p q : β → Bool} {l : List β}
    (h : ∀ x, l.find? q = some x → p x = true) : (l.filter p).find? q = l.find? q := by
  induction l with
  | nil => rfl
  | cons x l ih =>
    cases hq : q x with
    | true =>
      have hp : p x = true := h x (List.find?_cons_of_pos hq)
      rw [List.filter_cons_of_pos hp, List.find?_cons_of_pos hq, List.find?_cons_of_pos hq]
    | false =>
      have hq : ¬ q x = true := Bool.eq_false_iff.1 hq
      rw [List.find?_cons_of_neg hq] at h ⊢
      by_cases hp : p x = true
      · rw [List.filter_cons_of_pos hp, List.find?_cons_of_neg hq, ih h]
      · rw [List.filter_cons_of_neg hp, ih h]

/-- A type that takes part in the chart has the name there that it has in the game, and so has one
that the game does not know. -/
theorem get?_typeNames_visibleTypes {types : List TypeInfo} {id : Int}
    (h : ∀ t, typeRecord? types id = some t → t.excluded = false) :
    Keyed.get? id (typeNames (visibleTypes types)) = Keyed.get? id (typeNames types) := by
  rw [get?_typeNames, get?_typeNames]
  unfold typeRecord? visibleTypes
  rw [← List.filter_reverse, find?_filter_eq_find?]
  intro t ht
  rw [h t ht]
  rfl

/-- Whether one of a creature's types, as far as they are among the given ones, has a name whose
normal form is `name`. -/
def HasTypeNamed (types : List TypeInfo) (type1 : Int) (type2 : Option Int) (name : Text) : Prop :=
  ∃ id ∈ type1 :: type2.toList, ∃ n,
    Keyed.get? id (typeNames types) = some n ∧ TypeName.normal n = name

theorem mem_holderTypeNames {types : List TypeInfo} {type1 : Int} {type2 : Option Int} {n : Text} :
    n ∈ holderTypeNames type1 type2 types ↔
      ∃ id ∈ type1 :: type2.toList, Keyed.get? id (typeNames types) = some n ∧ n ≠ "" := by
  have hids : holderTypeNames type1 type2 types =
      ((type1 :: type2.toList).map fun id => Keyed.get? id (typeNames types)).filterMap
        fun n => n.filter fun name => !name.isEmpty := rfl
  rw [hids]
  simp only [List.mem_filterMap, List.mem_map, Option.filter_eq_some_iff]
  constructor
  · rintro ⟨_, ⟨id, hid, rfl⟩, hn, hne⟩
    refine ⟨id, hid, hn, ?_⟩
    rintro rfl
    cases hne
  · rintro ⟨id, hid, hn, hne⟩
    refine ⟨_, ⟨id, hid, rfl⟩, hn, ?_⟩
    obtain ⟨l⟩ := n
    cases l with
    | nil => exact absurd rfl hne
    | cons c l => rfl

/-- A creature has the types for which conditions hold. -/
theorem mem_normals_holderTypeNames {types : List TypeInfo} {type1 : Int} {type2 : Option Int}
    {name : Text} (hname : name ≠ "") :
    name ∈ TypeName.normals (holderTypeNames type1 type2 types) ↔
      HasTypeNamed types type1 type2 name := by
  simp only [TypeName.mem_normals, mem_holderTypeNames]
  constructor
  · rintro ⟨-, n, ⟨id, hid, hn, -⟩, hnormal⟩
    exact ⟨id, hid, n, hn, hnormal⟩
  · rintro ⟨id, hid, n, hn, hnormal⟩
    refine ⟨hname, n, ⟨id, hid, hn, ?_⟩, hnormal⟩
    rintro rfl
    exact hname (hnormal.symm.trans (by decide))

/-- Tags are resolved alike for creatures that have types of the same names. -/
theorem resolve_eq_of_hasTypeNamed {α : Type} [Numeral α] {types types' : List TypeInfo}
    {type1 type1' : Int} {type2 type2' : Option Int}
    (h : ∀ name, HasTypeNamed types type1 type2 name ↔ HasTypeNamed types' type1' type2' name)
    (tags : List Text) :
    Bundle.resolve (α := α) tags (holderTypeNames type1 type2 types) =
      Bundle.resolve tags (holderTypeNames type1' type2' types') := by
  refine Bundle.resolve_eq_of_mem_iff (fun name => ?_) tags
  by_cases hname : name = ""
  · have hblank (holder : List Text) : name ∉ TypeName.normals holder :=
      fun hmem => (TypeName.mem_normals.1 hmem).1 hname
    exact iff_of_false (hblank _) (hblank _)
  · rw [mem_normals_holderTypeNames hname, mem_normals_holderTypeNames hname]
    exact h name

/-! ### Creatures -/

section Creatures

variable {α : Type} [Numeral α] {tag type : Text} {slot : Slot} {f : α}
  (h : Tag.Conditional tag slot type f) (before after : List Text) {types : List TypeInfo}
  {type1 : Int} {type2 : Option Int}

include h in
/-- For a creature that has the type the factor is multiplied in its place. -/
theorem Bundle.product_of_hasTypeNamed
    (htype : HasTypeNamed types type1 type2 (TypeName.normal type)) :
    let holder := holderTypeNames type1 type2 types
    (resolve (before ++ tag :: after) holder : Bundle α).product slot =
      productFrom 1 (before.filterMap (slot.ofTag? holder) ++
        f :: after.filterMap (slot.ofTag? holder)) := by
  intro holder
  have hf : slot.ofTag? holder tag = some f := by
    rw [h.ofTag?, if_pos ((mem_normals_holderTypeNames h.normal_ne).2 htype)]
  rw [product_resolve, List.filterMap_append, List.filterMap_cons_some hf]

include h in
/-- For one that does not the tag might as well be missing. -/
theorem potentials_of_not_hasTypeNamed
    (htype : ¬ HasTypeNamed types type1 type2 (TypeName.normal type)) (stats : Stats (Number α))
    (chart : TypeChart α) (settings : Settings (Number α)) :
    let holder := holderTypeNames type1 type2 types
    (Bundle.resolve (before ++ tag :: after) holder : Bundle α).product slot =
        productFrom 1 (before.filterMap (slot.ofTag? holder) ++
          after.filterMap (slot.ofTag? holder)) ∧
      potentials stats (before ++ tag :: after) type1 type2 types chart settings =
        potentials stats (before ++ after) type1 type2 types chart settings := by
  intro holder
  have hnot : TypeName.normal type ∉ TypeName.normals holder :=
    mt (mem_normals_holderTypeNames h.normal_ne).1 htype
  have hnone : slot.ofTag? (α := α) holder tag = none := by rw [h.ofTag?, if_neg hnot]
  refine ⟨by rw [Bundle.product_resolve, filterMap_insert hnone, List.filterMap_append], ?_⟩
  have hroster : ∀ t ∈ types, TypeName.normal t.name ∈ types.map fun t => TypeName.normal t.name :=
    fun t ht => List.mem_map.2 ⟨t, ht, rfl⟩
  exact potentials_insert_eq stats chart settings before after rfl hroster
    (h.not_actsOn hnot _ .offense) (h.not_actsOn hnot _ .defense)

end Creatures

/-- The names that are shown of known types are those of the whole list of types. -/
theorem hasTypeNamed_iff_shown {α : Type} {g : Game α} {type1 : Int} {type2 : Option Int}
    {name : Text} {names : List Text} (h : Analyzer.typeNames? g type1 type2 = some names) :
    HasTypeNamed g.types type1 type2 name ↔
      ∃ id ∈ type1 :: type2.toList, ∃ n ∈ names,
        Keyed.get? id (typeNames g.types) = some n ∧ TypeName.normal n = name := by
  constructor
  · rintro ⟨id, hid, n, hn, hnormal⟩
    obtain ⟨n', hmem, hn'⟩ := exists_mem_of_mapM h hid
    obtain ⟨digits, -, rfl⟩ := Option.map_eq_some_iff.1 hn'
    rw [hn] at hmem
    exact ⟨id, hid, n, hmem, hn, hnormal⟩
  · rintro ⟨id, hid, n, -, hn, hnormal⟩
    exact ⟨id, hid, n, hn, hnormal⟩

theorem hasTypeNamed_visible_iff {types : List TypeInfo} {type1 : Int} {type2 : Option Int}
    (h : ∀ id ∈ type1 :: type2.toList, ∀ t, typeRecord? types id = some t → t.excluded = false)
    (name : Text) :
    HasTypeNamed (visibleTypes types) type1 type2 name ↔ HasTypeNamed types type1 type2 name := by
  unfold HasTypeNamed
  refine exists_congr fun id => and_congr_right fun hid => ?_
  rw [get?_typeNames_visibleTypes (h id hid)]

/-- The score of a game's creature is made with the types of the chart. -/
theorem Analyzer.exists_ofBundle_of_score_ofGame {α : Type} [Numeral α] {g : Game α}
    {settings : Settings α} {e : BoxEntry} {species : Species α} {s : Score α}
    (hs : Keyed.get? e.speciesId g.species = some species)
    (h : (ofGame g settings.written).score g e = .ok s) :
    ∃ stats,
      Potentials.scalarStats? (species.formUnder (Keyed.get? species.id g.changes)).stats =
        some stats ∧
      s.potentials =
        .ofBundle stats (Bundle.resolve s.tags (holderTypeNames s.type1 s.type2 g.visible)) s.type1
          s.type2 g.visible (.ofRows g.chart) settings := by
  obtain ⟨species', stats, t, hs', hstats, ht, hbundle⟩ := exists_ofBundle_of_score h
  obtain rfl := Option.some.inj (hs.symm.trans hs')
  obtain rfl := Option.some.inj ((Potentials.scalarSettings?_written settings).symm.trans ht)
  exact ⟨stats, hstats, hbundle⟩

namespace Game

variable {α : Type} [Numeral α]

/-- The factor of a conditional tag counts exactly if the creature, as a game's change leaves it,
has the type among those of the chart. Where none of its own types is left out of the chart, these
are the types that its score shows by their names. The document can be shown, as any that a text
holds can. -/
theorem conditional_tag_of_read [LawfulScalar α] [LawfulWeights α] {given : Option Text}
    {v : Json α} {g : Game α} (hv : v.isWritable) (h : (read given v).result = .ok g)
    (c : SettingsChange α) {e : BoxEntry} (he : e ∈ g.box) :
    let a := Analyzer.ofGame g (g.settings.change c).written
    ∃ species s, Keyed.get? e.speciesId g.species = some species ∧ a.score g e = .ok s ∧
      let form := species.formUnder (Keyed.get? species.id g.changes)
      let scores (tags : List Text) :=
        potentials form.stats tags form.type1 form.type2 a.types a.chart a.settings
      let holder := holderTypeNames s.type1 s.type2 g.visible
      let bundle : Bundle α := Bundle.resolve s.tags holder
      (s.type1 = form.type1 ∧ s.type2 = form.type2 ∧ s.tags = a.tags g e species) ∧
      scores s.tags = .ok s.potentials ∧
      (∃ stats, Potentials.scalarStats? form.stats = some stats ∧
        s.potentials = .ofBundle stats bundle s.type1 s.type2 g.visible (.ofRows g.chart)
          (g.settings.change c)) ∧
      ∀ before tag after slot type f, s.tags = before ++ tag :: after →
        Tag.Conditional tag slot type f →
        let name := TypeName.normal type
        let factors := List.filterMap (slot.ofTag? (α := α) holder)
        (HasTypeNamed g.visible s.type1 s.type2 name →
          bundle.product slot = productFrom 1 (factors before ++ f :: factors after)) ∧
        (¬ HasTypeNamed g.visible s.type1 s.type2 name →
          bundle.product slot = productFrom 1 (factors before ++ factors after) ∧
          scores (before ++ after) = .ok s.potentials) ∧
        ((∀ id ∈ s.type1 :: s.type2.toList, ∀ t, typeRecord? g.types id = some t →
            t.excluded = false) →
          (HasTypeNamed g.visible s.type1 s.type2 name ↔
            ∃ id ∈ s.type1 :: s.type2.toList, ∃ n ∈ s.typeNames,
              Keyed.get? id (typeNames g.types) = some n ∧ TypeName.normal n = name)) := by
  intro a
  have hg := wellFormed_of_read h
  obtain ⟨s, hs⟩ :=
    Analyzer.exists_score hg (Potentials.scalarSettings?_written (g.settings.change c)) he
      (showsTypes_of_read hv h e)
  obtain ⟨species, p, hspecies, hp, names, hnames, rfl⟩ := Analyzer.exists_potentials_of_score hs
  have hbundle := Analyzer.exists_ofBundle_of_score_ofGame hspecies hs
  refine ⟨species, _, hspecies, hs, ⟨rfl, rfl, rfl⟩, hp, hbundle, ?_⟩
  intro before tag after slot type f htags htag name factors
  refine ⟨fun htype => ?_, fun htype => ?_, fun hshown => ?_⟩
  · rw [htags]
    exact Bundle.product_of_hasTypeNamed htag before after htype
  · obtain ⟨hproduct, hpotentials⟩ :=
      potentials_of_not_hasTypeNamed htag before after htype _ a.chart a.settings
    rw [htags]
    refine ⟨hproduct, hpotentials.symm.trans ?_⟩
    rw [← htags]
    exact hp
  · exact (hasTypeNamed_visible_iff hshown name).trans (hasTypeNamed_iff_shown hnames)

/-- A document with a creature of two types, the second left out of the chart, that has a tag for
either of them. -/
def lanternDocument : Json Float :=
  .record
    [("types", .array
        [.record [("id", .number (.whole 1)), ("name", .string "Fire")],
          .record [("id", .number (.whole 2)), ("name", .string "Ghost"),
            ("exclude_in_chart", .bool true)]]),
      ("species", .array [.record
        ([("id", .number (.whole 1)), ("name", .string "Lantern"), ("type1_id", .number (.whole 1)),
            ("type2_id", .number (.whole 2)),
            ("tags", .array
              [.string "mult:off_type:Fire:2", .string "mult:stat_if_type:atk:Ghost:3"])]
          ++ Stat.all.map fun stat => (stat.key, .number (.whole 80)))]),
      ("box", .array [boxItem 1])]

def lanternSpecies : Species Float :=
  ⟨1, "Lantern", 1, some 2, .const (.whole 80), 1,
    ["mult:off_type:Fire:2", "mult:stat_if_type:atk:Ghost:3"]⟩

/-- The game of that document. -/
def lantern : Game Float :=
  { solo with
    name := untitled
    types := [⟨1, "Fire", none, false⟩, ⟨2, "Ghost", none, true⟩]
    species := [(1, lanternSpecies)]
    team := [none, none, none, none, none, none] }

theorem read_lanternDocument : (read none lanternDocument).result = .ok lantern := by
  refine toOption_eq_some.1 ?_
  decide +kernel

theorem conditional_fire :
    Tag.Conditional "mult:off_type:Fire:2" .offenseByType "Fire" (2 : Float) := by
  have hparts : Text.split ':' (Text.trim "mult:off_type:Fire:2") =
      (["mult", "off_type", "Fire", "2"] : List Text) := by decide
  exact .offenseIfType hparts (by decide) (by decide +kernel)

theorem conditional_ghost :
    Tag.Conditional "mult:stat_if_type:atk:Ghost:3" (.stat .attack) "Ghost" (3 : Float) := by
  have hparts : Text.split ':' (Text.trim "mult:stat_if_type:atk:Ghost:3") =
      (["mult", "stat_if_type", "atk", "Ghost", "3"] : List Text) := by decide
  exact .statIfType hparts (by decide) (by decide) (by decide +kernel)

/-- To a lantern of fire the tag for the fire applies. It is a ghost too, but ghosts are not in the
chart: its score is the one that it has without the tag for them. -/
theorem conditional_tag_of_read_lantern :
    let a := Analyzer.ofGame lantern (lantern.settings.change {}).written
    let holder := holderTypeNames 1 (some 2) lantern.visible
    (read none lanternDocument).result = .ok lantern ∧ ∃ s, a.score lantern soloEntry = .ok s ∧
      (Bundle.resolve s.tags holder : Bundle Float).product .offenseByType = productFrom 1 [2] ∧
      (Bundle.resolve s.tags holder : Bundle Float).product (.stat .attack) = productFrom 1 [] ∧
      potentials lanternSpecies.stats ["mult:off_type:Fire:2"] 1 (some 2) a.types a.chart
        a.settings = .ok s.potentials := by
  intro a holder
  obtain ⟨species, s, hspecies, hs, ⟨htype1, htype2, htags⟩, -, -, htag⟩ :=
    conditional_tag_of_read (by decide +kernel) read_lanternDocument {} (e := soloEntry)
      (List.mem_singleton.2 rfl)
  obtain rfl : lanternSpecies = species := Option.some.inj hspecies
  have hfire := htag [] _ ["mult:stat_if_type:atk:Ghost:3"] _ _ _ htags conditional_fire
  have hghost := htag ["mult:off_type:Fire:2"] _ [] _ _ _ htags conditional_ghost
  rw [htype1, htype2] at hfire hghost
  have hnot : ¬ HasTypeNamed lantern.visible 1 (some 2) "ghost" := by
    rw [← mem_normals_holderTypeNames (by decide)]
    decide
  obtain ⟨hattack, hscore⟩ := hghost.2.1 hnot
  refine ⟨read_lanternDocument, s, hs,
    (hfire.1 ⟨1, List.mem_cons_self, "Fire", by decide⟩).trans ?_, hattack.trans ?_, hscore⟩
  · decide +kernel
  · decide +kernel

/-- A type that is left out of the chart is shown by its name, and yet a factor for its holders does
not count: the lantern's attack is multiplied by one, not by three. -/
theorem excluded_type_is_shown :
    (read none lanternDocument).result = .ok lantern ∧ soloEntry ∈ lantern.box ∧
      ∃ s, (Analyzer.ofGame lantern lantern.settings.written).score lantern soloEntry = .ok s ∧
        let bundle : Bundle Float :=
          Bundle.resolve s.tags (holderTypeNames s.type1 s.type2 lantern.visible)
        (∃ stats, Potentials.scalarStats? lanternSpecies.stats = some stats ∧
          s.potentials = .ofBundle stats bundle s.type1 s.type2 lantern.visible
            (.ofRows lantern.chart) lantern.settings) ∧
        ("mult:stat_if_type:atk:Ghost:3" : Text) ∈ s.tags ∧
        Tag.Conditional "mult:stat_if_type:atk:Ghost:3" (.stat .attack) "Ghost" (3 : Float) ∧
        s.type2 = some 2 ∧ Keyed.get? 2 (typeNames lantern.types) = some "Ghost" ∧
        s.typeNames = ["Fire", "Ghost"] ∧
        bundle.product (.stat .attack) = 1 ∧ productFrom 1 [3] = (3 : Float) := by
  refine ⟨read_lanternDocument, List.mem_singleton.2 rfl, ?_⟩
  obtain ⟨s, hs⟩ := Analyzer.exists_score (wellFormed_of_read read_lanternDocument)
    (Potentials.scalarSettings?_written lantern.settings) (e := soloEntry)
    (List.mem_singleton.2 rfl) (showsTypes_of_read (by decide +kernel) read_lanternDocument _)
  obtain ⟨species, p, hspecies, -, names, hnames, rfl⟩ := Analyzer.exists_potentials_of_score hs
  have hbundle := Analyzer.exists_ofBundle_of_score_ofGame hspecies hs
  obtain rfl : lanternSpecies = species := Option.some.inj hspecies
  refine ⟨_, hs, hbundle, ?_, conditional_ghost, rfl, by decide, ?_, ?_,
    by decide +kernel⟩
  · change _ ∈ lanternSpecies.tags
    decide
  · have hshown :
        Analyzer.typeNames? lantern 1 (some 2) = some (["Fire", "Ghost"] : List Text) := by
      decide +kernel
    exact Option.some.inj (hnames.symm.trans hshown)
  · change (Bundle.resolve lanternSpecies.tags (holderTypeNames 1 (some 2) lantern.visible)).product
      (.stat .attack) = (1 : Float)
    decide +kernel

end Game

end Roster
