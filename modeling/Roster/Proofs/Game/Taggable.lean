import Roster.Dashboard.TagPanel
import Roster.Proofs.Analysis.Total
import Roster.Proofs.Bundle.Gathered
import Roster.Proofs.Game.Box
import Roster.Proofs.Tag.Built

/-!
# Names in built tags

Types and species of a game that is read have names that are not blank, without blanks around. Any
other name is let in, one with a colon as well; but tags are cut at colons, so a tag that is built
from such a name has too many parts. It has no effect, and the tag builder says so. From all other
names a tag is built that does what its kind says.
-/

namespace Roster

namespace Text

/-- A name: a text that is not empty, without blanks around. -/
structure IsName (s : Text) : Prop where
  trimmed : trim s = s
  nonempty : s ≠ ""

theorem trim_eq_empty_iff (s : Text) : trim s = "" ↔ isBlankText s = true := by
  have hall : isBlankText s = true ↔ ∀ c ∈ s.toList, c.satisfies isBlank = true := List.all_eq_true
  rw [hall]
  constructor
  · intro h
    have hnil : trimEndBy (CodePoint.satisfies isBlank)
        (trimStartBy (CodePoint.satisfies isBlank) s.toList) = [] := congrArg toList h
    have hrest := List.rdropWhile_eq_nil_iff.1 hnil
    refine List.dropWhile_eq_nil_iff.1 ?_
    cases hdrop : s.toList.dropWhile (CodePoint.satisfies isBlank) with
    | nil => rfl
    | cons c rest =>
      have hc : c.satisfies isBlank = false := by
        have := List.head?_dropWhile_not (CodePoint.satisfies isBlank) s.toList
        rwa [hdrop, List.head?_cons] at this
      rw [trimStartBy, hdrop] at hrest
      exact absurd (hrest c List.mem_cons_self) (by simp [hc])
  · intro h
    have hnil : s.toList.dropWhile (CodePoint.satisfies isBlank) = [] :=
      List.dropWhile_eq_nil_iff.2 h
    refine ext_toList ?_
    rw [toList_trim, trimmed, trimBy, trimStartBy, hnil]
    rfl

theorem isName_trim {s : Text} (h : isBlankText s = false) : (trim s).IsName where
  trimmed := Tag.trim_trim s
  nonempty := by
    rw [ne_eq, trim_eq_empty_iff, h]
    exact Bool.false_ne_true

end Text

/-! ### Tags of a keyword and a name -/

namespace Tag.Kind

open Text

variable {α : Type} [Numeral α]

/-- A keyword and a name are read as such, unless a colon in the name makes a part too many. -/
theorem ofParts?_joined {keyword name : Text} (hkeyword : .char ':' ∉ keyword.toList)
    (hcrit : lower keyword ≠ "crit") (hmult : keyword ≠ "mult") :
    ofParts? (α := α) (split ':' (joined [keyword, name])) =
      if .char ':' ∈ name.toList then none else single? keyword name := by
  have hsplit : split ':' (joined [keyword, name]) = keyword :: split ':' name := by
    change (splitAt _ (keyword.toList ++ .char ':' :: name.toList)).map Text.mk = _
    rw [splitAt_append _ hkeyword]
    rfl
  rw [hsplit]
  unfold ofParts?
  dsimp only
  rw [if_neg hcrit, if_neg hmult]
  split_ifs with hname
  · have hlength : 2 ≤ (split ':' name).length := by
      have := List.count_pos_iff.2 hname
      rw [split, List.length_map, length_splitAt]
      omega
    rcases hparts : split ':' name with _ | ⟨first, _ | ⟨second, rest⟩⟩
    · simp [hparts] at hlength
    · simp [hparts] at hlength
    · rfl
  · rw [split, splitAt_of_notMem hname]
    rfl

theorem parse_relation (r : Relation) {p : Parts} (hne : trim p.type ≠ "") :
    parse (α := α) ((relation r).spell p.trim) =
      if .char ':' ∈ p.type.toList then none
      else some (.incoming (.relation r (TypeName.normal p.type))) := by
  have hsingle : single? (α := α) r.keyword (trim p.type) =
      some (.incoming (.relation r (TypeName.normal p.type))) := by
    rw [single?, Relation.ofKeyword?_eq_some_iff.2 rfl]
    dsimp only
    rw [typeName?_trim_of_ne hne]
    rfl
  have hkeyword : .char ':' ∉ (r.keyword : Text).toList := by cases r <;> decide
  have hcrit : lower r.keyword ≠ "crit" := by cases r <;> decide
  have hmult : (r.keyword : Text) ≠ "mult" := by cases r <;> decide
  have hjoined : ofParts? (α := α) (split ':' (joined [(r.keyword : Text), trim p.type])) =
      if .char ':' ∈ (trim p.type).toList then none else single? r.keyword (trim p.type) :=
    ofParts?_joined hkeyword hcrit hmult
  rw [parse_spell]
  refine hjoined.trans ?_
  simp only [colon_mem_trim_iff, hsingle]

theorem parse_species {p : Parts} (hne : trim p.species ≠ "") :
    parse (α := α) (species.spell p.trim) =
      if .char ':' ∈ p.species.toList then none
      else some (.note (.species (trim p.species))) := by
  have hsingle : single? (α := α) "species" (trim p.species) =
      some (.note (.species (trim p.species))) := by
    have hname : single? (α := α) "species" (trim p.species) =
        if trim (trim p.species) = "" then none
        else some (.note (.species (trim (trim p.species)))) := rfl
    rw [hname, trim_trim, if_neg hne]
  have hjoined : ofParts? (α := α) (split ':' (joined ["species", trim p.species])) =
      if .char ':' ∈ (trim p.species).toList then none else single? "species" (trim p.species) :=
    ofParts?_joined (by decide) (by decide) (by decide)
  rw [parse_spell]
  refine hjoined.trans ?_
  simp only [colon_mem_trim_iff, hsingle]

end Tag.Kind

namespace Game

variable {α : Type} [Numeral α]

omit [Numeral α] in
theorem isName_of_nameField {site : Site} {r : Record α} {name : Text}
    (h : nameField site r = .ok name) : name.IsName := by
  unfold nameField textField? at h
  split at h
  · rename_i s hs
    split at hs
    · obtain ⟨hblank, hs⟩ := Option.ite_none_left_eq_some.1 hs
      rw [← Except.ok.inj h, ← Option.some.inj hs]
      exact Text.isName_trim (Bool.not_eq_true _ ▸ hblank)
    · cases hs
  · cases h

theorem isName_of_readType {site : Site} {v : Json α} {t : TypeInfo}
    (h : readType site v = .ok t) : t.name.IsName := by
  unfold readType at h
  obtain ⟨r, -, h⟩ := bind_eq_ok.1 h
  obtain ⟨id, -, h⟩ := bind_eq_ok.1 h
  obtain ⟨name, hname, h⟩ := bind_eq_ok.1 h
  cases h
  exact isName_of_nameField hname

theorem isName_of_readSpecies {site : Site} {v : Json α} {s : Species α}
    (h : readSpecies site v = .ok s) : s.name.IsName := by
  unfold readSpecies at h
  obtain ⟨r, -, h⟩ := bind_eq_ok.1 h
  obtain ⟨id, -, h⟩ := bind_eq_ok.1 h
  obtain ⟨name, hname, h⟩ := bind_eq_ok.1 h
  obtain ⟨type1, -, h⟩ := bind_eq_ok.1 h
  obtain ⟨type2, -, h⟩ := bind_eq_ok.1 h
  obtain ⟨stats, -, h⟩ := bind_eq_ok.1 h
  obtain ⟨dexNumber, -, h⟩ := bind_eq_ok.1 h
  obtain ⟨tags, -, h⟩ := bind_eq_ok.1 h
  cases h
  exact isName_of_nameField hname

/-- The types and species of a game that is read have names. -/
theorem isName_of_read {given : Option Text} {v : Json α} {g : Game α}
    (h : (read given v).result = .ok g) :
    (∀ t ∈ g.types, t.name.IsName) ∧ ∀ e ∈ g.species, e.2.name.IsName := by
  cases v with
  | object r =>
    obtain ⟨types, chart, roll, entries, slots, settings, ht, -, hr, -, -, -, rfl⟩ :=
      result_read_eq_ok_iff.1 h
    constructor
    · intro t hmem
      obtain ⟨site, v, hv⟩ := mem_readTypes ht hmem
      exact isName_of_readType hv
    · intro e hmem
      obtain ⟨site, v, hv⟩ := (mem_readRoll hr).1 e hmem
      exact isName_of_readSpecies hv
  | _ => cases h

end Game

/-! ### What comes of a tag -/

theorem Bundle.incomingMultiplier_resist {α : Type} [Numeral α] {tag name : Text}
    (h : Tag.parse (α := α) tag = some (.incoming (.relation .resist name))) (holder : List Text)
    (type : Text) (chart : α) (withFactors : Bool) :
    (resolve [tag] holder).incomingMultiplier type chart withFactors =
      if TypeName.normal type = name then Scalar.saturate (chart * 0.5) else chart := by
  have hincoming : Tag.incoming (α := α) [tag] = [.relation .resist name] := by
    simp [Tag.incoming, Tag.effects, h, Effect.incoming?]
  rw [incomingMultiplier_resolve, Tag.multiplier, hincoming]
  by_cases hname : name = TypeName.normal type
  · simp [Incoming.fold, Incoming.isImmunity, Incoming.factorFor?, Relation.factor?, hname]
  · simp [Incoming.fold, Incoming.isImmunity, Incoming.factorFor?, hname, eq_comm]

namespace Dashboard.TagPanel

/-- A tag with an effect, of which the panel says so. -/
structure Recognizes (tag : Text) : Prop where
  ignored (holder : List Text) : (Bundle.resolve (α := Float) [tag] holder).ignored = []
  result : result (some tag) =
    [.code tag, .success "✅ Tag is recognized",
      .code (Json.write (α := Float) (.array [.string tag]))]

/-- A tag without an effect, of which the panel says so. -/
structure Refuses (tag : Text) : Prop where
  ignored (holder : List Text) : (Bundle.resolve (α := Float) [tag] holder).ignored = [tag]
  result : result (some tag) =
    [.code tag, .error "This tag would be ignored by the scorer",
      .code (Json.write (α := Float) (.array [.string tag]))]

theorem recognizes_of_parse {tag : Text} {e : Effect Float} (h : Tag.parse tag = some e) :
    Recognizes tag where
  ignored holder := by simp [Bundle.ignored_resolve, h]
  result := by simp [TagPanel.result, isIgnored, h]

theorem refuses_of_parse {tag : Text} (h : Tag.parse (α := Float) tag = none) : Refuses tag where
  ignored holder := by simp [Bundle.ignored_resolve, h]
  result := by simp [TagPanel.result, isIgnored, h]

end Dashboard.TagPanel

namespace Game

open Dashboard

variable {given : Option Text} {v : Json Float} {g : Game Float}

/-- From the name of every type of a game that is read the tags of all relations are built, and from
the name of every species its tag. Those from names without a colon have an effect: to resist a type
halves the multiplier on attacks of it and of types of the same normal form, and leaves all others;
a species tag notes the name. Those from names with a colon are ignored, and the tag builder says
so. -/
theorem taggable_of_read (h : (read given v).result = .ok g) :
    (∀ t ∈ g.types, ∀ (r : Relation) (p : Tag.Parts), p.type = t.name →
      ∃ tag, (Tag.Kind.relation r).build p = some tag ∧
        (.char ':' ∈ t.name.toList → TagPanel.Refuses tag) ∧
        (.char ':' ∉ t.name.toList → TagPanel.Recognizes tag ∧
          (r = .resist → ∀ (holder : List Text) (type : Text) (chart : Float) (withFactors : Bool),
            Scalar.Finite chart →
              (Bundle.resolve [tag] holder).incomingMultiplier type chart withFactors =
                if TypeName.normal type = TypeName.normal t.name then chart * 0.5 else chart))) ∧
      ∀ e ∈ g.species, ∀ p : Tag.Parts, p.species = e.2.name →
        ∃ tag, Tag.Kind.species.build p = some tag ∧
          (.char ':' ∈ e.2.name.toList → TagPanel.Refuses tag) ∧
          (.char ':' ∉ e.2.name.toList → TagPanel.Recognizes tag ∧
            Tag.parse (α := Float) tag = some (.note (.species e.2.name))) := by
  obtain ⟨htypes, hspecies⟩ := isName_of_read h
  constructor
  · intro t ht r p hp
    obtain ⟨htrim, hne⟩ := htypes t ht
    rw [← hp] at htrim hne ⊢
    have hname : Text.trim p.type ≠ "" := by rwa [htrim]
    have hneeds : ∀ part ∈ (Tag.Kind.relation r).needs, p.trim.get part ≠ "" :=
      List.forall_mem_singleton.2 hname
    have hparse := Tag.Kind.parse_relation (α := Float) r hname
    refine ⟨_, Tag.Kind.build_eq_some_iff.2 ⟨hneeds, rfl⟩, fun hcolon => ?_, fun hcolon => ?_⟩
    · rw [if_pos hcolon] at hparse
      exact TagPanel.refuses_of_parse hparse
    · rw [if_neg hcolon] at hparse
      refine ⟨TagPanel.recognizes_of_parse hparse, ?_⟩
      rintro rfl holder type chart withFactors hchart
      have hhalf : Scalar.Finite (chart * 0.5) :=
        Double.finite_mul_of_le_one hchart (by decide +kernel) (by decide +kernel)
      rw [Bundle.incomingMultiplier_resist hparse, Scalar.saturate_of_finite hhalf]
  · intro e he p hp
    obtain ⟨htrim, hne⟩ := hspecies e he
    rw [← hp] at htrim hne ⊢
    have hname : Text.trim p.species ≠ "" := by rwa [htrim]
    have hneeds : ∀ part ∈ Tag.Kind.species.needs, p.trim.get part ≠ "" :=
      List.forall_mem_singleton.2 hname
    have hparse := Tag.Kind.parse_species (α := Float) hname
    refine ⟨_, Tag.Kind.build_eq_some_iff.2 ⟨hneeds, rfl⟩, fun hcolon => ?_, fun hcolon => ?_⟩
    · rw [if_pos hcolon] at hparse
      exact TagPanel.refuses_of_parse hparse
    · rw [if_neg hcolon, htrim] at hparse
      exact ⟨TagPanel.recognizes_of_parse hparse, hparse⟩

/-- A document with names that hold colons. -/
def nullDocument : Json Float :=
  .record
    [("types", .array
        [.record [("id", .number (.whole 1)), ("name", .string " Plain")],
          .record [("id", .number (.whole 2)), ("name", .string "Plain: Old")]]),
      ("species", .array [.record
        ([("id", .number (.whole 1)), ("name", .string "Type: Null"),
            ("type1_id", .number (.whole 1))]
          ++ Stat.all.map fun stat => (stat.key, .number (.whole 80)))])]

def plainType : TypeInfo := ⟨1, "Plain", none, false⟩

def oldType : TypeInfo := ⟨2, "Plain: Old", none, false⟩

def nullSpecies : Species Float := ⟨1, "Type: Null", 1, none, .const (.whole 80), 1, []⟩

/-- The game of that document. -/
def nullGame : Game Float :=
  { solo with
    name := untitled
    types := [plainType, oldType]
    species := [(1, nullSpecies)]
    box := []
    team := [none, none, none, none, none, none] }

theorem read_nullDocument : (read none nullDocument).result = .ok nullGame := by
  refine toOption_eq_some.1 ?_
  decide +kernel

theorem taggable_of_read_null :
    (∃ tag, (Tag.Kind.relation .resist).build ⟨"", plainType.name, "", ""⟩ = some tag ∧
      TagPanel.Recognizes tag ∧
      (Bundle.resolve (α := Float) [tag] []).incomingMultiplier " PLAIN" 2 true = 2 * 0.5) ∧
      ∃ tag, Tag.Kind.species.build ⟨"", "", nullSpecies.name, ""⟩ = some tag ∧
        TagPanel.Refuses tag := by
  have hplain : plainType ∈ nullGame.types := List.mem_cons_self
  have hnull : (1, nullSpecies) ∈ nullGame.species := List.mem_cons_self
  obtain ⟨htypes, hspecies⟩ := taggable_of_read read_nullDocument
  constructor
  · obtain ⟨tag, hbuild, -, hcolon⟩ :=
      htypes plainType hplain .resist ⟨"", plainType.name, "", ""⟩ rfl
    obtain ⟨hrecognizes, hhalf⟩ := hcolon (by decide)
    have hmultiplier := hhalf rfl [] " PLAIN" 2 true (by decide +kernel)
    rw [if_pos (by decide)] at hmultiplier
    exact ⟨tag, hbuild, hrecognizes, hmultiplier⟩
  · obtain ⟨tag, hbuild, hcolon, -⟩ :=
      hspecies (1, nullSpecies) hnull ⟨"", "", nullSpecies.name, ""⟩ rfl
    exact ⟨tag, hbuild, hcolon (by decide)⟩

/-- The tags that are built from names with a colon are ignored, for a type and for a species. -/
theorem ignored_names_of_read :
    (read none nullDocument).result = .ok nullGame ∧
      (∃ t ∈ nullGame.types, ∃ tag,
        (Tag.Kind.relation .resist).build ⟨"", t.name, "", ""⟩ = some tag ∧
          (Bundle.resolve (α := Float) [tag] []).ignored = [tag]) ∧
      ∃ e ∈ nullGame.species, ∃ tag,
        Tag.Kind.species.build ⟨"", "", e.2.name, ""⟩ = some tag ∧
          (Bundle.resolve (α := Float) [tag] []).ignored = [tag] ∧
          TagPanel.isIgnored tag = true := by
  refine ⟨read_nullDocument, ⟨oldType, ?_, "resist:Plain: Old", ?_⟩,
    ⟨(1, nullSpecies), ?_, "species:Type: Null", ?_⟩⟩
  · exact List.mem_cons_of_mem _ List.mem_cons_self
  · decide +kernel
  · exact List.mem_cons_self
  · decide +kernel

end Game

end Roster
