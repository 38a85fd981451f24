import Roster.Proofs.Analysis.Team
import Roster.Proofs.Game.Origin
import Roster.Proofs.Game.Taggable

/-!
# Names of games and creatures

The types, species, abilities and items of a game that is loaded have proper names, and a creature
is shown under a name that is not blank: a nickname counts only if it is not, else the species gives
the name. The game itself has a proper name unless neither its document nor its origin gives more
than blanks. A name in the document is looked at without the blanks around it; one that the origin
gives counts as soon as it is not empty, and the blanks are taken off afterwards, so that nothing
may be left of it.
-/

namespace Roster

/-! ### Proper names -/

namespace Text

/-- A text with no blank at either end. -/
structure Unpadded (s : Text) : Prop where
  first : ∀ c ∈ s.toList.head?, c.satisfies isBlank = false
  last : ∀ c ∈ s.toList.getLast?, c.satisfies isBlank = false

/-- A text that is not empty, with no blank at either end. -/
structure Proper (s : Text) : Prop extends Unpadded s where
  nonempty : s ≠ ""

theorem dropWhile_eq_self_iff_head? {β : Type} {p : β → Bool} {s : List β} :
    s.dropWhile p = s ↔ ∀ c ∈ s.head?, p c = false := by
  cases s with
  | nil => simp
  | cons c rest =>
    rw [List.dropWhile_eq_self_iff]
    simp

/-- Trimming leaves a list as it is if it takes nothing off either end. -/
theorem trimBy_eq_self_iff {β : Type} {p : β → Bool} {s : List β} :
    trimBy p s = s ↔ (∀ c ∈ s.head?, p c = false) ∧ ∀ c ∈ s.getLast?, p c = false := by
  have hstart : trimStartBy p s = s ↔ ∀ c ∈ s.head?, p c = false := dropWhile_eq_self_iff_head?
  have hend : trimEndBy p s = s ↔ ∀ c ∈ s.getLast?, p c = false := by
    rw [trimEndBy, List.reverse_eq_iff, dropWhile_eq_self_iff_head?, List.head?_reverse]
  rw [← hstart, ← hend]
  constructor
  · intro h
    -- If nothing is lost of the whole, nothing was lost at the front, where more is left.
    have hback : trimBy p s <+: trimStartBy p s := List.rdropWhile_prefix p _
    have hlength : s.length ≤ (trimStartBy p s).length := by simpa only [h] using hback.length_le
    have hfront : trimStartBy p s = s := (List.dropWhile_suffix p).eq_of_length_le hlength
    exact ⟨hfront, by rwa [trimBy, hfront] at h⟩
  · rintro ⟨hfront, hback⟩
    rw [trimBy, hfront, hback]

theorem unpadded_iff {s : Text} : s.Unpadded ↔ trim s = s := by
  have hlist : trim s = s ↔ trimmed s.toList = s.toList :=
    ⟨congrArg toList, fun h => ext_toList h⟩
  rw [hlist, trimmed, trimBy_eq_self_iff]
  exact ⟨fun h => ⟨h.first, h.last⟩, fun h => ⟨h.1, h.2⟩⟩

theorem isEmpty_iff {s : Text} : s.isEmpty = true ↔ s = "" := by
  rw [Text.isEmpty, List.isEmpty_iff]
  exact ⟨fun h => ext_toList h, fun h => h ▸ rfl⟩

theorem IsName.proper {s : Text} (h : s.IsName) : s.Proper :=
  { unpadded_iff.2 h.trimmed with nonempty := h.nonempty }

theorem IsName.not_blank {s : Text} (h : s.IsName) : isBlankText s = false := by
  refine Bool.eq_false_iff.2 fun hblank => h.nonempty ?_
  rw [← h.trimmed]
  exact (trim_eq_empty_iff s).2 hblank

end Text

/-! ### Names of scores -/

namespace Analyzer

variable {α : Type} [Numeral α] {a : Analyzer α} {g : Game α}

/-- What is scored of a game: a box entry by itself, the box, or a slot of the team. -/
inductive Scores (a : Analyzer α) (g : Game α) : Score α → Prop where
  | entry {e : BoxEntry} {s : Score α} (he : e ∈ g.box) (h : a.score g e = .ok s) : Scores a g s
  | box {scores : List (Score α)} {s : Score α} (h : (a.box g).1 = .ok scores) (hs : s ∈ scores) :
    Scores a g s
  | team {report : TeamReport α} {s : Score α} (h : (a.team g).1 = .ok report)
    (hs : some s ∈ report.slots) : Scores a g s

/-- Every score is that of a box entry. -/
theorem Scores.exists_entry {s : Score α} (h : a.Scores g s) :
    ∃ e ∈ g.box, a.score g e = .ok s := by
  cases h with
  | entry he h => exact ⟨_, he, h⟩
  | box h hs =>
    obtain ⟨unranked, hall, rfl⟩ := exists_ranking_of_box h
    have hmem : s ∈ unranked := (Score.ranking_perm unranked).mem_iff.1 hs
    obtain ⟨i, hi⟩ := List.getElem?_of_mem hmem
    obtain ⟨e, he, hscore⟩ := getElem?_of_forall₂ (forall₂_of_scoreAll hall).flip hi
    exact ⟨e, List.mem_of_getElem? he, hscore⟩
  | team h hs =>
    obtain ⟨filled, hfilled, rfl⟩ := team_eq_ok_iff.1 h
    obtain ⟨i, hi⟩ := List.getElem?_of_mem hs
    obtain ⟨slot, -, hfills⟩ := getElem?_of_forall₂ (forall₂_of_scoreSlots hfilled).flip hi
    change Option.Rel _ _ _ at hfills
    cases he : slot.bind g.boxEntry? with
    | none =>
      rw [he] at hfills
      cases hfills
    | some e =>
      rw [he] at hfills
      cases hfills with
      | some hscore =>
        obtain ⟨id, -, hid⟩ := Option.bind_eq_some_iff.1 he
        exact ⟨e, List.mem_of_find?_eq_some hid, hscore⟩

/-- A score is shown under the nickname of its entry, or else under the name of its species. -/
theorem isBlankText_name_of_score {e : BoxEntry} {s : Score α} (h : a.score g e = .ok s)
    (hnickname : ∀ name ∈ e.nickname, Text.isBlankText name = false)
    (hspecies : ∀ e ∈ g.species, Text.isBlankText e.2.name = false) :
    Text.isBlankText s.name = false := by
  obtain ⟨species, p, hget, -, names, -, rfl⟩ := exists_potentials_of_score h
  change Text.isBlankText ((e.nickname.filter fun name => !name.isEmpty).getD species.name) = false
  cases hname : e.nickname.filter fun name => !name.isEmpty with
  | none => exact hspecies _ (Keyed.mem_of_get? hget)
  | some name => exact hnickname name (Option.mem_filter_iff.1 hname).1

end Analyzer

/-! ### Names that are read -/

namespace Game

variable {α : Type}

theorem textField?_eq_none_iff {key : String} {r : Record α} :
    textField? key r = none ↔
      ∀ s, Json.member key r = .string s → Text.isBlankText s = true := by
  unfold textField?
  split
  · rename_i s hs
    rw [hs]
    simp
  · rename_i hother
    exact iff_of_true rfl fun s hs => absurd hs (hother s)

theorem isBlankText_of_textField? {key : String} {r : Record α} {s : Text}
    (h : textField? key r = some s) : Text.isBlankText s = false := by
  unfold textField? at h
  split at h
  · obtain ⟨hblank, hs⟩ := Option.ite_none_left_eq_some.1 h
    rw [← Option.some.inj hs]
    exact Bool.not_eq_true _ ▸ hblank
  · cases h

/-- The name of a game is empty if its document has none and blanks are given. -/
theorem nameOf_eq_empty_iff {r : Record α} {given : Option Text} :
    nameOf r given = "" ↔ textField? "name" r = none ∧
      ∃ name ∈ given, name ≠ "" ∧ Text.isBlankText name = true := by
  have huntitled : Text.trim untitled ≠ "" := by decide +kernel
  unfold nameOf
  cases hfield : textField? "name" r with
  | some s => simp [Text.trim_eq_empty_iff, isBlankText_of_textField? hfield]
  | none =>
    cases given with
    | none => simpa using huntitled
    | some name =>
      by_cases hname : name = ""
      · have hempty : Text.isEmpty "" = true := rfl
        simpa [hname, Option.filter_some, hempty] using huntitled
      · have hkept : name.isEmpty = false := Bool.eq_false_iff.2 (mt Text.isEmpty_iff.1 hname)
        simp [Option.filter_some, hkept, hname, Text.trim_eq_empty_iff]

theorem unpadded_nameOf (r : Record α) (given : Option Text) : (nameOf r given).Unpadded := by
  unfold nameOf
  split
  · exact Text.unpadded_iff.2 (Tag.trim_trim _)
  · exact Text.unpadded_iff.2 (Tag.trim_trim _)

theorem isBlankText_nickname {site : Site} {v : Json α} {e : BoxEntry}
    (h : readBoxEntry site v = .ok e) : ∀ name ∈ e.nickname, Text.isBlankText name = false := by
  unfold readBoxEntry at h
  obtain ⟨r, -, h⟩ := bind_eq_ok.1 h
  obtain ⟨id, -, h⟩ := bind_eq_ok.1 h
  obtain ⟨species, -, h⟩ := bind_eq_ok.1 h
  obtain ⟨ability, -, h⟩ := bind_eq_ok.1 h
  obtain ⟨item, -, h⟩ := bind_eq_ok.1 h
  cases h
  exact fun name hname => isBlankText_of_textField? hname

variable [Numeral α]

theorem isName_of_readGear {site : Site} {v : Json α} {gear : Gear}
    (h : readGear site v = .ok gear) : gear.name.IsName := by
  unfold readGear at h
  obtain ⟨r, -, h⟩ := bind_eq_ok.1 h
  obtain ⟨id, -, h⟩ := bind_eq_ok.1 h
  obtain ⟨name, hname, h⟩ := bind_eq_ok.1 h
  obtain ⟨tags, -, h⟩ := bind_eq_ok.1 h
  cases h
  exact isName_of_nameField hname

/-- The abilities or items that a section gives have names. -/
theorem isName_of_gear {key : String} {r : Record α} {all : List Gear}
    (h : (sectionItems key r >>= readItems key readGear) = .ok all) :
    ∀ e ∈ Keyed.ofList (all.map fun gear => (gear.id, gear)), e.2.name.IsName := by
  intro e he
  obtain ⟨items, -, hitems⟩ := bind_eq_ok.1 h
  obtain ⟨gear, hgear, rfl⟩ := List.mem_map.1 (Keyed.mem_ofList he)
  obtain ⟨site, v, -, hv⟩ := mem_readItems hitems hgear
  exact isName_of_readGear hv

/-! ### Games that are loaded -/

/-- A game that is made of parts with proper names, and of which no creature is shown without a
name, whatever is analysed of it. -/
structure PartsNamed (g : Game α) : Prop where
  types : ∀ t ∈ g.types, t.name.Proper
  species : ∀ e ∈ g.species, e.2.name.Proper
  abilities : ∀ e ∈ g.abilities, e.2.name.Proper
  items : ∀ e ∈ g.items, e.2.name.Proper
  scores : ∀ (a : Analyzer α) (s : Score α), a.Scores g s → Text.isBlankText s.name = false

/-- A game with a proper name, made of parts with proper names. -/
structure Named (g : Game α) : Prop extends PartsNamed g where
  name : g.name.Proper

/-- Whether neither the document nor its origin has more than blanks for the game's name, but the
origin has blanks. -/
structure Origin.Nameless (o : Origin α) : Prop where
  document : ∀ r, o.document? = some (.object r) → ∀ s, Json.member "name" r = .string s →
    Text.isBlankText s = true
  given : o.GivesBlank

theorem partsNamed_of_read {given : Option Text} {v : Json α} {g : Game α}
    (h : (read given v).result = .ok g) : g.PartsNamed := by
  obtain ⟨htypes, hspecies⟩ := isName_of_read h
  cases v with
  | object r =>
    obtain ⟨types, chart, roll, entries, slots, settings, -, -, hr, he, -, -, rfl⟩ :=
      result_read_eq_ok_iff.1 h
    obtain ⟨species, abilities, items, changes, -, habilities, hitems, -, rfl⟩ :=
      readRoll_eq_ok_iff.1 hr
    refine ⟨fun t ht => (htypes t ht).proper, fun e he => (hspecies e he).proper,
      fun e he => (isName_of_gear habilities e he).proper,
      fun e he => (isName_of_gear hitems e he).proper, fun a s hs => ?_⟩
    -- The entry that is scored was read from an item of the document, not made up.
    obtain ⟨e, hmem, hscore⟩ := hs.exists_entry
    obtain ⟨boxItems, -, hbox⟩ := bind_eq_ok.1 he
    obtain ⟨site, v, -, hv⟩ := mem_readItems hbox (List.mem_of_mem_filter hmem)
    exact Analyzer.isBlankText_name_of_score hscore (isBlankText_nickname hv)
      fun e he => (hspecies e he).not_blank
  | _ => cases h

/-- A game that is loaded has a name without blanks around, which is empty if the game is
nameless. -/
theorem name_of_load {o : Origin α} {g : Game α} (h : o.load.result = .ok g) :
    g.name.Unpadded ∧ (g.name = "" ↔ o.Nameless) := by
  obtain ⟨v, hv, hread⟩ := Origin.load_eq_ok_iff.1 h
  cases v with
  | object r =>
    obtain ⟨types, chart, roll, entries, slots, settings, -, -, -, -, -, -, rfl⟩ :=
      result_read_eq_ok_iff.1 hread
    refine ⟨unpadded_nameOf r o.given?, ?_⟩
    change nameOf r o.given? = "" ↔ _
    rw [nameOf_eq_empty_iff, textField?_eq_none_iff, ← Origin.givesBlank_iff]
    -- The record is the only one that the origin leads to.
    constructor
    · rintro ⟨hdocument, hgiven⟩
      refine ⟨fun r' hr' => ?_, hgiven⟩
      obtain rfl : r = r' := Json.object.inj (Option.some.inj (hv.symm.trans hr'))
      exact hdocument
    · intro hnameless
      exact ⟨hnameless.document r hv, hnameless.given⟩
  | _ => cases hread

/-- Of every game that is loaded the types, species, abilities and items have proper names, and
whatever is scored of it has a name that is not blank. Its own name has no blanks around, and all is
named exactly if the game is not nameless. -/
theorem named_of_load_iff {o : Origin α} {g : Game α} (h : o.load.result = .ok g) :
    g.PartsNamed ∧ g.name.Unpadded ∧ (g.Named ↔ ¬ o.Nameless) := by
  obtain ⟨v, -, hread⟩ := Origin.load_eq_ok_iff.1 h
  have hparts := partsNamed_of_read hread
  obtain ⟨hunpadded, hempty⟩ := name_of_load h
  refine ⟨hparts, hunpadded, ?_⟩
  rw [← hempty]
  constructor
  · intro hnamed
    exact hnamed.name.nonempty
  · intro hname
    exact ⟨hparts, hunpadded, hname⟩

/-- The file of a game without a name of its own, with blanks around the names in it and a nickname
that is blank. -/
def namelessFile : List UInt8 :=
  let types := "\"types\": [\x7b\"id\": 1, \"name\": \" Plain\"\x7d], "
  let stats := "\"hp\": 80, \"atk\": 80, \"def\": 80, \"spa\": 80, \"spd\": 80, \"spe\": 80"
  let lone := "\"id\": 1, \"name\": \"Lone\\t\", \"type1_id\": 1, "
  let species := "\"species\": [\x7b" ++ lone ++ stats ++ "\x7d], "
  let abilities := "\"abilities\": [\x7b\"id\": 1, \"name\": \"\\u3000Glow\"\x7d], "
  let items := "\"items\": [\x7b\"id\": 1, \"name\": \"Bell \"\x7d], "
  let box := "\"box\": [\x7b\"id\": 1, \"species_id\": 1, \"nickname\": \" \"\x7d], "
  let name := "\"name\": \" \""
  ("\x7b" ++ types ++ species ++ abilities ++ items ++ box ++ name ++ "\x7d").toUTF8.data.toList

/-- That file at a path. -/
def namelessAt (path : Text) : Origin Float := .file path (.content namelessFile)

/-- The names in a game. -/
def namesIn (g : Game Float) : List Text :=
  g.name :: (g.types.map TypeInfo.name ++ g.species.map (fun e => e.2.name) ++
    g.abilities.map (fun e => e.2.name) ++ g.items.map fun e => e.2.name)

/-- The names that the creatures of the box are shown under. -/
def shownIn (g : Game Float) : Option (List Text) :=
  ((Analyzer.ofGame g g.settings.written).box g).1.toOption.map (List.map Score.name)

theorem named_of_load_first_run :
    ∃ g, (namelessAt "saves/my_first-run.json").load.result = .ok g ∧
      namesIn g = (["My First Run", "Plain", "Lone", "Glow", "Bell"] : List Text) ∧
      shownIn g = some (["Lone"] : List Text) ∧ g.Named := by
  have hload : ((namelessAt "saves/my_first-run.json").load.result.toOption.map fun g =>
      (namesIn g, shownIn g)) =
      some ((["My First Run", "Plain", "Lone", "Glow", "Bell"] : List Text),
        some (["Lone"] : List Text)) := by
    decide +kernel
  have hstem : ¬ (namelessAt "saves/my_first-run.json").GivesBlank := by
    unfold namelessAt Origin.GivesBlank
    decide +kernel
  obtain ⟨g, hg, hnames⟩ := Option.map_eq_some_iff.1 hload
  obtain ⟨hin, hshown⟩ := Prod.mk.inj hnames
  have hg := toOption_eq_some.1 hg
  obtain ⟨-, -, hnamed⟩ := named_of_load_iff hg
  exact ⟨g, hg, hin, hshown, hnamed.2 fun hnameless => hstem hnameless.given⟩

/-- At a path with a stem of underscores the file gives a game with an empty name. -/
theorem underscore_gives_no_name :
    ∃ g, (namelessAt "_.json").load.result = .ok g ∧ g.name = "" ∧ ¬ g.Named := by
  have hload : (namelessAt "_.json").load.result.toOption.map Game.name = some "" := by
    decide +kernel
  obtain ⟨g, hg, hname⟩ := Option.map_eq_some_iff.1 hload
  exact ⟨g, toOption_eq_some.1 hg, hname, fun hnamed => hnamed.name.nonempty hname⟩

end Game

end Roster
