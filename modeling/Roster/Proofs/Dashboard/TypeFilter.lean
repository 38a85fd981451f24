import Roster.Dashboard.BoxPanel
import Roster.Proofs.Analysis.Ranking
import Roster.Proofs.Analysis.Search
import Roster.Proofs.Double.Laws

/-!
# The type filter of the dashboard

An option of the filter stands for the last type of its name; the option for any type is one of them
and stands for no type unless a type has its name. So the filter covers the types, whatever is in
the box, exactly if no type has the name of that option, and the id of every type is that of the
last type of some name.
-/

namespace Roster

open Game Scalar

/-- Whether a creature has a type in either slot. -/
def Score.hasType {α : Type} (id : Int) (s : Score α) : Bool := s.type1 == id || s.type2 == some id

theorem Score.hasType_plain_iff {α : Type} [Scalar α] {name : Text} {id id' : Int} :
    (plain name id none : Score α).hasType id' = true ↔ id = id' := by
  simp [hasType, plain]

/-- Whether a type is the last one of its name. -/
def LastOfName (types : List TypeInfo) (t : TypeInfo) : Prop :=
  ∃ before behind, types = before ++ t :: behind ∧ ∀ u ∈ behind, u.name ≠ t.name

theorem lastOfName_iff {types : List TypeInfo} {t : TypeInfo} :
    LastOfName types t ↔ types.reverse.find? (fun u => u.name = t.name) = some t := by
  rw [List.find?_eq_some_iff_append]
  constructor
  · rintro ⟨before, behind, rfl, hbehind⟩
    refine ⟨decide_eq_true rfl, behind.reverse, before.reverse, by simp, fun u hu => ?_⟩
    simpa using hbehind u (List.mem_reverse.1 hu)
  · rintro ⟨-, behind, before, htypes, hbehind⟩
    refine ⟨before.reverse, behind.reverse, ?_, fun u hu => ?_⟩
    · rw [← List.reverse_reverse types, htypes, List.reverse_append, List.reverse_cons,
        List.append_assoc, List.singleton_append]
    · simpa using hbehind u (List.mem_reverse.1 hu)

/-- Where names are apart every type is the last one of its name. -/
theorem lastOfName_of_nodup {types : List TypeInfo} (h : (types.map TypeInfo.name).Nodup)
    {t : TypeInfo} (ht : t ∈ types) : LastOfName types t := by
  obtain ⟨before, behind, rfl⟩ := List.append_of_mem ht
  refine ⟨before, behind, rfl, fun u hu hname => ?_⟩
  rw [List.map_append, List.map_cons] at h
  have hnot := (List.nodup_cons.1 (List.nodup_append.1 h).2.1).1
  exact hnot (hname ▸ List.mem_map_of_mem hu)

namespace Dashboard.BoxPanel

/-! ### What the options stand for -/

theorem get?_typeOptions (types : List TypeInfo) (name : Text) :
    Keyed.get? name (typeOptions types) =
      ((types.reverse.find? fun t => t.name = name).map fun t => some t.id).or
        (if name = anyType then some none else none) := by
  rw [typeOptions, Keyed.get?_ofList, List.reverse_cons, List.find?_append, ← List.map_reverse,
    List.find?_map, Option.map_or, Option.map_map]
  by_cases h : name = anyType
  · subst h
    rfl
  · rw [if_neg h, List.find?_cons_of_neg (by simpa using Ne.symm h)]
    rfl

theorem get?_typeOptions_eq_type_iff {types : List TypeInfo} {name : Text} {id : Int} :
    Keyed.get? name (typeOptions types) = some (some id) ↔
      ∃ t, LastOfName types t ∧ t.name = name ∧ t.id = id := by
  rw [get?_typeOptions]
  constructor
  · intro h
    cases hfind : types.reverse.find? fun t => t.name = name with
    | none =>
      rw [hfind, Option.map_none, Option.none_or] at h
      split at h <;> cases h
    | some t =>
      rw [hfind] at h
      have hname : t.name = name := by simpa using List.find?_some hfind
      subst hname
      exact ⟨t, lastOfName_iff.2 hfind, rfl, Option.some.inj (Option.some.inj h)⟩
  · rintro ⟨t, ht, rfl, rfl⟩
    rw [lastOfName_iff.1 ht]
    rfl

theorem get?_typeOptions_anyType_iff {types : List TypeInfo} :
    Keyed.get? anyType (typeOptions types) = some none ↔ ∀ t ∈ types, t.name ≠ anyType := by
  rw [get?_typeOptions, if_pos rfl]
  cases hfind : types.reverse.find? fun t => t.name = anyType with
  | none => simpa using hfind
  | some t =>
    have hname : t.name = anyType := by simpa using List.find?_some hfind
    have ht : t ∈ types := List.mem_reverse.1 (List.mem_of_find?_eq_some hfind)
    exact iff_of_false (fun h => by cases Option.some.inj h) fun h => h t ht hname

/-! ### Choosing an option -/

/-- Widgets with an option chosen, no text to search for and no least rank. -/
structure Chosen (m : Memory) (types : List TypeInfo) (option : Text) : Prop where
  offered : option ∈ Keyed.keys (typeOptions types)
  chosen : (m.valueOf (typeChoice types)).toChoice = some option
  noSearch : (m.valueOf searchInput).toText = ""
  noLeast : IsZero (m.valueOf rankInput).toNumber

/-- Every option can be chosen, and stands for a type or for none. -/
theorem exists_chosen {types : List TypeInfo} {option : Text}
    (h : option ∈ Keyed.keys (typeOptions types)) :
    ∃ m type, Chosen m types option ∧ Keyed.get? option (typeOptions types) = some type := by
  let m : Memory := [((typeChoice types).id, .choice (some option))]
  have hother {w : Widget} (hw : (typeChoice types).id ≠ w.id) :
      m.valueOf w = w.control.firstValue := by
    rw [Memory.valueOf, Keyed.get?, if_neg hw]
    rfl
  obtain ⟨type, htype⟩ := Option.isSome_iff_exists.1 (Keyed.get?_isSome_iff.2 h)
  refine ⟨m, type, ⟨h, ?_, ?_, ?_⟩, htype⟩
  · rw [Memory.valueOf, Keyed.get?, if_pos rfl]
    rfl
  · rw [hother fun he => by cases congrArg WidgetId.kind he]
    rfl
  · rw [hother fun he => by cases congrArg WidgetId.kind he]
    exact ⟨zero_le_zero, zero_le_zero⟩

/-- With an option chosen the creatures of the type that it stands for are shown, or all of them. -/
theorem apply_filter_of_chosen {m : Memory} {types : List TypeInfo} {option : Text}
    {type : Option Int} (h : Chosen m types option)
    (htype : Keyed.get? option (typeOptions types) = some type) (scores : List (Score Float)) :
    (filter m types).apply scores = scores.filter fun s => type.all fun id => s.hasType id := by
  have hfilter : filter m types = { type } := by
    simp only [filter, h.chosen, h.noSearch, if_pos h.noLeast, Option.bind_some, htype,
      Option.join_some]
  rw [hfilter]
  refine List.filter_congr fun s _ => ?_
  have hsearch : BoxFilter.fitsSearch "" s = true := rfl
  rw [BoxFilter.fits, hsearch, Bool.true_and, Option.all_none, Bool.and_true]
  rfl

/-! ### Types that are covered -/

/-- Whether the options cover the types of a box: the one for any type shows all creatures, and for
every type some option shows exactly those that have it. -/
structure Covers (types : List TypeInfo) (scores : List (Score Float)) : Prop where
  any : ∀ m, Chosen m types anyType → (filter m types).apply scores = scores
  each : ∀ t ∈ types, ∃ option ∈ Keyed.keys (typeOptions types), ∀ m, Chosen m types option →
    (filter m types).apply scores = scores.filter fun s => s.hasType t.id

/-- Whether the options of a filter stand for all types apart: none has the name of the option for
any type, and every id is that of the last type of some name. -/
def Apart (types : List TypeInfo) : Prop :=
  (∀ t ∈ types, t.name ≠ anyType) ∧ ∀ t ∈ types, ∃ u, LastOfName types u ∧ u.id = t.id

theorem anyType_mem_keys (types : List TypeInfo) : anyType ∈ Keyed.keys (typeOptions types) :=
  Keyed.mem_keys_ofList.2 List.mem_cons_self

theorem covers_of_apart {types : List TypeInfo} (h : Apart types) (scores : List (Score Float)) :
    Covers types scores := by
  obtain ⟨hany, heach⟩ := h
  constructor
  · intro m hm
    rw [apply_filter_of_chosen hm (get?_typeOptions_anyType_iff.2 hany)]
    exact List.filter_eq_self.2 fun _ _ => rfl
  · intro t ht
    obtain ⟨u, hu, hid⟩ := heach t ht
    have hget := get?_typeOptions_eq_type_iff.2 ⟨u, hu, rfl, hid⟩
    refine ⟨u.name, Keyed.get?_isSome_iff.1 (Option.isSome_of_eq_some hget), fun m hm => ?_⟩
    rw [apply_filter_of_chosen hm hget]
    rfl

/-- The options cover types with names that are apart, none of them that of the option for any. -/
theorem covers_of_nodup {types : List TypeInfo} (hnames : (types.map TypeInfo.name).Nodup)
    (hany : ∀ t ∈ types, t.name ≠ anyType) (scores : List (Score Float)) : Covers types scores :=
  covers_of_apart ⟨hany, fun t ht => ⟨t, lastOfName_of_nodup hnames ht, rfl⟩⟩ scores

/-- Two creatures, one of a type and one of another. -/
def couple (id : Int) : List (Score Float) := [.plain "" id none, .plain "" (id + 1) none]

/-- What shows one of the two alone is the filter by its type. -/
theorem eq_of_filter_couple {type : Option Int} {id : Int}
    (h : (couple id).filter (fun s => type.all fun id' => s.hasType id') =
      (couple id).filter fun s => s.hasType id) : type = some id := by
  have hsame : ∀ s ∈ couple id,
      (type.all fun id' => s.hasType id') = true ↔ s.hasType id = true := by
    intro s hs
    have hmem : s ∈ (couple id).filter (fun s => type.all fun id' => s.hasType id') ↔
        s ∈ (couple id).filter fun s => s.hasType id := by rw [h]
    rwa [List.mem_filter, List.mem_filter, and_iff_right hs, and_iff_right hs] at hmem
  cases type with
  | none =>
    have hother := (hsame _ (List.mem_cons_of_mem _ List.mem_cons_self)).1 rfl
    have hid := Score.hasType_plain_iff.1 hother
    omega
  | some id' =>
    have hone := (hsame _ List.mem_cons_self).2 (Score.hasType_plain_iff.2 rfl)
    rw [Score.hasType_plain_iff.1 hone]

/-- The options of the type filter cover the types, whatever is in the box, exactly if no type has
the name of the option for any type, and the id of every type is that of the last type of some
name. -/
theorem type_filter_covers_iff (types : List TypeInfo) :
    (∀ scores, Covers types scores) ↔ Apart types := by
  refine ⟨fun h => ⟨?_, fun t ht => ?_⟩, covers_of_apart⟩
  -- An option for any type that stood for one would not show a creature of the next id.
  · obtain ⟨m, type, hm, htype⟩ := exists_chosen (anyType_mem_keys types)
    cases type with
    | none => exact get?_typeOptions_anyType_iff.1 htype
    | some id =>
      have hall := (h [.plain "" (id + 1) none]).any m hm
      rw [apply_filter_of_chosen hm htype, List.filter_eq_self] at hall
      have hid := Score.hasType_plain_iff.1 (hall _ (List.mem_singleton_self _))
      omega
  · obtain ⟨option, hoption, hshown⟩ := (h (couple t.id)).each t ht
    obtain ⟨m, type, hm, htype⟩ := exists_chosen hoption
    have hcouple := hshown m hm
    rw [apply_filter_of_chosen hm htype] at hcouple
    obtain rfl := eq_of_filter_couple hcouple
    obtain ⟨u, hu, -, hid⟩ := get?_typeOptions_eq_type_iff.1 htype
    exact ⟨u, hu, hid⟩

/-- A document with a creature of one type and another type that has the name of the option. -/
def anyMembers : Record Float :=
  Keyed.put "types"
    (.array
      [.record [("id", .number (.whole 1)), ("name", .string "Plain")],
        .record [("id", .number (.whole 2)), ("name", .string "Any")]])
    (withBox [boxItem 1] pairMembers)

/-- The game of that document. -/
def anyGame : Game Float :=
  { solo with
    name := untitled
    types := [⟨1, "Plain", none, false⟩, ⟨2, "Any", none, false⟩]
    team := [none, none, none, none, none, none] }

/-- From the start its page has the option for any type chosen, and does not show the creature. -/
theorem any_shows_nothing :
    (read none (.object anyMembers)).result = .ok anyGame ∧
      Chosen [] anyGame.types anyType ∧
      ∃ s, ((Analyzer.ofGame anyGame anyGame.settings.written).box anyGame).1 = .ok [s] ∧
        (filter [] anyGame.types).apply [s] = [] := by
  have hread : (read none (.object anyMembers)).result = .ok anyGame :=
    toOption_eq_some.1 (by decide +kernel)
  have hchosen : Chosen [] anyGame.types anyType :=
    ⟨by decide, rfl, rfl, zero_le_zero, zero_le_zero⟩
  obtain ⟨s, hs⟩ := Analyzer.exists_score (wellFormed_of_read hread)
    (Potentials.scalarSettings?_written anyGame.settings) (e := soloEntry)
    (List.mem_singleton.2 rfl) (showsTypes_of_read (by decide +kernel) hread _)
  have hall : ∀ e ∈ anyGame.box, ∃ s,
      (Analyzer.ofGame anyGame anyGame.settings.written).score anyGame e = .ok s :=
    List.forall_mem_singleton.2 ⟨s, hs⟩
  have hscores : anyGame.box.filterMap
      ((Analyzer.ofGame anyGame anyGame.settings.written).score? anyGame) = [s] :=
    List.filterMap_cons_some (Analyzer.score?_eq_some_iff.2 hs)
  have htypes : s.type1 = 1 ∧ s.type2 = none := by
    obtain ⟨species, p, hspecies, -, names, -, rfl⟩ := Analyzer.exists_potentials_of_score hs
    obtain rfl := Option.some.inj hspecies
    exact ⟨rfl, rfl⟩
  refine ⟨hread, hchosen, s, ?_, ?_⟩
  · rw [Analyzer.box_eq_ok_ranking hall, hscores, Score.ranking, List.mergeSort_singleton]
  · have hany : Keyed.get? anyType (typeOptions anyGame.types) = some (some 2) := by decide
    rw [apply_filter_of_chosen hchosen hany]
    simp [Score.hasType, htypes]

end Dashboard.BoxPanel

end Roster
