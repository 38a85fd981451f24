import Roster.Proofs.Game.Overrun
import Roster.Proofs.Related

/-!
# Sections of a document

What a document is read to depends on a few of its members, each read by itself. A section is read
item by item; for items that are read alike in every place this is a relation between two lists.
-/

namespace Roster.Game

variable {α : Type}

/-! ### What a document says -/

/-- The whole number that a value has under a key, if it is an object with one there. -/
def wholeAt? (key : String) : Json α → Option Int
  | .object r =>
    match Json.member key r with
    | .number (.whole n) => some n
    | _ => none
  | _ => none

/-- The items of the list that a document has under a key. -/
def itemsAt (key : String) (r : Record α) : List (Json α) :=
  match Json.member key r with
  | .array items => items
  | _ => []

theorem wholeAt?_object {key : String} {r : Record α} {n : Int} :
    wholeAt? key (.object r) = some n ↔ Json.member key r = .number (.whole n) := by
  unfold wholeAt?
  dsimp only
  split <;> simp_all

theorem sectionItems_eq_ok {key : String} {r : Record α} {items : List (Json α)}
    (h : Json.member key r = .array items) : sectionItems key r = .ok items := by
  rw [sectionItems, h]

theorem itemsAt_of_sectionItems {key : String} {r : Record α} {items : List (Json α)}
    (h : sectionItems key r = .ok items) : itemsAt key r = items := by
  unfold sectionItems at h
  unfold itemsAt
  split at h
  · rename_i hm
    rw [hm]
    exact Except.ok.inj h
  · rename_i hm
    rw [hm]
    exact Except.ok.inj h
  · cases h

theorem itemsAt_of_requiredItems {key : String} {r : Record α} {items : List (Json α)}
    (h : requiredItems key r = .ok items) : itemsAt key r = items := by
  unfold requiredItems at h
  split at h
  · cases h
  · exact itemsAt_of_sectionItems h

theorem itemsAt_of_teamItems {r : Record α} {items : List (Json α)} (h : teamItems r = .ok items) :
    itemsAt "team" r = items := by
  unfold teamItems at h
  unfold itemsAt
  split at h
  · rename_i hm
    rw [hm]
    exact Except.ok.inj h
  · rename_i hm
    rw [hm]
    split at h
    · cases h
    · exact Except.ok.inj h
  · cases h

theorem wholeField?_eq_ok_iff {site : Site} {key : String} {r : Record α} {n : Option Int} :
    wholeField? site key r = .ok n ↔
      (Json.member key r = .null ∧ n = none) ∨
        ∃ m, Json.member key r = .number (.whole m) ∧ n = some m := by
  unfold wholeField?
  split <;> simp_all [eq_comm]

theorem wholeField_eq_ok_iff {site : Site} {key : String} {r : Record α} {n : Int} :
    wholeField site key r = .ok n ↔ Json.member key r = .number (.whole n) := by
  unfold wholeField
  rw [bind_eq_ok]
  constructor
  · rintro ⟨m, hm, h⟩
    rcases wholeField?_eq_ok_iff.1 hm with ⟨-, rfl⟩ | ⟨k, hk, rfl⟩
    · cases h
    · cases h
      exact hk
  · intro h
    exact ⟨some n, wholeField?_eq_ok_iff.2 (.inr ⟨n, h, rfl⟩), rfl⟩

theorem wholeAt?_of_wholeField? {site : Site} {key : String} {r : Record α} {n : Option Int}
    (h : wholeField? site key r = .ok n) : wholeAt? key (.object r) = n := by
  rcases wholeField?_eq_ok_iff.1 h with ⟨hnull, rfl⟩ | ⟨m, hm, rfl⟩
  · unfold wholeAt?
    dsimp only
    rw [hnull]
  · exact wholeAt?_object.2 hm

/-! ### Items -/

section Items

variable {β : Type} {key : String} {reader : Site → Json α → Except (Flaw α) β}

theorem readItems_eq_ok {items : List (Json α)} {xs : List β} :
    readItems key reader items = .ok xs ↔
      readUntilFlaw (fun index => reader ⟨key, index⟩) 0 items = (xs, none) := by
  unfold readItems
  split
  · rename_i h
    rw [h]
    simp
  · rename_i h
    rw [h]
    simp

/-- What is read of a section is read of its items, one by one. -/
theorem forall₂_of_readItems {items : List (Json α)} {xs : List β}
    (h : readItems key reader items = .ok xs) :
    List.Forall₂ (fun v x => ∃ site, reader site v = .ok x) items xs := by
  suffices hread : ∀ index, readUntilFlaw (fun index => reader ⟨key, index⟩) index items =
      (xs, none) → List.Forall₂ (fun v x => ∃ site, reader site v = .ok x) items xs from
    hread 0 (readItems_eq_ok.1 h)
  clear h
  induction items generalizing xs with
  | nil =>
    intro index h
    cases h
    exact .nil
  | cons v rest ih =>
    intro index h
    cases hv : reader ⟨key, index⟩ v with
    | error flaw =>
      rw [readUntilFlaw_of_error hv] at h
      cases h
    | ok x =>
      rw [readUntilFlaw_of_ok hv] at h
      obtain ⟨rfl, hflaw⟩ := Prod.mk.inj h
      exact .cons ⟨_, hv⟩ (ih (index + 1) (Prod.ext rfl hflaw))

/-- Items that are changed so that each is read to the image of what it was read to. -/
theorem readItems_map {f : Json α → Json α} {g : β → β}
    (hf : ∀ site v x, reader site v = .ok x → reader site (f v) = .ok (g x))
    {items : List (Json α)} {xs : List β} (h : readItems key reader items = .ok xs) :
    readItems key reader (items.map f) = .ok (xs.map g) := by
  suffices hread : ∀ index, readUntilFlaw (fun index => reader ⟨key, index⟩) index items =
      (xs, none) → readUntilFlaw (fun index => reader ⟨key, index⟩) index (items.map f) =
        (xs.map g, none) from readItems_eq_ok.2 (hread 0 (readItems_eq_ok.1 h))
  clear h
  induction items generalizing xs with
  | nil =>
    intro index h
    cases h
    rfl
  | cons v rest ih =>
    intro index h
    cases hv : reader ⟨key, index⟩ v with
    | error flaw =>
      rw [readUntilFlaw_of_error hv] at h
      cases h
    | ok x =>
      rw [readUntilFlaw_of_ok hv] at h
      obtain ⟨rfl, hflaw⟩ := Prod.mk.inj h
      rw [List.map_cons, readUntilFlaw_of_ok (hf _ v x hv),
        ih (index + 1) (Prod.ext rfl hflaw)]
      rfl

variable {read? : Json α → Option β} (hread : ∀ site v x, reader site v = .ok x ↔ read? v = some x)

include hread in
theorem readUntilFlaw_of_forall {items : List (Json α)} (h : ∀ v ∈ items, (read? v).isSome)
    (index : Nat) :
    readUntilFlaw (fun index => reader ⟨key, index⟩) index items =
      (items.filterMap read?, none) := by
  induction items generalizing index with
  | nil => rfl
  | cons v rest ih =>
    obtain ⟨hv, hrest⟩ := List.forall_mem_cons.1 h
    obtain ⟨x, hx⟩ := Option.isSome_iff_exists.1 hv
    rw [readUntilFlaw_of_ok ((hread ⟨key, index⟩ v x).2 hx), ih hrest, List.filterMap_cons_some hx]

include hread in
theorem isSome_of_readUntilFlaw {items : List (Json α)} {index : Nat}
    (h : (readUntilFlaw (fun index => reader ⟨key, index⟩) index items).2 = none) :
    ∀ v ∈ items, (read? v).isSome := by
  induction items generalizing index with
  | nil => exact fun _ hv => absurd hv List.not_mem_nil
  | cons v rest ih =>
    cases hv : reader ⟨key, index⟩ v with
    | error flaw =>
      rw [readUntilFlaw_of_error hv] at h
      cases h
    | ok x =>
      rw [readUntilFlaw_of_ok hv] at h
      exact List.forall_mem_cons.2 ⟨Option.isSome_of_eq_some ((hread _ v x).1 hv), ih h⟩

include hread in
/-- A section is read if each of its items is, and gives what they give. -/
theorem readItems_eq_ok_iff {items : List (Json α)} {xs : List β} :
    readItems key reader items = .ok xs ↔
      (∀ v ∈ items, (read? v).isSome) ∧ items.filterMap read? = xs := by
  constructor
  · intro h
    have hall := isSome_of_readUntilFlaw hread (exists_readItems_eq_ok.1 ⟨xs, h⟩)
    rw [readItems, readUntilFlaw_of_forall hread hall] at h
    exact ⟨hall, Except.ok.inj h⟩
  · rintro ⟨hall, rfl⟩
    rw [readItems, readUntilFlaw_of_forall hread hall]

include hread in
/-- A section is read to a list exactly if its items are read to the elements of the list. -/
theorem readItems_eq_ok_iff_forall₂ {items : List (Json α)} {xs : List β} :
    readItems key reader items = .ok xs ↔
      List.Forall₂ (fun v x => read? v = some x) items xs := by
  constructor
  · intro h
    exact (forall₂_of_readItems h).imp fun v x ⟨site, hx⟩ => (hread site v x).1 hx
  · intro h
    rw [readItems_eq_ok_iff hread]
    induction h with
    | nil => exact ⟨fun _ hv => absurd hv List.not_mem_nil, rfl⟩
    | cons hv _ ih =>
      refine ⟨List.forall_mem_cons.2 ⟨Option.isSome_of_eq_some hv, ih.1⟩, ?_⟩
      rw [List.filterMap_cons_some hv, ih.2]

end Items

/-! ### Documents that agree in a member -/

section Agree

variable {r r' : Record α}

theorem sectionItems_congr {key : String} (h : Json.member key r' = Json.member key r) :
    sectionItems key r' = sectionItems key r := by
  rw [sectionItems, sectionItems, h]

theorem requiredItems_congr {key : String} (h : Json.member key r' = Json.member key r) :
    requiredItems key r' = requiredItems key r := by
  rw [requiredItems, requiredItems, h, sectionItems_congr h]

theorem teamItems_congr (h : Json.member "team" r' = Json.member "team" r) :
    teamItems r' = teamItems r := by
  rw [teamItems, teamItems, h]

theorem nameOf_congr (h : Json.member "name" r' = Json.member "name" r) (given : Option Text) :
    nameOf r' given = nameOf r given := by
  rw [nameOf, nameOf, textField?, textField?, h]

variable [Numeral α]

theorem readTypes_congr (h : Json.member "types" r' = Json.member "types" r) :
    readTypes r' = readTypes r := by
  rw [readTypes, readTypes, requiredItems_congr h]

theorem readChart_congr (h : Json.member "chart" r' = Json.member "chart" r) :
    readChart r' = readChart r := by
  rw [readChart, readChart, sectionItems_congr h]

theorem readRoll_congr (hspecies : Json.member "species" r' = Json.member "species" r)
    (habilities : Json.member "abilities" r' = Json.member "abilities" r)
    (hitems : Json.member "items" r' = Json.member "items" r)
    (hoverrides : Json.member "overrides" r' = Json.member "overrides" r) :
    readRoll r' = readRoll r := by
  rw [readRoll, readRoll, requiredItems_congr hspecies, sectionItems_congr habilities,
    sectionItems_congr hitems, sectionItems_congr hoverrides]

end Agree

/-! ### Documents with a section changed -/

/-- A document with a list of it changed, if it has one under the key. -/
def editItems (key : String) (f : List (Json α) → List (Json α)) (r : Record α) : Record α :=
  match Json.member key r with
  | .array items => Keyed.put key (.array (f items)) r
  | _ => r

section Edit

variable {key : String} {f : List (Json α) → List (Json α)} {r : Record α}

theorem member_put_self (key : String) (v : Json α) (r : Record α) :
    Json.member key (Keyed.put (key : Text) v r) = v := by
  rw [Json.member, Json.member?, Keyed.get?_put_self, Option.getD_some]

theorem member_put_of_ne {key key' : String} (h : (key' : Text) ≠ key) (v : Json α)
    (r : Record α) : Json.member key (Keyed.put (key' : Text) v r) = Json.member key r := by
  rw [Json.member, Json.member?, Keyed.get?_put_of_ne h]
  rfl

theorem member_editItems_of_ne {key' : String} (h : (key : Text) ≠ key') :
    Json.member key' (editItems key f r) = Json.member key' r := by
  unfold editItems
  split
  · exact member_put_of_ne h _ r
  · rfl

theorem sectionItems_editItems {items : List (Json α)} (hnil : f [] = [])
    (h : sectionItems key r = .ok items) :
    sectionItems key (editItems key f r) = .ok (f items) := by
  unfold sectionItems at h
  unfold editItems
  split at h
  · rename_i hm
    obtain rfl := Except.ok.inj h
    rw [hm, sectionItems, hm, hnil]
  · rename_i hm
    obtain rfl := Except.ok.inj h
    rw [hm]
    exact sectionItems_eq_ok (member_put_self key _ r)
  · cases h

theorem requiredItems_editItems {items : List (Json α)} (h : requiredItems key r = .ok items) :
    requiredItems key (editItems key f r) = .ok (f items) := by
  unfold requiredItems sectionItems at h
  unfold editItems
  split at h
  · cases h
  · split at h
    · contradiction
    · rename_i hm
      obtain rfl := Except.ok.inj h
      rw [hm]
      unfold requiredItems sectionItems
      rw [member_put_self]
    · cases h

end Edit

/-! ### Ids of what is read -/

theorem wholeAt?_of_readBoxEntry {site : Site} {v : Json α} {e : BoxEntry}
    (h : readBoxEntry site v = .ok e) :
    wholeAt? "id" v = some e.id ∧ wholeAt? "species_id" v = some e.speciesId := by
  unfold readBoxEntry at h
  obtain ⟨r, hr, h⟩ := bind_eq_ok.1 h
  obtain ⟨id, hid, h⟩ := bind_eq_ok.1 h
  obtain ⟨species, hspecies, h⟩ := bind_eq_ok.1 h
  obtain ⟨ability, -, h⟩ := bind_eq_ok.1 h
  obtain ⟨item, -, h⟩ := bind_eq_ok.1 h
  cases h
  obtain rfl := asRecord_eq_ok.1 hr
  exact ⟨wholeAt?_object.2 (wholeField_eq_ok_iff.1 hid),
    wholeAt?_object.2 (wholeField_eq_ok_iff.1 hspecies)⟩

variable [Numeral α]

theorem wholeAt?_of_readType {site : Site} {v : Json α} {t : TypeInfo}
    (h : readType site v = .ok t) : wholeAt? "id" v = some t.id := by
  unfold readType at h
  obtain ⟨r, hr, h⟩ := bind_eq_ok.1 h
  obtain ⟨id, hid, h⟩ := bind_eq_ok.1 h
  obtain ⟨name, -, h⟩ := bind_eq_ok.1 h
  cases h
  obtain rfl := asRecord_eq_ok.1 hr
  exact wholeAt?_object.2 (wholeField_eq_ok_iff.1 hid)

theorem wholeAt?_of_readChartRow {site : Site} {v : Json α} {row : ChartRow α}
    (h : readChartRow site v = .ok row) :
    wholeAt? "attacking_type_id" v = some row.attacking ∧
      wholeAt? "defending_type_id" v = some row.defending := by
  unfold readChartRow at h
  obtain ⟨r, hr, h⟩ := bind_eq_ok.1 h
  obtain ⟨attacking, hattacking, h⟩ := bind_eq_ok.1 h
  obtain ⟨defending, hdefending, h⟩ := bind_eq_ok.1 h
  obtain ⟨amount, -, h⟩ := bind_eq_ok.1 h
  cases h
  obtain rfl := asRecord_eq_ok.1 hr
  exact ⟨wholeAt?_object.2 (wholeField_eq_ok_iff.1 hattacking),
    wholeAt?_object.2 (wholeField_eq_ok_iff.1 hdefending)⟩

theorem wholeAt?_of_readSpecies {site : Site} {v : Json α} {s : Species α}
    (h : readSpecies site v = .ok s) : wholeAt? "id" v = some s.id := by
  unfold readSpecies at h
  obtain ⟨r, hr, h⟩ := bind_eq_ok.1 h
  obtain ⟨id, hid, h⟩ := bind_eq_ok.1 h
  obtain ⟨name, -, h⟩ := bind_eq_ok.1 h
  obtain ⟨type1, -, h⟩ := bind_eq_ok.1 h
  obtain ⟨type2, -, h⟩ := bind_eq_ok.1 h
  obtain ⟨stats, -, h⟩ := bind_eq_ok.1 h
  obtain ⟨dex, -, h⟩ := bind_eq_ok.1 h
  obtain ⟨tags, -, h⟩ := bind_eq_ok.1 h
  cases h
  obtain rfl := asRecord_eq_ok.1 hr
  exact wholeAt?_object.2 (wholeField_eq_ok_iff.1 hid)

/-! ### The game -/

/-- What is read between the chart and the box: four lists. -/
theorem readRoll_eq_ok_iff {r : Record α} {roll : Roll α} :
    readRoll r = .ok roll ↔
      ∃ species abilities items changes,
        (requiredItems "species" r >>= readItems "species" readSpecies) = .ok species ∧
        (sectionItems "abilities" r >>= readItems "abilities" readGear) = .ok abilities ∧
        (sectionItems "items" r >>= readItems "items" readGear) = .ok items ∧
        (sectionItems "overrides" r >>= readItems "overrides" readChange) = .ok changes ∧
        (⟨.ofList (species.map fun s => (s.id, s)), .ofList (abilities.map fun a => (a.id, a)),
          .ofList (items.map fun i => (i.id, i)),
          .ofList (changes.map fun c => (c.speciesId, c))⟩ : Roll α) = roll := by
  unfold readRoll
  simp only [bind_eq_ok]
  constructor
  · rintro ⟨vs, hvs, species, hs, va, hva, abilities, ha, vi, hvi, items, hi, vc, hvc, changes, hc,
      h⟩
    exact ⟨species, abilities, items, changes, ⟨vs, hvs, hs⟩, ⟨va, hva, ha⟩, ⟨vi, hvi, hi⟩,
      ⟨vc, hvc, hc⟩, Except.ok.inj h⟩
  · rintro ⟨species, abilities, items, changes, ⟨vs, hvs, hs⟩, ⟨va, hva, ha⟩, ⟨vi, hvi, hi⟩,
      ⟨vc, hvc, hc⟩, rfl⟩
    exact ⟨vs, hvs, species, hs, va, hva, abilities, ha, vi, hvi, items, hi, vc, hvc, changes, hc,
      rfl⟩

/-- What is read of a document: the sections in their order, and then the game that they make. -/
theorem result_read_eq_ok_iff {given : Option Text} {r : Record α} {g : Game α} :
    (read given (.object r)).result = .ok g ↔
      ∃ types chart roll entries slots settings,
        readTypes r = .ok types ∧ readChart r = .ok chart ∧ readRoll r = .ok roll ∧
        (sectionItems "box" r >>= readItems "box" readBoxEntry) = .ok entries ∧
        (teamItems r >>= readItems "team" fun site => readSlot site.index) = .ok slots ∧
        Settings.ofJson (Json.member "settings" r) = .ok settings ∧
        { name := nameOf r given, types, chart, species := roll.species
          abilities := roll.abilities, items := roll.items, changes := roll.changes
          box := entries.filter (hasSpecies roll.species)
          team := fillTeam (settleSlots (entries.filter (hasSpecies roll.species)) slots)
          settings } = g := by
  rw [result_read_object]
  simp only [result_readBoxAndTeam, bind_eq_ok, mapError_eq_ok]
  constructor
  · rintro ⟨types, ht, chart, hc, roll, hr, entries, he, slots, hs, settings, hset, h⟩
    exact ⟨types, chart, roll, entries, slots, settings, ht, hc, hr, he, hs, hset, Except.ok.inj h⟩
  · rintro ⟨types, chart, roll, entries, slots, settings, ht, hc, hr, he, hs, hset, rfl⟩
    exact ⟨types, ht, chart, hc, roll, hr, entries, he, slots, hs, settings, hset, rfl⟩

/-- What is reported of a document whose sections are read: first of the chart, then of the box,
then of the team. -/
theorem notices_read (given : Option Text) {r : Record α} {types : List TypeInfo}
    {chart : List (ChartRow α)} {roll : Roll α} {entries : List BoxEntry}
    {slots : List (Option Int)} (ht : readTypes r = .ok types) (hc : readChart r = .ok chart)
    (hr : readRoll r = .ok roll)
    (he : (sectionItems "box" r >>= readItems "box" readBoxEntry) = .ok entries)
    (hs : (teamItems r >>= readItems "team" fun site => readSlot site.index) = .ok slots) :
    (read given (.object r)).notices =
      chartNotices types chart ++ (boxNotices roll.species entries ++
        slotNotices (entries.filter (hasSpecies roll.species)) 1 slots) := by
  obtain ⟨boxItems, hbox, he⟩ := bind_eq_ok.1 he
  obtain ⟨teamItems', hteam, hs⟩ := bind_eq_ok.1 hs
  have he := readItems_eq_ok.1 he
  have hs : readUntilFlaw readSlot 0 teamItems' = (slots, none) := readItems_eq_ok.1 hs
  unfold read readBoxAndTeam
  simp only [ht, hc, hr, hbox, he, hteam, hs]
  cases Settings.ofJson (Json.member "settings" r) <;> rfl

/-- A document whose sections are all read, with what is reported of it. -/
theorem read_eq (given : Option Text) {r : Record α} {types : List TypeInfo}
    {chart : List (ChartRow α)} {roll : Roll α} {entries : List BoxEntry}
    {slots : List (Option Int)} {settings : Settings α} (ht : readTypes r = .ok types)
    (hc : readChart r = .ok chart) (hr : readRoll r = .ok roll)
    (he : (sectionItems "box" r >>= readItems "box" readBoxEntry) = .ok entries)
    (hs : (teamItems r >>= readItems "team" fun site => readSlot site.index) = .ok slots)
    (hset : Settings.ofJson (Json.member "settings" r) = .ok settings) :
    read given (.object r) =
      ⟨.ok
        { name := nameOf r given, types, chart, species := roll.species
          abilities := roll.abilities, items := roll.items, changes := roll.changes
          box := entries.filter (hasSpecies roll.species)
          team := fillTeam (settleSlots (entries.filter (hasSpecies roll.species)) slots)
          settings },
        chartNotices types chart ++ (boxNotices roll.species entries ++
          slotNotices (entries.filter (hasSpecies roll.species)) 1 slots)⟩ :=
  congrArg₂ Reading.mk
    (result_read_eq_ok_iff.2
      ⟨types, chart, roll, entries, slots, settings, ht, hc, hr, he, hs, hset, rfl⟩)
    (notices_read given ht hc hr he hs)

end Roster.Game
