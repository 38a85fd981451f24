import Roster.Proofs.Game.Box
import Roster.Proofs.Game.WellFormed

/-!
# Normalized documents

A document can be read although it refers to what is not there: box items of no species are left out
and team slots without a box item are emptied, each with a report. The normalized document says so
itself. It is read to the same game, and of the reports those on the chart are left.
-/

namespace Roster

namespace Game

variable {α : Type}

/-! ### References of a document -/

/-- The ids of the items in a section. -/
def idsAt (key : String) (r : Record α) : List Int := (itemsAt key r).filterMap (wholeAt? "id")

/-- Whether a value has one of some ids under a key. -/
def refersTo (key : String) (ids : List Int) (v : Json α) : Bool :=
  (wholeAt? key v).any fun id => decide (id ∈ ids)

/-- Whether a row of the chart is of two types of the document. -/
def isOfTypes (r : Record α) (v : Json α) : Bool :=
  refersTo "attacking_type_id" (idsAt "types" r) v &&
    refersTo "defending_type_id" (idsAt "types" r) v

/-- Whether an item of the box is of a species of the document. -/
def isOfSpecies (r : Record α) (v : Json α) : Bool :=
  refersTo "species_id" (idsAt "species" r) v

/-- The ids of the box items that are of a species of the document. -/
def boxIds (r : Record α) : List Int :=
  ((itemsAt "box" r).filter (isOfSpecies r)).filterMap (wholeAt? "id")

/-- The box id in a slot of the team. -/
def slotId? : Json α → Option Int
  | .number (.whole n) => some n
  | _ => none

/-- Whether a slot of the team has an id of none of the box items that are of a species. -/
def isDangling (r : Record α) (v : Json α) : Bool :=
  (slotId? v).any fun id => !decide (id ∈ boxIds r)

/-- The slots of the team in full, without the ids that dangle. -/
def normalizedTeam (r : Record α) : List (Json α) :=
  let slots := (itemsAt "team" r).map fun v => if isDangling r v then .null else v
  slots ++ List.replicate (teamSize - slots.length) .null

/-- A document without box items of no species, and with a full team in which no id dangles. -/
def normalized (r : Record α) : Record α :=
  Keyed.put "team" (.array (normalizedTeam r)) (editItems "box" (List.filter (isOfSpecies r)) r)

/-- The reports on a document: one for each row of the chart that is not of two types, each item of
the box that is of no species and each slot of the team that dangles, in their order. -/
structure Logged (r : Record α) (chart box team : List Notice) : Prop where
  chart : List.Forall₂
    (fun v notice => ∃ attacking defending, wholeAt? "attacking_type_id" v = some attacking ∧
      wholeAt? "defending_type_id" v = some defending ∧ notice = .chartRow attacking defending)
    ((itemsAt "chart" r).filter fun v => !isOfTypes r v) chart
  box : List.Forall₂
    (fun v notice => ∃ id species, wholeAt? "id" v = some id ∧
      wholeAt? "species_id" v = some species ∧ notice = .boxEntry id species)
    ((itemsAt "box" r).filter fun v => !isOfSpecies r v) box
  team : List.Forall₂
    (fun v notice => ∃ id, slotId? v.1 = some id ∧ notice = .teamSlot v.2 id)
    (((itemsAt "team" r).zipIdx 1).filter fun v => isDangling r v.1) team

/-! ### Slots and ids that are read -/

theorem refersTo_of_eq {key : String} {ids : List Int} {v : Json α} {id : Int}
    (h : wholeAt? key v = some id) : refersTo key ids v = decide (id ∈ ids) := by
  rw [refersTo, h, Option.any_some]

theorem readSlot_eq_ok_iff {index : Nat} {v : Json α} {slot : Option Int} :
    readSlot index v = .ok slot ↔
      (v = .null ∧ slot = none) ∨ ∃ n, v = .number (.whole n) ∧ slot = some n := by
  unfold readSlot
  split <;> simp_all [eq_comm]

/-- The slot that an item of the team gives. -/
def slotOf? (v : Json α) : Option (Option Int) := (readSlot 0 v).toOption

theorem readSlot_iff_slotOf? (site : Site) (v : Json α) (slot : Option Int) :
    readSlot site.index v = .ok slot ↔ slotOf? v = some slot := by
  rw [slotOf?, toOption_eq_some, readSlot_eq_ok_iff, readSlot_eq_ok_iff]

theorem slotId?_of_slotOf? {v : Json α} {slot : Option Int} (h : slotOf? v = some slot) :
    slotId? v = slot := by
  rw [slotOf?, toOption_eq_some, readSlot_eq_ok_iff] at h
  rcases h with ⟨rfl, rfl⟩ | ⟨n, rfl, rfl⟩
  · rfl
  · rfl

section Read

variable {r : Record α}

theorem forall₂_boxEntryOf? {entries : List BoxEntry}
    (h : (sectionItems "box" r >>= readItems "box" readBoxEntry) = .ok entries) :
    List.Forall₂ (fun v e => boxEntryOf? v = some e) (itemsAt "box" r) entries := by
  obtain ⟨items, hitems, h⟩ := bind_eq_ok.1 h
  rw [itemsAt_of_sectionItems hitems]
  exact (readItems_eq_ok_iff_forall₂ readBoxEntry_iff_boxEntryOf?).1 h

theorem forall₂_slotOf? {slots : List (Option Int)}
    (h : (teamItems r >>= readItems "team" fun site => readSlot site.index) = .ok slots) :
    List.Forall₂ (fun v slot => slotOf? v = some slot) (itemsAt "team" r) slots := by
  obtain ⟨items, hitems, h⟩ := bind_eq_ok.1 h
  rw [itemsAt_of_teamItems hitems]
  exact (readItems_eq_ok_iff_forall₂ readSlot_iff_slotOf?).1 h

variable [Numeral α]

theorem idsAt_types {types : List TypeInfo} (h : readTypes r = .ok types) :
    idsAt "types" r = types.map TypeInfo.id := by
  unfold readTypes at h
  obtain ⟨items, hitems, h⟩ := bind_eq_ok.1 h
  obtain ⟨types', ht, h⟩ := bind_eq_ok.1 h
  split at h
  · cases h
  · obtain rfl := Except.ok.inj h
    rw [idsAt, itemsAt_of_requiredItems hitems]
    exact filterMap_eq_map_of_forall₂ (forall₂_of_readItems ht)
      fun v t ⟨site, hv⟩ => wholeAt?_of_readType hv

theorem mem_idsAt_species {roll : Roll α} (h : readRoll r = .ok roll) (id : Int) :
    id ∈ idsAt "species" r ↔ (Keyed.get? id roll.species).isSome := by
  obtain ⟨species, abilities, gear, changes, hspecies, -, -, -, rfl⟩ := readRoll_eq_ok_iff.1 h
  obtain ⟨items, hitems, hs⟩ := bind_eq_ok.1 hspecies
  have hids : (items.filterMap (wholeAt? "id")) = species.map Species.id :=
    filterMap_eq_map_of_forall₂ (forall₂_of_readItems hs)
      fun v s ⟨site, hv⟩ => wholeAt?_of_readSpecies hv
  rw [Keyed.isSome_get?_ofList, idsAt, itemsAt_of_requiredItems hitems, hids, List.map_map]
  rfl

/-! ### Reports on the chart -/

theorem forall₂_chartNotices {types : List TypeInfo} {chart : List (ChartRow α)}
    (ht : readTypes r = .ok types) (hc : readChart r = .ok chart) :
    List.Forall₂
      (fun v notice => ∃ attacking defending, wholeAt? "attacking_type_id" v = some attacking ∧
        wholeAt? "defending_type_id" v = some defending ∧ notice = .chartRow attacking defending)
      ((itemsAt "chart" r).filter fun v => !isOfTypes r v) (chartNotices types chart) := by
  unfold readChart at hc
  obtain ⟨items, hitems, hc⟩ := bind_eq_ok.1 hc
  have hany (id : Int) : (types.any fun t => t.id == id) = decide (id ∈ idsAt "types" r) := by
    rw [idsAt_types ht, Bool.eq_iff_iff, decide_eq_true_iff]
    simp
  rw [itemsAt_of_sectionItems hitems]
  unfold chartNotices
  dsimp only
  rw [List.forall₂_map_right_iff]
  refine (List.rel_filter (fun v row hrow => ?_) (forall₂_of_readItems hc)).imp fun v row hrow => ?_
  · obtain ⟨site, hv⟩ := hrow
    obtain ⟨hattacking, hdefending⟩ := wholeAt?_of_readChartRow hv
    dsimp only
    rw [isOfTypes, refersTo_of_eq hattacking, refersTo_of_eq hdefending, hany, hany]
  · obtain ⟨site, hv⟩ := hrow
    obtain ⟨hattacking, hdefending⟩ := wholeAt?_of_readChartRow hv
    exact ⟨_, _, hattacking, hdefending, rfl⟩

/-! ### The box -/

variable {roll : Roll α} {items : List (Json α)} {entries : List BoxEntry}

theorem isOfSpecies_eq (hr : readRoll r = .ok roll) {v : Json α} {e : BoxEntry}
    (h : boxEntryOf? v = some e) : isOfSpecies r v = hasSpecies roll.species e := by
  obtain ⟨-, hspecies⟩ := wholeAt?_of_readBoxEntry (toOption_eq_some.1 h)
  rw [isOfSpecies, refersTo_of_eq hspecies, hasSpecies, Bool.eq_iff_iff, decide_eq_true_iff,
    mem_idsAt_species hr]

theorem forall₂_boxNotices (hr : readRoll r = .ok roll)
    (h : List.Forall₂ (fun v e => boxEntryOf? v = some e) items entries) :
    List.Forall₂
      (fun v notice => ∃ id species, wholeAt? "id" v = some id ∧
        wholeAt? "species_id" v = some species ∧ notice = .boxEntry id species)
      (items.filter fun v => !isOfSpecies r v) (boxNotices roll.species entries) := by
  unfold boxNotices
  rw [List.forall₂_map_right_iff]
  refine (List.rel_filter (fun v e hv => ?_) h).imp fun v e hv => ?_
  · dsimp only
    rw [isOfSpecies_eq hr hv]
  · obtain ⟨hid, hspecies⟩ := wholeAt?_of_readBoxEntry (toOption_eq_some.1 hv)
    exact ⟨_, _, hid, hspecies, rfl⟩

/-- The box items that stay give the box entries that stay. -/
theorem forall₂_filter_isOfSpecies (hr : readRoll r = .ok roll)
    (h : List.Forall₂ (fun v e => boxEntryOf? v = some e) items entries) :
    List.Forall₂ (fun v e => boxEntryOf? v = some e) (items.filter (isOfSpecies r))
      (entries.filter (hasSpecies roll.species)) :=
  List.rel_filter (fun _ _ hv => iff_of_eq (congrArg (· = true) (isOfSpecies_eq hr hv))) h

omit [Numeral α] in
theorem boxNotices_filter (species : Keyed Int (Species α)) (entries : List BoxEntry) :
    boxNotices species (entries.filter (hasSpecies species)) = [] := by
  unfold boxNotices
  rw [List.filter_filter, List.map_eq_nil_iff, List.filter_eq_nil_iff]
  intro e _
  cases hasSpecies species e <;> decide

theorem boxIds_eq (hr : readRoll r = .ok roll)
    (h : List.Forall₂ (fun v e => boxEntryOf? v = some e) (itemsAt "box" r) entries) :
    boxIds r = (entries.filter (hasSpecies roll.species)).map BoxEntry.id :=
  filterMap_eq_map_of_forall₂ (forall₂_filter_isOfSpecies hr h)
    fun _ _ hv => (wholeAt?_of_readBoxEntry (toOption_eq_some.1 hv)).1

end Read

/-! ### The team -/

section Team

variable {box : List BoxEntry} {slots : List (Option Int)}

/-- A slot dangles if its id is none of the box. -/
theorem isDangling_eq {r : Record α} (hbox : boxIds r = box.map BoxEntry.id) {v : Json α}
    {slot : Option Int} (h : slotOf? v = some slot) : isDangling r v = !slotHolds box slot := by
  rw [isDangling, slotId?_of_slotOf? h, hbox]
  cases slot with
  | none => rfl
  | some id =>
    rw [Option.any_some, slotHolds, Option.all_some]
    refine congrArg not (Bool.eq_iff_iff.2 ?_)
    rw [decide_eq_true_iff]
    simp

theorem forall₂_slotNotices {r : Record α} (hbox : boxIds r = box.map BoxEntry.id)
    {items : List (Json α)} (h : List.Forall₂ (fun v slot => slotOf? v = some slot) items slots)
    (number : Nat) :
    List.Forall₂ (fun v notice => ∃ id, slotId? v.1 = some id ∧ notice = .teamSlot v.2 id)
      ((items.zipIdx number).filter fun v => isDangling r v.1) (slotNotices box number slots) := by
  induction h generalizing number with
  | nil => exact .nil
  | @cons v slot rest slots hv _ ih =>
    have hdangling := isDangling_eq hbox hv
    have hid := slotId?_of_slotOf? hv
    rw [List.zipIdx_cons]
    unfold slotNotices
    cases slot with
    | none =>
      rw [List.filter_cons_of_neg (by simp [hdangling, slotHolds])]
      exact ih (number + 1)
    | some id =>
      dsimp only
      split
      · rename_i hholds
        rw [List.filter_cons_of_neg (by simp [hdangling, hholds])]
        exact ih (number + 1)
      · rename_i hholds
        rw [List.filter_cons_of_pos (by simp [hdangling, hholds])]
        exact .cons ⟨id, hid, rfl⟩ (ih (number + 1))

theorem slotHolds_of_settled {slot : Option Int} (h : slot ∈ fillTeam (settleSlots box slots)) :
    slotHolds box slot = true := by
  rcases List.mem_append.1 h with h | h
  · obtain ⟨slot', -, rfl⟩ := List.mem_map.1 h
    split
    · assumption
    · rfl
  · rw [List.eq_of_mem_replicate h]
    rfl

theorem settleSlots_of_holds (h : ∀ slot ∈ slots, slotHolds box slot = true) :
    settleSlots box slots = slots :=
  (List.map_congr_left fun slot hslot => if_pos (h slot hslot)).trans (List.map_id slots)

theorem slotNotices_of_holds (h : ∀ slot ∈ slots, slotHolds box slot = true) (number : Nat) :
    slotNotices box number slots = [] := by
  induction slots generalizing number with
  | nil => rfl
  | cons slot rest ih =>
    obtain ⟨hslot, hrest⟩ := List.forall_mem_cons.1 h
    unfold slotNotices
    cases slot with
    | none => exact ih hrest (number + 1)
    | some id =>
      dsimp only
      rw [if_pos hslot]
      exact ih hrest (number + 1)

theorem fillTeam_of_length (h : slots.length = teamSize) : fillTeam slots = slots := by
  rw [fillTeam, h, Nat.sub_self, List.replicate_zero, List.append_nil]

/-- The slots of a normalized team are read to the team that was read before. -/
theorem forall₂_normalizedTeam {r : Record α} (hbox : boxIds r = box.map BoxEntry.id)
    (h : List.Forall₂ (fun v slot => slotOf? v = some slot) (itemsAt "team" r) slots) :
    List.Forall₂ (fun v slot => slotOf? v = some slot) (normalizedTeam r)
      (fillTeam (settleSlots box slots)) := by
  have hslots : List.Forall₂ (fun v slot => slotOf? v = some slot)
      ((itemsAt "team" r).map fun v => if isDangling r v then .null else v)
      (settleSlots box slots) := by
    unfold settleSlots
    rw [List.forall₂_map_left_iff, List.forall₂_map_right_iff]
    refine h.imp fun v slot hv => ?_
    rw [isDangling_eq hbox hv]
    cases slotHolds box slot with
    | true => exact hv
    | false => rfl
  have hnulls (n : Nat) : List.Forall₂ (fun (v : Json α) slot => slotOf? v = some slot)
      (List.replicate n .null) (List.replicate n none) := by
    induction n with
    | zero => exact .nil
    | succ n ih => exact .cons rfl ih
  unfold normalizedTeam fillTeam
  dsimp only
  rw [hslots.length_eq]
  exact List.rel_append hslots (hnulls _)

end Team

/-! ### The document -/

section Document

variable {r : Record α}

/-- All but box and team is as it was. -/
theorem member_normalized {key : String} (h : (key : Text) ∉ (["box", "team"] : List Text)) :
    Json.member key (normalized r) = Json.member key r := by
  rw [List.mem_cons, List.mem_singleton, not_or] at h
  exact (member_put_of_ne (Ne.symm h.2) _ _).trans (member_editItems_of_ne (Ne.symm h.1))

variable [Numeral α]

/-- The box items that stay are read to the box entries that stay. -/
theorem readBox_normalized {roll : Roll α} {entries : List BoxEntry} (hr : readRoll r = .ok roll)
    (h : (sectionItems "box" r >>= readItems "box" readBoxEntry) = .ok entries) :
    (sectionItems "box" (normalized r) >>= readItems "box" readBoxEntry) =
      .ok (entries.filter (hasSpecies roll.species)) := by
  have hentries := forall₂_boxEntryOf? h
  obtain ⟨items, hitems, -⟩ := bind_eq_ok.1 h
  rw [itemsAt_of_sectionItems hitems] at hentries
  have hkept : sectionItems "box" (normalized r) = .ok (items.filter (isOfSpecies r)) :=
    (sectionItems_congr (member_put_of_ne (by decide) _ _)).trans
      (sectionItems_editItems rfl hitems)
  exact bind_eq_ok.2 ⟨_, hkept, (readItems_eq_ok_iff_forall₂ readBoxEntry_iff_boxEntryOf?).2
    (forall₂_filter_isOfSpecies hr hentries)⟩

/-- The full team is read to itself. -/
theorem readTeam_normalized {box : List BoxEntry} {slots : List (Option Int)}
    (hbox : boxIds r = box.map BoxEntry.id)
    (h : (teamItems r >>= readItems "team" fun site => readSlot site.index) = .ok slots) :
    (teamItems (normalized r) >>= readItems "team" fun site => readSlot site.index) =
        .ok (fillTeam (settleSlots box slots)) ∧
      (fillTeam (settleSlots box slots)).length = teamSize := by
  have hslots := forall₂_normalizedTeam hbox (forall₂_slotOf? h)
  obtain ⟨items, hitems, -⟩ := bind_eq_ok.1 h
  have hlength : (normalizedTeam r).length = teamSize := by
    have hle : (itemsAt "team" r).length ≤ teamSize :=
      itemsAt_of_teamItems hitems ▸ length_teamItems_le hitems
    unfold normalizedTeam
    dsimp only
    rw [List.length_append, List.length_replicate, List.length_map]
    omega
  have hteam : teamItems (normalized r) = .ok (normalizedTeam r) := by
    have hmember : Json.member "team" (normalized r) = .array (normalizedTeam r) :=
      member_put_self "team" _ _
    rw [teamItems, hmember]
    dsimp only
    rw [if_neg (by omega)]
  exact ⟨bind_eq_ok.2 ⟨_, hteam, (readItems_eq_ok_iff_forall₂ readSlot_iff_slotOf?).2 hslots⟩,
    hslots.length_eq.symm.trans hlength⟩

end Document

variable [Numeral α]

/-- A document that is read is reported on once for every reference that leads nowhere, first of the
chart, then of the box, then of the team. Normalized it is read to the same game, and only the
reports on the chart come up again. -/
theorem normalized_of_read {given : Option Text} {r : Record α} {g : Game α}
    (h : (read given (.object r)).result = .ok g) :
    ∃ chart box team, Logged r chart box team ∧
      (read given (.object r)).notices = chart ++ box ++ team ∧
      read given (.object (normalized r)) = ⟨.ok g, chart⟩ := by
  obtain ⟨types, chart, roll, entries, slots, settings, ht, hc, hr, he, hs, hset, hg⟩ :=
    result_read_eq_ok_iff.1 h
  have hentries := forall₂_boxEntryOf? he
  have hids := boxIds_eq hr hentries
  refine ⟨chartNotices types chart, boxNotices roll.species entries,
    slotNotices (entries.filter (hasSpecies roll.species)) 1 slots,
    ⟨forall₂_chartNotices ht hc, forall₂_boxNotices hr hentries,
      forall₂_slotNotices hids (forall₂_slotOf? hs) 1⟩,
    by rw [notices_read given ht hc hr he hs, List.append_assoc], ?_⟩
  -- All sections of the normalized document are read as before, but for box and team.
  have hother {key : String} (hkey : (key : Text) ∉ (["box", "team"] : List Text)) :
      Json.member key (normalized r) = Json.member key r := member_normalized hkey
  have ht' := (readTypes_congr (hother (by decide))).trans ht
  have hc' := (readChart_congr (hother (by decide))).trans hc
  have hr' := (readRoll_congr (hother (by decide)) (hother (by decide)) (hother (by decide))
    (hother (by decide))).trans hr
  have he' := readBox_normalized hr he
  obtain ⟨hs', hfull⟩ := readTeam_normalized hids hs
  have hset' := (congrArg Settings.ofJson (hother (by decide))).trans hset
  have hbox : (entries.filter (hasSpecies roll.species)).filter (hasSpecies roll.species) =
      entries.filter (hasSpecies roll.species) := by
    simp only [List.filter_filter, Bool.and_self]
  rw [read_eq given ht' hc' hr' he' hs' hset', hbox, boxNotices_filter,
    settleSlots_of_holds fun slot => slotHolds_of_settled, fillTeam_of_length hfull,
    slotNotices_of_holds fun slot => slotHolds_of_settled, List.append_nil, List.append_nil,
    nameOf_congr (hother (by decide)), hg]

/-- A box item of a species. -/
def itemOf (id species : Int) : Json Float :=
  .record [("id", .number (.whole id)), ("species_id", .number (.whole species))]

/-- A document in which a row of the chart, two items of the box and a slot of the team lead
nowhere. Of the ids of these items one is also that of an item that stays. -/
def strayMembers : Record Float :=
  [("types", .array [.record [("id", .number (.whole 1)), ("name", .string "Plain")]]),
    ("chart", .array [.record
      [("attacking_type_id", .number (.whole 1)), ("defending_type_id", .number (.whole 5)),
        ("multiplier", .number (.whole 2))]]),
    ("species", .array [.record
      ([("id", .number (.whole 1)), ("name", .string "Lone"), ("type1_id", .number (.whole 1))]
        ++ Stat.all.map fun stat => (stat.key, .number (.whole 80)))]),
    ("box", .array [itemOf 1 9, itemOf 1 1, itemOf 2 9]),
    ("team", .array [.number (.whole 1), .number (.whole 2), .null])]

theorem read_strayMembers :
    ∃ g, (read none (.object strayMembers)).result = .ok g ∧ g.box.map BoxEntry.id = [1] ∧
      g.team = [some 1, none, none, none, none, none] := by
  have h : (read none (.object strayMembers)).result.toOption.map
      (fun g => (g.box.map BoxEntry.id, g.team)) =
      some ([1], [some 1, none, none, none, none, none]) := by
    decide +kernel
  obtain ⟨g, hg, hgame⟩ := Option.map_eq_some_iff.1 h
  exact ⟨g, toOption_eq_some.1 hg, congrArg Prod.fst hgame, congrArg Prod.snd hgame⟩

/-- Each of them is reported once, and only the row again when the document is normalized. -/
theorem normalized_of_read_stray :
    ∃ g, (read none (.object strayMembers)).result = .ok g ∧
      (read none (.object strayMembers)).notices =
        [.chartRow 1 5, .boxEntry 1 9, .boxEntry 2 9, .teamSlot 2 2] ∧
      read none (.object (normalized strayMembers)) = ⟨.ok g, [.chartRow 1 5]⟩ := by
  obtain ⟨g, hg, -, -⟩ := read_strayMembers
  obtain ⟨chart, box, team, hlogged, -, hread⟩ := normalized_of_read hg
  have hrows : (itemsAt "chart" strayMembers).filter (fun v => !isOfTypes strayMembers v) =
      itemsAt "chart" strayMembers := rfl
  have hchart := hlogged.chart
  rw [hrows] at hchart
  obtain ⟨notice, _, ⟨attacking, defending, ha, hd, rfl⟩, hnil, rfl⟩ :=
    List.forall₂_cons_left_iff.1 hchart
  cases hnil
  cases ha
  cases hd
  exact ⟨g, hg, by decide +kernel, hread⟩

end Game

end Roster
