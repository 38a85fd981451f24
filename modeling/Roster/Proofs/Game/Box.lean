import Roster.Proofs.Game.Sections

/-!
# Games with another box

A box entry is read by itself: neither its place in the section nor what stands around it counts.
With other entries in the section a document is read to the same game but for the box and for the
slots of the team, of which those stay empty whose creature is not in the box any more.
-/

namespace Roster.Game

variable {α : Type}

/-! ### The box -/

/-- An item gives the same creature in every place. -/
theorem readBoxEntry_eq_ok_iff (site site' : Site) {v : Json α} {e : BoxEntry} :
    readBoxEntry site v = .ok e ↔ readBoxEntry site' v = .ok e := by
  unfold readBoxEntry
  simp only [bind_eq_ok, asRecord_eq_ok, wholeField_eq_ok_iff, wholeField?_eq_ok_iff]

/-- The creature that an item of the box gives. -/
def boxEntryOf? (v : Json α) : Option BoxEntry := (readBoxEntry ⟨"box", 0⟩ v).toOption

theorem readBoxEntry_iff_boxEntryOf? (site : Site) (v : Json α) (e : BoxEntry) :
    readBoxEntry site v = .ok e ↔ boxEntryOf? v = some e := by
  rw [readBoxEntry_eq_ok_iff site ⟨"box", 0⟩]
  exact toOption_eq_some.symm

/-- A document with other items in its box. -/
def withBox (items : List (Json α)) (r : Record α) : Record α := Keyed.put "box" (.array items) r

theorem member_withBox (items : List (Json α)) (r : Record α) {key : String}
    (h : (key : Text) ≠ "box") : Json.member key (withBox items r) = Json.member key r := by
  unfold Json.member Json.member? withBox
  rw [Keyed.get?_put_of_ne h.symm]

theorem member_box_withBox (items : List (Json α)) (r : Record α) :
    Json.member "box" (withBox items r) = .array items := by
  unfold Json.member Json.member? withBox
  rw [Keyed.get?_put_self]
  rfl

variable [Numeral α]

/-- The given name is no more than a name: whatever it is, a document is read to the same game. -/
theorem read_rename {given : Option Text} {v : Json α} {g : Game α}
    (h : (read given v).result = .ok g) (given' : Option Text) :
    ∃ name, (read given' v).result = .ok { g with name } := by
  cases v with
  | object r =>
    obtain ⟨types, chart, roll, entries, slots, settings, ht, hc, hr, he, hs, hset, rfl⟩ :=
      result_read_eq_ok_iff.1 h
    exact ⟨nameOf r given', result_read_eq_ok_iff.2
      ⟨types, chart, roll, entries, slots, settings, ht, hc, hr, he, hs, hset, rfl⟩⟩
  | _ => cases h

/-- With other items in the box that can be read, a document is read to the same game but for the
box and for the slots of the team. -/
theorem read_withBox {given : Option Text} {r : Record α} {g : Game α} {items : List (Json α)}
    (h : (read given (.object r)).result = .ok g) (hbox : Json.member "box" r = .array items) :
    (∀ v ∈ items, (boxEntryOf? v).isSome) ∧
    g.box = (items.filterMap boxEntryOf?).filter (hasSpecies g.species) ∧
    ∀ items' : List (Json α), (∀ v ∈ items', (boxEntryOf? v).isSome) →
      ∃ team, (read given (.object (withBox items' r))).result =
        .ok { g with
          box := (items'.filterMap boxEntryOf?).filter (hasSpecies g.species)
          team } := by
  obtain ⟨types, chart, roll, entries, slots, settings, ht, hc, hr, he, hs, hset, rfl⟩ :=
    result_read_eq_ok_iff.1 h
  have hitems {items : List (Json α)} {entries : List BoxEntry} :
      readItems "box" readBoxEntry items = .ok entries ↔
        (∀ v ∈ items, (boxEntryOf? v).isSome) ∧ items.filterMap boxEntryOf? = entries :=
    readItems_eq_ok_iff readBoxEntry_iff_boxEntryOf?
  rw [sectionItems_eq_ok hbox] at he
  obtain ⟨hall, rfl⟩ := hitems.1 he
  refine ⟨hall, rfl, fun items' hall' => ?_⟩
  have he' : (sectionItems "box" (withBox items' r) >>= readItems "box" readBoxEntry) =
      .ok (items'.filterMap boxEntryOf?) := by
    rw [sectionItems_eq_ok (member_box_withBox items' r)]
    exact hitems.2 ⟨hall', rfl⟩
  have hother {key : String} (hkey : (key : Text) ≠ "box") :
      Json.member key (withBox items' r) = Json.member key r := member_withBox items' r hkey
  rw [← readTypes_congr (hother (by decide))] at ht
  rw [← readChart_congr (hother (by decide))] at hc
  rw [← readRoll_congr (hother (by decide)) (hother (by decide)) (hother (by decide))
    (hother (by decide))] at hr
  rw [← teamItems_congr (hother (by decide))] at hs
  rw [← hother (by decide)] at hset
  refine ⟨fillTeam
      (settleSlots ((items'.filterMap boxEntryOf?).filter (hasSpecies roll.species)) slots),
    result_read_eq_ok_iff.2
      ⟨types, chart, roll, _, slots, settings, ht, hc, hr, he', hs, hset, ?_⟩⟩
  rw [nameOf_congr (hother (by decide))]

section Reread

variable {given : Option Text} {r : Record α} {g : Game α} {items items' : List (Json α)}
  (h : (read given (.object r)).result = .ok g) (hbox : Json.member "box" r = .array items)

include h hbox in
/-- The items of the box in another order give the creatures in another order. -/
theorem read_withBox_of_perm (hitems : items'.Perm items) :
    ∃ box team, (read given (.object (withBox items' r))).result = .ok { g with box, team } ∧
      box.Perm g.box := by
  obtain ⟨hall, hg, hread⟩ := read_withBox h hbox
  obtain ⟨team, ht⟩ := hread items' fun v hv => hall v (hitems.mem_iff.1 hv)
  refine ⟨_, team, ht, ?_⟩
  rw [hg]
  exact (hitems.filterMap boxEntryOf?).filter (hasSpecies g.species)

include h hbox in
/-- Some of the items of the box give some of the creatures. -/
theorem read_withBox_of_sublist (hitems : items'.Sublist items) :
    ∃ box team, (read given (.object (withBox items' r))).result = .ok { g with box, team } ∧
      box.Sublist g.box := by
  obtain ⟨hall, hg, hread⟩ := read_withBox h hbox
  obtain ⟨team, ht⟩ := hread items' fun v hv => hall v (hitems.mem hv)
  refine ⟨_, team, ht, ?_⟩
  rw [hg]
  exact (hitems.filterMap boxEntryOf?).filter (hasSpecies g.species)

end Reread

end Roster.Game
