import Roster.Proofs.Analysis.Ranking

/-!
# The report on a team

A report runs along the team of its game: what is in a slot, in the matrix and among the numbers of
the empty slots is there for the same place. A creature that several slots name is in all of them,
and where ids are given twice it is the first one of the box.
-/

namespace Roster

/-- Related lists have related elements in the same places. -/
theorem getElem?_of_forall₂ {β γ : Type} {R : β → γ → Prop} {l : List β} {l' : List γ}
    (h : List.Forall₂ R l l') {i : Nat} {x : β} (hx : l[i]? = some x) :
    ∃ y, l'[i]? = some y ∧ R x y := by
  induction h generalizing i with
  | nil => cases hx
  | @cons _ y _ _ hxy _ ih =>
    cases i with
    | zero =>
      cases hx
      exact ⟨y, rfl, hxy⟩
    | succ i => exact ih hx

namespace TeamReport

variable {α : Type}

/-! ### Empty slots -/

/-- The numbers of the empty ones among slots that are counted from a number on. -/
def emptyFrom (first : Nat) (slots : List (Option (Score α))) : List Nat :=
  (slots.zipIdx first).filterMap fun (slot, number) => if slot.isNone then some number else none

theorem mem_emptyFrom {first n : Nat} {slots : List (Option (Score α))} :
    n ∈ emptyFrom first slots ↔ first ≤ n ∧ slots[n - first]? = some none := by
  unfold emptyFrom
  rw [List.mem_filterMap]
  constructor
  · rintro ⟨⟨slot, number⟩, hmem, hn⟩
    obtain ⟨hnone, hnumber⟩ := Option.ite_none_right_eq_some.1 hn
    obtain rfl : slot = none := Option.isNone_iff_eq_none.1 hnone
    obtain rfl : number = n := Option.some.inj hnumber
    exact List.mk_mem_zipIdx_iff_le_and_getElem?_sub.1 hmem
  · intro h
    exact ⟨(none, n), List.mk_mem_zipIdx_iff_le_and_getElem?_sub.2 h, rfl⟩

theorem pairwise_emptyFrom (first : Nat) (slots : List (Option (Score α))) :
    (emptyFrom first slots).Pairwise (· < ·) := by
  induction slots generalizing first with
  | nil => exact .nil
  | cons slot rest ih =>
    cases slot with
    | some s => exact ih (first + 1)
    | none => exact .cons (fun n hn => (mem_emptyFrom.1 hn).1) (ih (first + 1))

/-! ### Alignment -/

/-- A report that runs along the team of a game whose box entries have scores, listed in the order
of the box. Slots are counted from one among the numbers of the empty ones. -/
structure Aligned (g : Game α) (scores : List (Score α)) (r : TeamReport α) : Prop where
  slots_length : r.slots.length = teamSize
  slot_empty (i : Nat) : r.slots[i]? = some none ↔ g.team[i]? = some none
  /-- The score of a slot is that of the first box entry with its id. -/
  slot_filled {i : Nat} {id : Int} : g.team[i]? = some (some id) →
    ∃ j s, g.box.findIdx? (fun e => e.id = id) = some j ∧ scores[j]? = some s ∧
      r.slots[i]? = some (some s)
  emptySlots_increasing : r.emptySlots.Pairwise (· < ·)
  mem_emptySlots (n : Nat) : n ∈ r.emptySlots ↔ 1 ≤ n ∧ g.team[n - 1]? = some none
  matrix_types : r.matrix.map MatrixRow.type = g.visible
  coverage_types : r.coverage.map CoverageRow.type = g.visible
  row_length : ∀ row ∈ r.matrix, row.multipliers.length = teamSize
  cell_empty : ∀ row ∈ r.matrix, ∀ i : Nat,
    row.multipliers[i]? = some none ↔ g.team[i]? = some none

end TeamReport

namespace Coverage

variable {α : Type} [Numeral α]

theorem type_count (row : CoverageRow) (x : α) : (CoverageRow.count row x).type = row.type := by
  unfold CoverageRow.count
  split
  · rfl
  · split
    · rfl
    · split <;> rfl

/-- However many multipliers are counted, a row stays that of its type. -/
theorem type_summaryRow (members : List TeamMember) (chart : TypeChart α) (attacker : TypeInfo) :
    (summaryRow members chart attacker).type = attacker := by
  have hcounts (cells : List α) (row : CoverageRow) :
      (cells.foldl CoverageRow.count row).type = row.type := by
    induction cells generalizing row with
    | nil => rfl
    | cons x cells ih => exact (ih (CoverageRow.count row x)).trans (type_count row x)
  exact hcounts _ _

end Coverage

/-! ### Slots -/

/-- The entry with an id is at the first place where the id is. -/
theorem Game.findIdx?_of_boxEntry? {α : Type} {g : Game α} {id : Int} {e : BoxEntry}
    (h : g.boxEntry? id = some e) :
    ∃ j, g.box.findIdx? (fun e => e.id = id) = some j ∧ g.box[j]? = some e := by
  obtain ⟨hid, j, hj, he, hbefore⟩ := List.find?_eq_some_iff_getElem.1 h
  refine ⟨j, List.findIdx?_eq_some_iff_getElem.2 ⟨hj, he ▸ hid, fun k hk => ?_⟩, ?_⟩
  · simpa using hbefore k hk
  · rw [List.getElem?_eq_getElem hj, he]

namespace Analyzer

variable {α : Type} [Numeral α] {a : Analyzer α} {g : Game α}

/-- What a slot of the team is filled with: the score of the box entry that it leads to, or nothing.
-/
def Fills (a : Analyzer α) (g : Game α) (slot : Option Int) (filled : Option (Score α)) : Prop :=
  Option.Rel (fun e s => a.score g e = .ok s) (slot.bind g.boxEntry?) filled

/-- Slots that are scored are filled one by one. -/
theorem forall₂_of_scoreSlots {slots : List (Option Int)} {filled : List (Option (Score α))}
    (h : (a.scoreSlots g slots).1 = .ok filled) : List.Forall₂ (a.Fills g) slots filled := by
  induction slots generalizing filled with
  | nil =>
    cases h
    exact .nil
  | cons slot rest ih =>
    unfold scoreSlots at h
    cases he : slot.bind g.boxEntry? with
    | none =>
      simp only [he] at h
      obtain ⟨more, hmore, rfl⟩ := map_eq_ok.1 h
      exact .cons (show Option.Rel _ _ _ from he ▸ .none) (ih hmore)
    | some e =>
      simp only [he] at h
      cases hs : a.score g e with
      | error fault =>
        simp only [hs] at h
        cases h
      | ok s =>
        simp only [hs] at h
        obtain ⟨more, hmore, rfl⟩ := map_eq_ok.1 h
        exact .cons (show Option.Rel _ _ _ from he ▸ .some hs) (ih hmore)

theorem team_eq_ok_iff {r : TeamReport α} :
    (a.team g).1 = .ok r ↔ ∃ filled, (a.scoreSlots g g.team).1 = .ok filled ∧ a.report filled = r :=
  map_eq_ok

/-- The matrix of scored slots has a place for every slot, with nothing for the empty ones. -/
theorem multipliers_report {filled : List (Option (Score α))} {row : MatrixRow α}
    (h : row ∈ (a.report filled).matrix) :
    row.multipliers.length = filled.length ∧
      ∀ i : Nat, row.multipliers[i]? = some none ↔ filled[i]? = some none := by
  obtain ⟨t, -, rfl⟩ := List.mem_map.1 h
  constructor
  · exact (List.length_map _).trans (List.length_map _)
  · intro i
    change (List.map _ (List.map _ filled))[i]? = some none ↔ _
    rw [List.getElem?_map, List.getElem?_map]
    cases filled[i]? with
    | none => exact iff_of_false (Option.some_ne_none _).symm (Option.some_ne_none _).symm
    | some slot => cases slot <;> simp

/-- The ids in the team of a well-formed game lead to box entries. -/
theorem exists_boxEntry? (hg : g.WellFormed) {id : Int} (h : some id ∈ g.team) :
    ∃ e, g.boxEntry? id = some e := by
  obtain ⟨e, he, hid⟩ := hg.team _ h id rfl
  exact Option.isSome_iff_exists.1 (List.find?_isSome.2 ⟨e, he, decide_eq_true hid⟩)

/-- So nothing is in a slot only where it is empty. -/
theorem fills_none_iff (hg : g.WellFormed) {slot : Option Int} (hslot : slot ∈ g.team)
    {filled : Option (Score α)} (h : a.Fills g slot filled) : filled = none ↔ slot = none := by
  cases slot with
  | none =>
    cases h
    exact iff_of_true rfl rfl
  | some id =>
    obtain ⟨e, he⟩ := exists_boxEntry? hg hslot
    have h : Option.Rel _ (g.boxEntry? id) filled := h
    rw [he] at h
    cases h
    exact iff_of_false (Option.some_ne_none _) (Option.some_ne_none _)

theorem getElem?_eq_none_iff_of_fills (hg : g.WellFormed) {filled : List (Option (Score α))}
    (h : List.Forall₂ (a.Fills g) g.team filled) (i : Nat) :
    filled[i]? = some none ↔ g.team[i]? = some none := by
  constructor
  · intro hfilled
    obtain ⟨slot, hslot, hfills⟩ := getElem?_of_forall₂ h.flip hfilled
    rw [hslot, (fills_none_iff hg (List.mem_of_getElem? hslot) hfills).1 rfl]
  · intro hslot
    obtain ⟨s, hs, hfills⟩ := getElem?_of_forall₂ h hslot
    rw [hs, (fills_none_iff hg (List.mem_of_getElem? hslot) hfills).2 rfl]

/-- A slot with an id holds the score of the first box entry that has the id. -/
theorem exists_findIdx?_of_fills (hg : g.WellFormed) {scores : List (Score α)}
    (hscores : List.Forall₂ (fun e s => a.score g e = .ok s) g.box scores)
    {filled : List (Option (Score α))} (h : List.Forall₂ (a.Fills g) g.team filled) {i : Nat}
    {id : Int} (hid : g.team[i]? = some (some id)) :
    ∃ j s, g.box.findIdx? (fun e => e.id = id) = some j ∧ scores[j]? = some s ∧
      filled[i]? = some (some s) := by
  obtain ⟨slot, hslot, hfills⟩ := getElem?_of_forall₂ h hid
  obtain ⟨e, he⟩ := exists_boxEntry? hg (List.mem_of_getElem? hid)
  obtain ⟨j, hj, hbox⟩ := Game.findIdx?_of_boxEntry? he
  obtain ⟨s, hs, hscore⟩ := getElem?_of_forall₂ hscores hbox
  have hfills : Option.Rel _ (g.boxEntry? id) slot := hfills
  rw [he] at hfills
  cases hfills with
  | some hscore' =>
    obtain rfl := Except.ok.inj (hscore.symm.trans hscore')
    exact ⟨j, s, hj, hs, hslot⟩

theorem aligned_of_team (hg : g.WellFormed) {scores : List (Score α)}
    (hscores : List.Forall₂ (fun e s => a.score g e = .ok s) g.box scores)
    (htypes : a.types = g.visible) {r : TeamReport α} (hr : (a.team g).1 = .ok r) :
    r.Aligned g scores := by
  obtain ⟨filled, hfilled, rfl⟩ := team_eq_ok_iff.1 hr
  have hforall := forall₂_of_scoreSlots hfilled
  have hlength : filled.length = teamSize := hforall.length_eq.symm.trans hg.team_length
  have hempty := getElem?_eq_none_iff_of_fills hg hforall
  constructor
  · exact hlength
  · exact hempty
  · exact exists_findIdx?_of_fills hg hscores hforall
  · exact TeamReport.pairwise_emptyFrom 1 filled
  · intro n
    exact TeamReport.mem_emptyFrom.trans (and_congr_right fun _ => hempty (n - 1))
  · rw [← htypes]
    exact List.map_map.trans (List.map_id' _)
  · rw [← htypes]
    refine List.map_map.trans ((List.map_congr_left fun t _ => ?_).trans (List.map_id' _))
    exact Coverage.type_summaryRow _ _ t
  · intro row hrow
    exact (multipliers_report hrow).1.trans hlength
  · intro row hrow i
    exact ((multipliers_report hrow).2 i).trans (hempty i)

end Analyzer

/-! ### Games that are read -/

namespace Game

/-- The team of a game that is read has a report, under any change of the settings, that runs along
the team: six slots, the numbers of the empty ones, and the rows of all visible types with nothing
in their places. A slot that is filled has the score that the first box entry with its id has in the
ranking of the box. The document can be shown, as any that a text holds can. -/
theorem aligned_of_read {α : Type} [Numeral α] [LawfulScalar α] [LawfulWeights α]
    {given : Option Text} {v : Json α} {g : Game α} (hv : v.isWritable)
    (h : (read given v).result = .ok g) (c : SettingsChange α) :
    let a := Analyzer.ofGame g (g.settings.change c).written
    ∃ scores r, List.Forall₂ (fun e s => a.score g e = .ok s) g.box scores ∧
      (a.box g).1 = .ok (Score.ranking scores) ∧ (Score.ranking scores).Perm scores ∧
      (a.team g).1 = .ok r ∧ r.Aligned g scores := by
  intro a
  have hg := wellFormed_of_read h
  have ht := Potentials.scalarSettings?_written (g.settings.change c)
  have hshows : ∀ e ∈ g.box, g.ShowsTypes e := fun e _ => showsTypes_of_read hv h e
  have hscore : ∀ e ∈ g.box, ∃ s, a.score g e = .ok s := fun e he =>
    Analyzer.exists_score hg ht he (hshows e he)
  have hforall := Analyzer.forall₂_score hscore
  obtain ⟨r, hr⟩ := Analyzer.exists_team hshows hg ht
  exact ⟨_, r, hforall, Analyzer.box_eq_ok_ranking hscore, Score.ranking_perm _, hr,
    Analyzer.aligned_of_team hg hforall rfl hr⟩

/-- A document with two creatures of one id, which is in the team twice, and with a slot in between.
-/
def twiceMembers : Record Float :=
  Keyed.put "team" (.array [.number (.whole 1), .null, .number (.whole 1)])
    (withBox [boxItem 1, .record [("id", .number (.whole 1)), ("species_id", .number (.whole 1)),
      ("nickname", .string "Second")]] pairMembers)

theorem read_twiceMembers :
    ∃ g, (read none (.object twiceMembers)).result = .ok g ∧
      g.team = [some 1, none, some 1, none, none, none] ∧
      g.box.findIdx? (fun e => e.id = 1) = some 0 := by
  have h : (read none (.object twiceMembers)).result.toOption.map
      (fun g => (g.team, g.box.findIdx? fun e => e.id = 1)) =
      some ([some 1, none, some 1, none, none, none], some 0) := by
    decide +kernel
  obtain ⟨g, hg, hgame⟩ := Option.map_eq_some_iff.1 h
  exact ⟨g, toOption_eq_some.1 hg, congrArg Prod.fst hgame, congrArg Prod.snd hgame⟩

/-- Both of its slots have the first creature's score. -/
theorem aligned_of_read_twice :
    ∃ (g : Game Float) (r : TeamReport Float), (read none (.object twiceMembers)).result = .ok g ∧
      let a := Analyzer.ofGame g (g.settings.change {}).written
      (a.team g).1 = .ok r ∧ r.slots.length = 6 ∧ 2 ∈ r.emptySlots ∧ 3 ∉ r.emptySlots ∧
      ∃ e s, g.box[0]? = some e ∧ a.score g e = .ok s ∧ r.slots[0]? = some (some s) ∧
        r.slots[2]? = some (some s) := by
  obtain ⟨g, hg, hteam, hfirst⟩ := read_twiceMembers
  obtain ⟨scores, r, hscores, -, -, hr, haligned⟩ := aligned_of_read (by decide +kernel) hg {}
  have hslot₀ : g.team[0]? = some (some 1) := by
    rw [hteam]
    rfl
  have hslot₂ : g.team[2]? = some (some 1) := by
    rw [hteam]
    rfl
  obtain ⟨j, s, hj, hs, hfilled⟩ := haligned.slot_filled hslot₀
  obtain ⟨j', s', hj', hs', hfilled'⟩ := haligned.slot_filled hslot₂
  obtain rfl : 0 = j := Option.some.inj (hfirst.symm.trans hj)
  obtain rfl : 0 = j' := Option.some.inj (hfirst.symm.trans hj')
  obtain rfl : s = s' := Option.some.inj (hs.symm.trans hs')
  obtain ⟨e, he, hscore⟩ := getElem?_of_forall₂ hscores.flip hs
  refine ⟨g, r, hg, hr, haligned.slots_length, ?_, ?_, e, s, he, hscore, hfilled, hfilled'⟩
  · rw [haligned.mem_emptySlots, hteam]
    decide
  · rw [haligned.mem_emptySlots, hteam]
    decide

end Game

end Roster
