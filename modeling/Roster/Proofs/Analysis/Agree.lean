import Roster.Analysis

/-!
# Analyses that agree

Two analyses of two games are compared creature by creature: where every box entry of the one has in
the other a counterpart that is scored alike, boxes and teams come out alike.
-/

namespace Roster.Analyzer

variable {α : Type} [Numeral α]

/-- Two analyses, each of a game of its own, in which box entries and their counterparts come to the
same. A counterpart has the id of its entry. -/
structure Agree (a : Analyzer α) (g : Game α) (a' : Analyzer α) (g' : Game α)
    (counterpart : BoxEntry → BoxEntry) : Prop where
  score (e : BoxEntry) : a.score g e = a'.score g' (counterpart e)
  notices (e : BoxEntry) : a.scoreNotices g e = a'.scoreNotices g' (counterpart e)
  id (e : BoxEntry) : (counterpart e).id = e.id
  box : g'.box = g.box.map counterpart
  team : g'.team = g.team
  report : a.report = a'.report

namespace Agree

variable {a a' : Analyzer α} {g g' : Game α} {counterpart : BoxEntry → BoxEntry}
  (h : a.Agree g a' g' counterpart)

include h

theorem scoreAll_eq (entries : List BoxEntry) :
    a.scoreAll g entries = a'.scoreAll g' (entries.map counterpart) := by
  induction entries with
  | nil => rfl
  | cons e rest ih =>
    rw [List.map_cons]
    unfold scoreAll
    rw [h.score, h.notices, ih]

/-- Boxes that agree are ranked alike. -/
theorem box_result_eq : (a.box g).1 = (a'.box g').1 := by
  unfold Analyzer.box
  rw [h.box, h.scoreAll_eq]
  split <;> rfl

/-- Under one name of the game the same comes up too. -/
theorem box_eq (hname : g'.name = g.name) : a.box g = a'.box g' := by
  unfold Analyzer.box
  rw [h.box, h.scoreAll_eq, hname]

/-- An id leads to the counterpart of the entry that it led to. -/
theorem boxEntry?_eq (id : Int) : g'.boxEntry? id = (g.boxEntry? id).map counterpart := by
  unfold Game.boxEntry?
  rw [h.box, List.find?_map]
  refine congrArg (fun p => (g.box.find? p).map counterpart) (funext fun e => ?_)
  rw [Function.comp_apply, h.id]

theorem scoreSlots_eq (slots : List (Option Int)) :
    a.scoreSlots g slots = a'.scoreSlots g' slots := by
  induction slots with
  | nil => rfl
  | cons slot rest ih =>
    have hslot : slot.bind g'.boxEntry? = (slot.bind g.boxEntry?).map counterpart := by
      cases slot with
      | none => rfl
      | some id => exact h.boxEntry?_eq id
    unfold scoreSlots
    rw [hslot]
    cases slot.bind g.boxEntry? with
    | none => simp only [Option.map_none, ih]
    | some e => simp only [Option.map_some, h.score, h.notices, ih]

/-- Teams that agree are reported on alike, and the same comes up. -/
theorem team_eq : a.team g = a'.team g' := by
  unfold Analyzer.team
  rw [h.team, h.report, h.scoreSlots_eq]

end Agree

end Roster.Analyzer
