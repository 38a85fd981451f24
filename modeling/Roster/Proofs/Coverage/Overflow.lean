import Roster.Proofs.Analysis.Team
import Roster.Proofs.Bundle.Sides
import Roster.Proofs.Coverage.Rows

/-!
# Cells that overflow

A cell of a team's matrix starts from the charted value of an attacking type against a member. Each
factor of a tag that matches brings it back into the finite range, and an immunity makes it zero. So
a cell can be infinite only as it starts: where the charted values of a member's two types overflow
as they are multiplied, and no tag of the member matches the attacking type.
-/

namespace Roster

open Scalar

/-! ### Effects that match -/

namespace Incoming

section Match

variable {α : Type} [Scalar α] {effects : List (Incoming α)} {type : Text} {chart : α}

/-- An effect on attacks of a type is an immunity or has a factor. -/
theorem exists_factorFor? {i : Incoming α} (himmune : isImmunity i.type i = false) :
    ∃ x, factorFor? i.type true i = some x := by
  cases i with
  | relation r t =>
    cases r with
    | immune => simp [isImmunity, Incoming.type] at himmune
    | resist => exact ⟨0.5, if_pos rfl⟩
    | weak => exact ⟨2.0, if_pos rfl⟩
  | factor t f => exact ⟨f, if_pos ⟨rfl, rfl⟩⟩

/-- With an effect that matches, what is multiplied is an amount, even if the chart's value is not
finite. -/
theorem amount_fold_of_match [LawfulScalar α] (hs : ∀ i ∈ effects, i.Sound) (hc : ¬ chart < 0)
    (h : ∃ i ∈ effects, i.type = TypeName.normal type) :
    Amount (fold effects type chart true) := by
  obtain ⟨i, hi, htype⟩ := h
  unfold fold
  dsimp only
  split
  · exact amount_zero
  · rename_i himmune
    have hnot : isImmunity i.type i = false := by
      rw [htype]
      exact Bool.eq_false_iff.2 fun h => himmune (List.any_eq_true.2 ⟨i, hi, h⟩)
    obtain ⟨x, hx⟩ := exists_factorFor? hnot
    rw [htype] at hx
    refine amount_productFrom_of_ne_nil hc (fun y hy => ?_) ?_
    · obtain ⟨j, hj, hy⟩ := List.mem_filterMap.1 hy
      exact not_neg_of_factorFor? (hs j hj) hy
    · exact List.ne_nil_of_mem (List.mem_filterMap.2 ⟨i, hi, hx⟩)

end Match

/-- Effects for other types leave the chart's value as it is. -/
theorem fold_of_forall_ne {α : Type} [Numeral α] {effects : List (Incoming α)} {type : Text}
    (h : ∀ i ∈ effects, i.type ≠ TypeName.normal type) (chart : α) (withFactors : Bool) :
    fold effects type chart withFactors = chart := by
  induction effects with
  | nil => exact fold_nil type chart withFactors
  | cons i rest ih =>
    obtain ⟨hi, hrest⟩ := List.forall_mem_cons.1 h
    exact (fold_insert hi [] rest chart withFactors).trans (ih hrest)

end Incoming

/-- However a chart's value is written, an amount leads to one. -/
theorem Incoming.exists_writtenFold {α : Type} [Scalar α] [LawfulScalar α]
    {effects : List (Incoming α)} (hs : ∀ i ∈ effects, i.Sound) (type : Text) {chart : Number α}
    (hc : chart.Amount) (withFactors : Bool) :
    ∃ x, writtenFold effects type chart withFactors = .ok x ∧ Amount x := by
  obtain ⟨value, hvalue, hamount⟩ := hc
  unfold writtenFold
  dsimp only
  split
  · exact ⟨0, rfl, amount_zero⟩
  · rw [Number.scalar, hvalue]
    exact ⟨_, rfl, amount_fold hs type hamount withFactors⟩

/-! ### Cells -/

namespace Coverage

/-- The charted values of a member's two types leave the finite range as they are multiplied. -/
def StartsBeyond (chart : TypeChart Float) (attacker : TypeInfo) (m : TeamMember) : Prop :=
  ∃ type2, m.type2 = some type2 ∧
    greatest < chart.multiplier attacker.id m.type1 * chart.multiplier attacker.id type2

/-- They do, and no effect of the member's tags on incoming damage is for the attacking type. -/
structure Overflows (chart : TypeChart Float) (attacker : TypeInfo) (m : TeamMember) : Prop where
  start : StartsBeyond chart attacker m
  untouched : ∀ i ∈ Tag.incoming (α := Float) m.tags, i.type ≠ TypeName.normal attacker.name

/-- What the matrix holds for a member: an amount, unless it overflows. -/
inductive Cell (chart : TypeChart Float) (attacker : TypeInfo) (m : TeamMember) (x : Float) : Prop
  | amount (h : Amount x) (hnot : ¬ Overflows chart attacker m)
  | infinite (h : greatest < x) (hover : Overflows chart attacker m)

section Multiplier

variable {chart : TypeChart Float} (h : chart.Sound) {attacker : TypeInfo} {m : TeamMember}

include h in
/-- Against a holder of one type, and wherever it does not overflow, the chart has an amount. -/
theorem amount_against (hstart : ¬ StartsBeyond chart attacker m) :
    Amount (chart.against attacker.id m.type1 m.type2) := by
  have hnonneg := h.nonneg_against attacker.id m.type1 m.type2
  cases htype2 : m.type2 with
  | none => exact h.multiplier attacker.id m.type1
  | some type2 =>
    rw [htype2] at hnonneg
    refine ⟨finite_of_nonneg hnonneg ?_, hnonneg⟩
    refine le_of_not_lt finite_greatest.le_self (LawfulOrder.le_self_of_le_right hnonneg) ?_
    exact fun hlt => hstart ⟨type2, htype2, hlt⟩

include h in
/-- The multiplier of an attacking type against a member is a cell. -/
theorem cell_multiplier : Cell chart attacker m (multiplier chart attacker m) := by
  have hsound := Tag.sound_incoming (α := Float) m.tags
  have hnonneg := h.nonneg_against attacker.id m.type1 m.type2
  by_cases htouched : ∃ i ∈ Tag.incoming (α := Float) m.tags, i.type = TypeName.normal attacker.name
  · refine .amount (Incoming.amount_fold_of_match hsound (not_lt_of_le hnonneg) htouched) ?_
    intro hover
    obtain ⟨i, hi, htype⟩ := htouched
    exact hover.untouched i hi htype
  · have huntouched : ∀ i ∈ Tag.incoming (α := Float) m.tags,
        i.type ≠ TypeName.normal attacker.name := fun i hi htype => htouched ⟨i, hi, htype⟩
    have hkept : multiplier chart attacker m = chart.against attacker.id m.type1 m.type2 :=
      Incoming.fold_of_forall_ne huntouched _ true
    rw [hkept]
    by_cases hstart : StartsBeyond chart attacker m
    · refine .infinite ?_ ⟨hstart, huntouched⟩
      obtain ⟨type2, htype2, hlt⟩ := hstart
      rw [htype2]
      exact hlt
    · exact .amount (amount_against h hstart) fun hover => hstart hover.start

include h in
/-- Slot by slot a row holds nothing for an empty one and a cell for a member. -/
theorem forall₂_cell_matrixRow (slots : List (Option TeamMember)) :
    List.Forall₂ (Option.Rel (Cell chart attacker)) slots
      (matrixRow slots chart attacker).multipliers := by
  change List.Forall₂ _ slots (slots.map fun slot => slot.map (multiplier chart attacker))
  rw [List.forall₂_map_right_iff, List.forall₂_same]
  intro slot _
  cases slot with
  | none => exact .none
  | some m => exact .some (cell_multiplier h)

end Multiplier

end Coverage

/-! ### Games that are read -/

namespace Game

/-- In the matrix of a game that is read, of any slots and of the team's own, every place of a
member has a cell, under any change of the settings: a finite multiplier that is not below zero
unless the charted values overflow. From a charted value that is finite and not below zero tags
always lead to one that is, however it is written. The team has a matrix if the document can be
shown, as any that a text holds can. -/
theorem cells_of_read {given : Option Text} {v : Json Float} {g : Game Float}
    (h : (read given v).result = .ok g) :
    let chart : TypeChart Float := .ofRows g.chart
    (∀ (slots : List (Option TeamMember)) (types : List TypeInfo),
      List.Forall₂ (fun attacker row => row.type = attacker ∧
          List.Forall₂ (Option.Rel (Coverage.Cell chart attacker)) slots row.multipliers)
        types (Coverage.matrix slots types chart)) ∧
      (v.isWritable → ∀ c : SettingsChange Float,
        let a := Analyzer.ofGame g (g.settings.change c).written
        ∃ r, (a.team g).1 = .ok r ∧ r.matrix =
          Coverage.matrix (r.slots.map fun slot => slot.map Score.member) g.visible chart) ∧
      ∀ (tags : List Text) (type : Text) (withFactors : Bool),
        (∀ value : Float, Amount value → Amount (Tag.multiplier tags type value withFactors)) ∧
          ∀ value : Number Float, value.Amount →
            ∃ x, Incoming.writtenFold (Tag.incoming tags) type value withFactors = .ok x ∧
              Amount x := by
  intro chart
  have hg := wellFormed_of_read h
  refine ⟨fun slots types => ?_, fun hv c => ?_, fun tags type withFactors => ⟨?_, ?_⟩⟩
  · unfold Coverage.matrix
    rw [List.forall₂_map_right_iff, List.forall₂_same]
    exact fun attacker _ => ⟨rfl, Coverage.forall₂_cell_matrixRow hg.chart_sound slots⟩
  · obtain ⟨r, hr⟩ :=
      Analyzer.exists_team (fun e _ => showsTypes_of_read hv h e) hg
        (Potentials.scalarSettings?_written (g.settings.change c))
    obtain ⟨filled, -, rfl⟩ := Analyzer.team_eq_ok_iff.1 hr
    exact ⟨_, hr, rfl⟩
  · intro value hvalue
    exact Incoming.amount_fold (Tag.sound_incoming tags) type hvalue withFactors
  · intro value hvalue
    exact Incoming.exists_writtenFold (Tag.sound_incoming tags) type hvalue withFactors

/-- A document whose first type does so well against both types of a creature of the team that no
finite number says how well. -/
def lodeDocument : Json Float :=
  let row (defending : Int) : Json Float :=
    .record [("attacking_type_id", .number (.whole 1)),
      ("defending_type_id", .number (.whole defending)), ("multiplier", .number (.real 1e200))]
  .record
    [("types", .array
        [.record [("id", .number (.whole 1)), ("name", .string "Ash")],
          .record [("id", .number (.whole 2)), ("name", .string "Bay")]]),
      ("chart", .array [row 1, row 2]),
      ("species", .array [.record
        ([("id", .number (.whole 1)), ("name", .string "Lode"), ("type1_id", .number (.whole 1)),
            ("type2_id", .number (.whole 2))]
          ++ Stat.all.map fun stat => (stat.key, .number (.whole 80)))]),
      ("box", .array [boxItem 1]),
      ("team", .array [.number (.whole 1)])]

def ash : TypeInfo := ⟨1, "Ash", none, false⟩

/-- The game of that document. -/
def lode : Game Float :=
  { solo with
    name := untitled
    types := [ash, ⟨2, "Bay", none, false⟩]
    chart := [⟨1, 1, 1e200⟩, ⟨1, 2, 1e200⟩]
    species := [(1, ⟨1, "Lode", 1, some 2, .const (.whole 80), 1, []⟩)] }

theorem read_lodeDocument : (read none lodeDocument).result = .ok lode := by
  refine toOption_eq_some.1 ?_
  decide +kernel

/-- With a tag that matches, the cell of such a creature is finite, and without one it is not. -/
theorem cells_of_read_lode :
    let slots : List (Option TeamMember) :=
      [some ⟨1, some 2, ["weak:ash"]⟩, none, some ⟨1, some 2, []⟩]
    (read none lodeDocument).result = .ok lode ∧
      ∃ row x y, Coverage.matrix slots [ash] (.ofRows lode.chart) = [row] ∧
        row.multipliers[0]? = some (some x) ∧ Amount x ∧
        row.multipliers[2]? = some (some y) ∧ greatest < y := by
  intro slots
  obtain ⟨hrows, -, -⟩ := cells_of_read read_lodeDocument
  obtain ⟨-, hcells⟩ := (List.forall₂_cons.1 (hrows slots [ash])).1
  obtain ⟨first, hfirst, hx⟩ := getElem?_of_forall₂ hcells (show slots[0]? = some (some _) from rfl)
  obtain ⟨last, hlast, hy⟩ := getElem?_of_forall₂ hcells (show slots[2]? = some (some _) from rfl)
  cases hx with
  | some hx =>
    cases hy with
    | some hy =>
      refine ⟨read_lodeDocument, _, _, _, rfl, hfirst, ?_, hlast, ?_⟩
      · cases hx with
        | amount h _ => exact h
        | infinite _ hover =>
          exact absurd rfl (hover.untouched (.relation .weak "ash") (by decide +kernel))
      · cases hy with
        | amount _ hnot => exact absurd ⟨⟨2, rfl, by decide +kernel⟩, by decide +kernel⟩ hnot
        | infinite h _ => exact h

/-- The creature has no tag that brings the multiplier back: the report of the team shows an
infinite one. -/
theorem infinite_cell_of_read :
    (read none lodeDocument).result = .ok lode ∧
      ∃ r, ((Analyzer.ofGame lode lode.settings.written).team lode).1 = .ok r ∧
        ∃ row ∈ r.matrix, ∃ x ∈ Coverage.cells row, ¬ Scalar.Finite x ∧ greatest < x := by
  have hreport : ((Analyzer.ofGame lode lode.settings.written).team lode).1.toOption.any (fun r =>
      decide (∃ row ∈ r.matrix, ∃ x ∈ Coverage.cells row, ¬ Scalar.Finite x ∧ greatest < x)) =
        true := by
    decide +kernel
  obtain ⟨r, hr, hcells⟩ := (Option.any_eq_true _ _).1 hreport
  exact ⟨read_lodeDocument, r, toOption_eq_some.1 hr, of_decide_eq_true hcells⟩

end Game

end Roster
