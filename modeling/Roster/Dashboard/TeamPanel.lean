import Roster.Dashboard.Element

/-!
# The team on the dashboard

The multipliers of every attacking type against every slot, their totals, and the counts of weak,
resisting and immune members. The slots are named; a name with halves breaks the page off.
-/

namespace Roster.Dashboard.TeamPanel

/-- The names of the slots, with their numbers. -/
def slotLabels (slots : List (Option (Score Float))) : List Text :=
  (slots.zipIdx 1).map fun (slot, number) =>
    Text.ofString s!"{number}. " ++ (slot.map Score.name).getD "(empty)"

/-- The matrix as a heatmap. -/
def heatmap (r : TeamReport Float) : Series :=
  .heatmap (slotLabels r.slots) (r.matrix.map fun row => row.type.name)
    (.ofRows (r.matrix.map MatrixRow.multipliers))

/-- The matrix, unless nobody is in the team. -/
def matrix (r : TeamReport Float) : Element :=
  if r.members.isEmpty then .info "Team is empty - add box ids to the game's team list"
  else .chart none [heatmap r]

/-- The totals of the matrix. A table without rows has no columns. -/
def totals (r : TeamReport Float) : Element :=
  .table (if r.matrix.isEmpty then [] else ["Type", "Weak", "Resist"])
    (r.matrix.map fun row => [.text row.type.name, .whole row.weak, .whole row.resist])

/-- The coverage as bars, if there are types. -/
def coverage (r : TeamReport Float) : List Element :=
  let names := r.coverage.map fun row => row.type.name
  if r.coverage.isEmpty then []
  else
    [.chart none
      [.bars "Weak" names (r.coverage.map CoverageRow.weak),
        .bars "Resist" names (r.coverage.map CoverageRow.resist),
        .bars "Immune" names (r.coverage.map CoverageRow.immune)]]

/-- What stands below the heading, if the slots can be named. -/
def body (r : TeamReport Float) : Panel :=
  match (slotLabels r.slots).findSome? Text.halves? with
  | some run => ⟨[], some (.halves run)⟩
  | none => ⟨[matrix r, totals r, .markdown "### 📊 Team Chart"] ++ coverage r, none⟩

/-- The panel of a team. -/
def panel (r : TeamReport Float) : Panel := ⟨[.markdown "### 🛡️ Defense Matrix"], none⟩ ++ body r

end Roster.Dashboard.TeamPanel
