import Roster.Incoming
import Roster.TypeChart

/-!
# A team's defensive coverage

How a team stands to attacks of every type: the multiplier for each slot, and how many members are
weak, resist or are immune. Incoming factors count here like resistances and weaknesses. In the
matrix a multiplier of zero counts neither as weak nor as resisting.
-/

namespace Roster

/-- What coverage needs to know of a member. -/
structure TeamMember where
  type1 : Int
  type2 : Option Int
  tags : List Text
  deriving DecidableEq, Repr

/-- A type's row of the matrix: a multiplier for every slot, none for an empty one. -/
structure MatrixRow (α : Type) where
  type : TypeInfo
  multipliers : List (Option α)
  weak : Nat
  resist : Nat
  deriving DecidableEq, Repr

/-- A type's row of the summary. -/
structure CoverageRow where
  type : TypeInfo
  weak : Nat
  resist : Nat
  immune : Nat
  deriving DecidableEq, Repr

namespace Coverage

variable {α : Type} [Numeral α]

/-- The multiplier of an attacking type against a member. -/
def multiplier (chart : TypeChart α) (attacker : TypeInfo) (m : TeamMember) : α :=
  Tag.multiplier m.tags attacker.name (chart.against attacker.id m.type1 m.type2) true

/-- Whether a multiplier marks a weakness. -/
def isWeak (x : α) : Bool := decide (1 < x)

/-- Whether a multiplier marks a resistance that is no immunity. -/
def isResist (x : α) : Bool := decide (0 < x) && decide (x < 1)

/-- The matrix row of an attacking type. -/
def matrixRow (members : List (Option TeamMember)) (chart : TypeChart α) (attacker : TypeInfo) :
    MatrixRow α :=
  let multipliers := members.map fun m => m.map (multiplier chart attacker)
  { type := attacker
    multipliers
    weak := multipliers.countP fun m => m.any isWeak
    resist := multipliers.countP fun m => m.any isResist }

/-- The matrix of a team: a row for every type, in their order. -/
def matrix (members : List (Option TeamMember)) (types : List TypeInfo) (chart : TypeChart α) :
    List (MatrixRow α) :=
  types.map (matrixRow members chart)

/-- The counts of the summary with one more multiplier. Zero is an immunity. -/
def CoverageRow.count (row : CoverageRow) (x : α) : CoverageRow :=
  if Scalar.IsZero x then { row with immune := row.immune + 1 }
  else if 1 < x then { row with weak := row.weak + 1 }
  else if x < 1 then { row with resist := row.resist + 1 }
  else row

/-- The summary row of an attacking type. -/
def summaryRow (members : List TeamMember) (chart : TypeChart α) (attacker : TypeInfo) :
    CoverageRow :=
  (members.map (multiplier chart attacker)).foldl CoverageRow.count ⟨attacker, 0, 0, 0⟩

/-- The summary of a team: a row for every type, in their order. -/
def summary (members : List TeamMember) (types : List TypeInfo) (chart : TypeChart α) :
    List CoverageRow :=
  types.map (summaryRow members chart)

@[simp] theorem length_matrix (members : List (Option TeamMember)) (types : List TypeInfo)
    (chart : TypeChart α) : (matrix members types chart).length = types.length := by
  simp [matrix]

@[simp] theorem length_summary (members : List TeamMember) (types : List TypeInfo)
    (chart : TypeChart α) : (summary members types chart).length = types.length := by
  simp [summary]

end Coverage

end Roster
