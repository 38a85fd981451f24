import Roster.Analysis
import Roster.Text.Layout
import Roster.Text.Split
import Roster.Decimal.Literal
import Roster.Decimal.Style

/-!
# Printed reports

The ranked box, the team's matrix and its coverage as lines of text. Every report begins with a
heading between rules; columns are filled up with spaces, and names are cut to their column.
-/

namespace Roster.Report

/-- The rule above and below a heading. -/
def rule : Text := Text.repeated 72 "="

/-- The lines of a heading. -/
def heading (title : Text) : List Text := ["\n" ++ rule, title, rule]

/-- A number with one place, in a column. -/
def amount (x : Float) : Text := Text.padStart 8 (Decimal.fixed 1 x)

/-- The head of the ranking's columns. -/
def rankingHead : Text :=
  "   " ++ Text.padStart 3 "#" ++ "  " ++ Text.padEnd 16 "Name" ++ " " ++ Text.padEnd 18 "Types"
    ++ " " ++ Text.padStart 8 "Offense" ++ " " ++ Text.padStart 8 "Defense" ++ " "
    ++ Text.padStart 8 "Rank"

/-- The line of a score at a place of the ranking. -/
def rankingLine (place : Nat) (s : Score Float) : Text :=
  let p := s.potentials
  "   " ++ Text.padStart 3 (toString place) ++ "  " ++ Text.column 16 s.name ++ " "
    ++ Text.column 18 (Text.intercalate "/" s.typeNames) ++ " " ++ amount p.offense ++ " "
    ++ amount p.defense ++ " " ++ amount p.rank ++ if p.unbalanced then " ⚠️" else ""

/-- How many of a number of scores are shown. A limit of zero is none; one below zero leaves that
many of the last out. -/
def shownCount (limit : Option Int) (count : Nat) : Nat :=
  match limit with
  | none => count
  | some n => if n = 0 then count else if 0 < n then min n.toNat count else count - (-n).toNat

/-- How many more than the limit there are, if there is a limit, and something, and more. -/
def surplus? (limit : Option Int) (count : Nat) : Option Int :=
  match limit with
  | none => none
  | some n => if count ≠ 0 ∧ n ≠ 0 ∧ n < count then some (count - n) else none

/-- The line of a surplus, unless the number is too long to be written. -/
def surplusLine? (n : Int) : Option Text :=
  (Decimal.wholeText? n).map fun digits => s!"   ... and {digits} more"

/-- Whether the ranked box ends before the line of its surplus, which is too long. -/
def breaksOff (limit : Option Int) (count : Nat) : Bool :=
  (surplus? limit count).any fun n => (surplusLine? n).isNone

/-- The lines of the ranking up to a limit, with their places. -/
def rankingLines (limit : Option Int) (scores : List (Score Float)) : List Text :=
  ((scores.take (shownCount limit scores.length)).zipIdx 1).map fun (s, place) =>
    rankingLine place s

/-- The ranking up to a limit. -/
def ranking (limit : Option Int) (scores : List (Score Float)) : List Text :=
  if scores.isEmpty then ["   Box is empty"]
  else
    rankingHead :: rankingLines limit scores
      ++ ((surplus? limit scores.length).bind surplusLine?).toList

/-- The ranked box. -/
def box (limit : Option Int) (scores : List (Score Float)) : List Text :=
  heading "📦 BOX RANKING" ++ ranking limit scores

/-- A multiplier in its column; nothing stands for an empty slot. -/
def multiplier : Option Float → Text
  | none => "  -  "
  | some x => Text.padStart 5 (Decimal.fixed 2 x)

/-- The head of the matrix's columns: the names in the slots. -/
def matrixHead (slots : List (Option (Score Float))) : Text :=
  let name (slot : Option (Score Float)) : Text :=
    Text.padStart 5 ((slot.map fun s => Text.truncate 5 s.name).getD "-")
  "   " ++ Text.padEnd 12 "Attacker" ++ " " ++ Text.intercalate " " (slots.map name)
    ++ "   Weak Resist"

/-- A type's line of the matrix. -/
def matrixLine (row : MatrixRow Float) : Text :=
  "   " ++ Text.column 12 row.type.name ++ " "
    ++ Text.intercalate " " (row.multipliers.map multiplier) ++ "   "
    ++ Text.padStart 4 (toString row.weak) ++ " " ++ Text.padStart 6 (toString row.resist)

/-- A type's line of the coverage, with a mark for every member that counts. -/
def coverageLine (row : CoverageRow) : Text :=
  "   " ++ Text.column 12 row.type.name
    ++ s!" weak {row.weak}  resist {row.resist}  immune {row.immune}  "
    ++ Text.repeated row.weak "🔴" ++ Text.repeated row.resist "🟢" ++ Text.repeated row.immune "⚪"

/-- The line of the empty slots, if there are some. -/
def emptySlotLines (slots : List Nat) : List Text :=
  if slots.isEmpty then []
  else ["\n   Empty slots: " ++ String.intercalate ", " (slots.map toString)]

/-- The team's matrix and coverage, and its empty slots. -/
def team (r : TeamReport Float) : List Text :=
  heading "🛡️  TEAM DEFENSE MATRIX" ++ matrixHead r.slots :: r.matrix.map matrixLine
    ++ ("\n📊 TEAM CHART" : Text) :: r.coverage.map coverageLine ++ emptySlotLines r.emptySlots

end Roster.Report
