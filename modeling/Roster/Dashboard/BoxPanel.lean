import Roster.Dashboard.Element

/-!
# The box on the dashboard

The figures of the box, filters by name, type and rank, the table of the scores that pass them, and
a chart of their offense and defense with a series for every typing. The table keeps a column of
whole numbers in 64 bits, with or without a sign, and its texts without halves; where that does not
do, the page breaks off.
-/

namespace Roster.Dashboard.BoxPanel

/-- The option of the type filter that lets every type pass. -/
def anyType : Text := "Any"

/-- The options of the type filter: every name once, with the type that it stands for. -/
def typeOptions (types : List TypeInfo) : Keyed Text (Option Int) :=
  Keyed.ofList ((anyType, none) :: types.map fun t => (t.name, some t.id))

def searchInput : Widget := ⟨"Search", .textInput ""⟩

def typeChoice (types : List TypeInfo) : Widget :=
  ⟨"Type", .choice (Keyed.keys (typeOptions types)) 0⟩

def rankInput : Widget := ⟨"Minimum rank", .numberInput 0 0 none⟩

/-- The filter that the widgets set. A least rank of zero is none. -/
def filter (m : Memory) (types : List TypeInfo) : BoxFilter Float :=
  let least := (m.valueOf rankInput).toNumber
  { search := (m.valueOf searchInput).toText
    type :=
      (m.valueOf (typeChoice types)).toChoice.bind fun name =>
        (Keyed.get? name (typeOptions types)).join
    minRank := if Scalar.IsZero least then none else some (.real least) }

/-- How a typing is shown. -/
def typing (s : Score Float) : Text := Text.intercalate " / " s.typeNames

/-- A number as the table has it. -/
def rounded (x : Float) : Float := Decimal.roundPlaces 1 x

/-- The columns of the table. -/
def columns : List String :=
  ["Dex #", "Name", "Species", "Types", "Ability", "Item", "Off (Phys)", "Off (Spec)", "Def (Phys)",
    "Def (Spec)", "Offense", "Defense", "Box Rank", "Crit x"]

/-- The texts of the table's columns, from the left. -/
def textColumns : List (Score Float → Text) :=
  [Score.name, Score.speciesName, typing, fun s => s.abilityName.getD "",
    fun s => s.itemName.getD ""]

/-- A score's row of the table. -/
def row (s : Score Float) : List Cell :=
  let p := s.potentials
  .whole s.dexNumber :: textColumns.map (fun column => .text (column s))
    ++ [.real (rounded p.physicalOffense), .real (rounded p.specialOffense),
      .real (rounded p.physicalDefense), .real (rounded p.specialDefense),
      .real (rounded p.offense), .real (rounded p.defense), .real (rounded p.rank),
      .real (Decimal.roundPlaces 3 p.crit.expected)]

/-- The first halves in the table, column by column. -/
def tableHalves? (scores : List (Score Float)) : Option Text.HalfRun :=
  textColumns.findSome? fun column => scores.findSome? fun s => Text.halves? (column s)

/-- The series of a typing. -/
def series (scores : List (Score Float)) (name : Text) : Series :=
  let own := scores.filter fun s => typing s = name
  .points name (own.map fun s => rounded s.potentials.offense)
    (own.map fun s => rounded s.potentials.defense) (own.map fun s => rounded s.potentials.rank)
    (own.map Score.name)

/-- The series of all typings, in the order in which they come up. -/
def allSeries (scores : List (Score Float)) : List Series :=
  (scores.map typing).eraseDups.map (series scores)

/-- Whether whole numbers have a common type of 64 bits, with or without a sign. -/
def haveWord (ns : List Int) : Bool :=
  ns.all (fun n => decide (-0x8000000000000000 ≤ n ∧ n < 0x8000000000000000))
    || ns.all fun n => decide (0 ≤ n ∧ n < 0x10000000000000000)

/-- The table and the chart of scores, if the table can be made. -/
def listing (scores : List (Score Float)) : Panel :=
  if scores.isEmpty then ⟨[.info "No box entries match the filters"], none⟩
  else
    match tableHalves? scores with
    | some run => ⟨[], some (.halves run)⟩
    | none =>
      if haveWord (scores.map Score.dexNumber) then
        ⟨[.table columns (scores.map row), .chart (some "Offense vs Defense") (allSeries scores)],
          none⟩
      else ⟨[], some .columnTooWide⟩

/-- The figure of the best rank. -/
def topRank (scores : List (Score Float)) : String :=
  (scores.head?.map fun s => Decimal.fixed 1 s.potentials.rank).getD "-"

/-- What stands above the table: the figures and the filters. -/
def top (m : Memory) (g : Game Float) (scores : List (Score Float)) : List Element :=
  [.markdown "### 📊 Box Overview", .metric "Box Entries" (toString scores.length),
    .metric "Species" (toString g.species.length), .metric "Top Rank" (topRank scores),
    .input m searchInput, .input m (typeChoice g.types), .input m rankInput]

/-- The panel of a ranked box. -/
def panel (m : Memory) (g : Game Float) (scores : List (Score Float)) : Panel :=
  .ofElements [] (top m g scores) ++ listing ((filter m g.types).apply scores)

end Roster.Dashboard.BoxPanel
