import Roster.Warning.Basic

/-!
# The summary of warnings

A text with the number of items and, for each severity that has some, a heading with their number
and the items, with up to five pieces of evidence each and how many more there are.
-/

namespace Roster.Warning

/-- The summary of no items. -/
def cleanSummary : String := "No warnings detected - roster looks clean!"

/-- How many pieces of evidence an item shows. -/
def evidenceShown : Nat := 5

/-- The lines of an item's evidence. -/
def evidenceLines (evidence : List Text) : List Text :=
  if evidence.isEmpty then []
  else
    ("    Evidence: " ++ Text.intercalate ", " (evidence.take evidenceShown))
      :: if evidenceShown < evidence.length then
        [s!"    ... and {evidence.length - evidenceShown} more"]
      else []

/-- What is written in front of a suggestion. -/
def suggestionMark : Text := "💡 "

/-- The parts of a suggestion; an empty one is none. -/
def suggestionLines (suggestion : Option Text) : List Text :=
  (suggestion.filter fun s => !s.isEmpty).toList.map fun s => "    " ++ suggestionMark ++ s

/-- The parts of an item. -/
def itemLines (w : Warning) : List Text :=
  ("\n  " ++ w.title) :: ("    " ++ w.detail)
    :: (evidenceLines w.evidence ++ suggestionLines w.suggestion)

/-- A severity and how many items it has. -/
def headingOf (severity : Severity) (items : List Warning) : String :=
  s!"{severity.heading} ({items.length})"

/-- The parts of a severity's items. -/
def severityLines (items : List Warning) (severity : Severity) : List Text :=
  let items := ofSeverity severity items
  if items.isEmpty then [] else ↑s!"\n{headingOf severity items}:" :: items.flatMap itemLines

/-- The summary of items. -/
def summary (items : List Warning) : Text :=
  if items.isEmpty then cleanSummary
  else
    Text.unlines
      (s!"Total Warnings: {items.length}" :: Severity.all.flatMap (severityLines items))

end Roster.Warning
