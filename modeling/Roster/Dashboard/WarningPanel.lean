import Roster.Dashboard.Element
import Roster.Warning.Summary

/-!
# The warnings on the dashboard

The warnings of each severity that has some, under a heading with their number; what is only worth
knowing is folded in.
-/

namespace Roster.Dashboard.WarningPanel

/-- How a warning's message is meant. -/
def messageKind : Severity → MessageKind
  | .high => .error
  | .warn => .warning
  | .info => .info

/-- A warning with its suggestion. -/
def item (w : Warning) : List Element :=
  .message (messageKind w.severity) (Text.dedent ("**" ++ w.title ++ "**: " ++ w.detail))
    :: (w.suggestion.filter fun s => !s.isEmpty).toList.map fun s =>
      .caption (Warning.suggestionMark ++ s)

/-- The warnings of a severity, if there are any. -/
def group (items : List Warning) (severity : Severity) : Panel :=
  let own := Warning.ofSeverity severity items
  if own.isEmpty then ⟨[], none⟩
  else
    .expander (Warning.headingOf severity own) (decide (severity ≠ .info))
      (.ofElements [] (own.flatMap item))

/-- The panel of warnings. -/
def panel (items : List Warning) : Panel :=
  if items.isEmpty then ⟨[.success "✅ No warnings detected - roster looks clean!"], none⟩
  else .join (Severity.all.map (group items))

end Roster.Dashboard.WarningPanel
