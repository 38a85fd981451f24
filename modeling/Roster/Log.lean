import Roster.Analysis
import Roster.Game.Document

/-!
# Log lines

What comes up while a game is read and analysed, as lines of a log. Faults are warnings; what only
says what was done is for debugging.
-/

namespace Roster

/-- How much a log line matters. -/
inductive LogLevel where
  | debug
  | warning
  deriving DecidableEq, Repr

/-- The word at the front of a line. -/
def LogLevel.heading : LogLevel → String
  | .debug => "DEBUG"
  | .warning => "WARNING"

/-- A line of the log, from a part of the program. -/
structure LogLine where
  level : LogLevel
  source : String
  message : Text
  deriving DecidableEq, Repr

/-- A line as it is written. -/
def LogLine.text (l : LogLine) : Text := s!"{l.level.heading} {l.source}: " ++ l.message

/-- The lines that tell of faults. -/
def LogLine.warnings (lines : List LogLine) : List LogLine :=
  lines.filter fun l => l.level = .warning

/-- The line of a reference that leads nowhere. -/
def Game.Notice.logLine (n : Game.Notice) : LogLine := ⟨.warning, "game_loader", n.message⟩

/-- The line of what comes up during analysis. -/
def AnalysisNotice.logLine (n : AnalysisNotice) : LogLine :=
  match n with
  | .unknownAbility .. | .unknownItem .. => ⟨.warning, "analyzer", n.message⟩
  | .ignoredTags _ => ⟨.debug, "tag_effects", n.message⟩
  | .ranked .. => ⟨.debug, "analyzer", n.message⟩

end Roster
