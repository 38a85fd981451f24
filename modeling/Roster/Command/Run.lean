import Roster.Command.Request
import Roster.Game.Source
import Roster.Log
import Roster.Report
import Roster.Warning.Summary

/-!
# Carrying out a command

Loads the game, analyses it under the request's settings and tells of it: the ranked box, the team
where it is asked for, and the warnings. A file that is missing or flawed is told and is a failure,
as is a number that is too long to be told. What a command is not made for breaks it off: a path
that leads to no file, a document with a level too many, numbers beyond the scalars, and crit
settings that are given without a value.
-/

namespace Roster.Command

/-- What breaks a command off. -/
inductive Abort where
  | unreadable (fault : FileFault) (path : Text)
  | overrun (cause : Game.Overrun)
  | score (error : ScoreError)
  /-- The crit table is given without a name. -/
  | hollowPreset
  /-- The crit damage is given without a number. -/
  | hollowDamage
  deriving DecidableEq, Repr

/-- What is said of a command that is broken off. -/
def Abort.message : Abort → String
  | .unreadable fault path => fault.message path
  | .overrun cause => cause.message
  | .score error => error.message
  | .hollowPreset => "unhashable type: 'list'"
  | .hollowDamage => "can't multiply sequence by non-int of type 'float'"

/-- How a command ends. -/
inductive Ending where
  | success
  | failure
  | aborted (abort : Abort)
  deriving DecidableEq, Repr

/-- What a command prints and logs, and how it ends. -/
structure Run where
  ending : Ending
  /-- The printed texts, each with a line feed behind it. -/
  printed : List Text
  log : List LogLine

/-- All that is printed. -/
def Run.output (r : Run) : Text := Text.join (r.printed.map fun s => s ++ "\n")

/-- The number by which a run tells how it ended. -/
def Run.exitCode (r : Run) : UInt32 :=
  match r.ending with
  | .success => 0
  | .failure | .aborted _ => 1

/-- The log lines that a request lets through. -/
def logOf (verbose : Bool) (lines : List LogLine) : List LogLine :=
  if verbose then lines else LogLine.warnings lines

/-- What is told of the sections of a game. -/
def sectionsLine (g : Game Float) : Text :=
  s!"Found {g.types.length} types, {g.species.length} species, {g.box.length} box entries"

/-- What is told at the end. -/
def closingLine (count : Nat) (g : Game Float) : Text :=
  s!"\n✅ Analysis complete! Ranked {count} box entries for " ++ g.name ++ "."

/-- What is told of an error that ends the command. -/
def errorLine (message : Text) : Text := "❌ Error: " ++ message

/-- The team where it is asked for. -/
def teamReport (r : Request Float) (a : Analyzer Float) (g : Game Float) :
    Except ScoreError (Option (TeamReport Float)) × List AnalysisNotice :=
  if r.team then
    let (report, notices) := a.team g
    (report.map some, notices)
  else (.ok none, [])

/-- What breaks the analysis of a game off for want of crit settings. The crit damage is wanted only
where there is something to score. -/
def hollowAbort? (r : Request Float) (g : Game Float) : Option Abort :=
  if .critPreset ∈ r.hollow then some .hollowPreset
  else if .critDamage ∈ r.hollow ∧ g.box ≠ [] then some .hollowDamage
  else none

/-- The end of a command for want of a creature's score. What is wrong with a value is told, as a
root of a number below zero or a number that is too long; anything else breaks the command off. -/
def unscored (error : ScoreError) (printed : List Text) (log : List LogLine) : Run :=
  match error with
  | .potentials .noRoot | .typeTooLong =>
    ⟨.failure, printed ++ [errorLine error.message], log⟩
  | _ => ⟨.aborted (.score error), printed, log⟩

/-- Tells of a game's ranked box, of its team and of the warnings; `printed` and `log` came
before. -/
def tell (r : Request Float) (g : Game Float) (a : Analyzer Float) (scores : List (Score Float))
    (printed : List Text) (log : List LogLine) : Run :=
  let printed := printed ++ Report.box r.top scores
  if Report.breaksOff r.top scores.length then
    ⟨.failure, printed ++ [errorLine Decimal.wholeTooLong], log⟩
  else
    let (team, notices) := teamReport r a g
    let log := log ++ logOf r.verbose (notices.map AnalysisNotice.logLine)
    match team with
    | .error error => unscored error printed log
    | .ok team =>
      let warnings := Warning.evaluate Warning.defaultRules (.of a.settings scores team)
      ⟨.success,
        printed ++ (team.map Report.team).getD [] ++ Report.heading "⚠️  WARNINGS"
          ++ [Warning.summary warnings, closingLine scores.length g], log⟩

/-- Analyses a game that is loaded; `printed` and `log` came before. -/
def analyze (r : Request Float) (g : Game Float) (printed : List Text) (log : List LogLine) :
    Run :=
  let analyzer := Analyzer.ofGame g (g.settings.change r.settingsChange).written
  let printed := printed ++ if r.verbose then [sectionsLine g] else []
  let (box, notices) := analyzer.box g
  let log := log ++ logOf r.verbose (notices.map AnalysisNotice.logLine)
  match box with
  | .error error => unscored error printed log
  | .ok scores => tell r g analyzer scores printed log

/-- What breaks the loading of a game off and is not told as a flaw of it. -/
def loadAbort? : LoadError (Game.Flaw Float) → Option Abort
  | .unreadable fault path => some (.unreadable fault path)
  | error => (Game.overrun? error).map .overrun

/-- What is told of a game that cannot be loaded, after what was printed and logged. -/
def refused (r : Request Float) (error : LoadError (Game.Flaw Float)) (printed : List Text)
    (log : List LogLine) : Run :=
  match loadAbort? error with
  | some abort => ⟨.aborted abort, printed, log⟩
  | none =>
    ⟨.failure, printed ++ [errorLine (Game.loadMessage (Game.filePlace r.path) error)], log⟩

/-- Carries out a request, given what stands at the normal form of the path that it names. -/
def run (r : Request Float) (state : FileState) : Run :=
  match state.sighted with
  | .missing => ⟨.failure, ["Error: Game file '" ++ r.path ++ "' not found."], []⟩
  | .unreadable .nameTooLong => ⟨.aborted (.unreadable .nameTooLong (normalPath r.path)), [], []⟩
  | _ =>
    let printed := ["📄 Loading game: " ++ fileName r.path]
    let loading := Game.ofFile r.path state
    let log := loading.notices.map Game.Notice.logLine
    match loading.result with
    | .error error => refused r error printed log
    | .ok g =>
      match hollowAbort? r g with
      | some abort => ⟨.aborted abort, printed, log⟩
      | none => analyze r g printed log

end Roster.Command
