import Roster.Command.Line
import Roster.Decimal.Literal
import Roster.Settings
import Roster.Text.Quoted

/-!
# What a command line asks for

The command names a game's file and takes options: whether the team is shown, how many of the box
are, what replaces the game's crit settings, and whether more is told. Options count from left to
right, the last value of each; the first fault ends the reading, and what is missing or left over is
told only after that. A divider that is attached as a value is no value: it leaves the option given
but hollow. A hollow limit is none; with hollow crit settings there is nothing to score by.
-/

namespace Roster.Command

/-- The options. -/
inductive OptionKey where
  | help
  | team
  | top
  | critPreset
  | critDamage
  | verbose
  deriving DecidableEq, Repr

/-- The options with their spellings. -/
def optionForms : List (OptionForm OptionKey) :=
  [⟨.help, ["-h", "--help"], false⟩, ⟨.team, ["--team"], false⟩, ⟨.top, ["--top"], true⟩,
    ⟨.critPreset, ["--crit-preset"], true⟩, ⟨.critDamage, ["--crit-damage"], true⟩,
    ⟨.verbose, ["-v", "--verbose"], false⟩]

/-- The name of an option where it is told about. -/
def OptionKey.name (k : OptionKey) : String :=
  ((optionForms.find? fun f => f.key = k).map OptionForm.name).getD ""

/-- The name of the argument. -/
def argumentName : String := "game"

/-- What is asked for. -/
structure Request (α : Type) where
  path : Text
  team : Bool
  top : Option Int
  critPreset : Option Text
  critDamage : Option α
  verbose : Bool
  /-- The options that are given with a divider for a value. -/
  hollow : List OptionKey := []
  deriving DecidableEq, Repr

/-- What replaces the game's settings. -/
def Request.settingsChange {α : Type} (r : Request α) : SettingsChange α :=
  { critPreset := r.critPreset, critDamage := r.critDamage }

/-- What a command line comes to. -/
inductive Parsed (α : Type) where
  | help
  | request (request : Request α)
  | refused (error : UsageError)
  deriving DecidableEq, Repr

/-- What has been read of a command line. -/
structure Draft (α : Type) where
  path : Option Text := none
  extras : List Text := []
  team : Bool := false
  top : Option Int := none
  critPreset : Option Text := none
  critDamage : Option α := none
  verbose : Bool := false
  hollow : List OptionKey := []

variable {α : Type} [Numeral α]

/-- The amount that a text spells: a finite number that is not negative. -/
def amountOf (s : Text) : Except String α :=
  match Decimal.Literal.ofText? s with
  | none => .error s!"{Text.quoted s} is not a number"
  | some literal =>
    let x : α := Numeral.ofLiteral literal
    if Scalar.Finite x ∧ ¬ x < 0 then .ok x
    else .error s!"must be a finite number, 0 or more, got {Text.quoted s}"

/-- The whole number that a text spells. -/
def countOf (s : Text) : Except String Int :=
  match Decimal.wholeOfText? s with
  | none => .error s!"invalid int value: {Text.quoted s}"
  | some n => .ok n

/-- A draft with one more option and its value. -/
def Draft.set (d : Draft α) (key : OptionKey) (value : Text) : Except UsageError (Draft α) :=
  match key with
  | .help => .ok d
  | .team => .ok { d with team := true }
  | .top =>
    match countOf value with
    | .error reason => .error (.badValue key.name reason)
    | .ok n => .ok { d with top := some n }
  | .critPreset => .ok { d with critPreset := some value }
  | .critDamage =>
    match amountOf value with
    | .error reason => .error (.badValue key.name reason)
    | .ok x => .ok { d with critDamage := some x }
  | .verbose => .ok { d with verbose := true }

/-- A draft without a value for an option. -/
def Draft.unset (d : Draft α) (key : OptionKey) : Draft α :=
  match key with
  | .top => { d with top := none }
  | .critPreset => { d with critPreset := none }
  | .critDamage => { d with critDamage := none }
  | .help | .team | .verbose => d

/-- A draft with one more option: it has a value, or a divider in its place, or takes none. -/
def Draft.take (d : Draft α) (key : OptionKey) (value : Option Text) :
    Except UsageError (Draft α) :=
  if value = some dividerText then .ok { d.unset key with hollow := key :: d.hollow }
  else { d with hollow := d.hollow.filter (· ≠ key) }.set key (value.getD "")

/-- What a draft of a whole command line comes to. -/
def Draft.finish (d : Draft α) : Parsed α :=
  match d.path with
  | none => .refused (.missingArgument argumentName)
  | some path =>
    if d.extras.isEmpty then
      .request
        { path, team := d.team, top := d.top, critPreset := d.critPreset
          critDamage := d.critDamage, verbose := d.verbose, hollow := d.hollow }
    else .refused (.unrecognized d.extras)

/-- What events come to, added to a draft. Help ends the reading. -/
def Draft.run (d : Draft α) : List (Event OptionKey) → Parsed α
  | [] => d.finish
  | .argument s :: rest => { d with path := some s }.run rest
  | .extra s :: rest => { d with extras := d.extras ++ [s] }.run rest
  | .fault error :: _ => .refused error
  | .option key value :: rest =>
    if key = .help then .help
    else
      match d.take key value with
      | .error error => .refused error
      | .ok d => d.run rest

/-- Reads a command line. -/
def parse (words : List Text) : Parsed α :=
  match Word.ofLine optionForms words with
  | .error error => .refused error
  | .ok words => Draft.run {} (events words)

/-- The name of the program where it tells of errors. -/
def programName : String := "teamforge"

/-- How an option is written in the usage: its spellings, with a word for its value. -/
def OptionForm.usage (f : OptionForm OptionKey) : String :=
  String.intercalate ", " (f.spellings.map fun s => if f.takesValue then s ++ " VALUE" else s)

/-- How the program is used: the argument, then a line for each option. -/
def usage (program : String) : String :=
  String.intercalate "\n  " (s!"usage: {program} [options] {argumentName}"
    :: optionForms.map OptionForm.usage)

/-- The line on which a refused command line is told. -/
def usageLine (program : String) (error : UsageError) : Text :=
  s!"{program}: error: " ++ error.message

end Roster.Command
