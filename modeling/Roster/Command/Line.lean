import Roster.Text.Quoted
import Roster.Text.Split
import Roster.Text.Digit

/-!
# Command lines

A command line is a list of words. Each word is an option, a plain word, the divider `--` behind
which all words are plain, or an option that is not known. Options may be cut short where only one
begins so; a value is the next plain word or follows a `=`; options of one letter can be written
together, behind one another or behind a `=`. From left to right the words give events: options
with their values, the first plain word as the argument, further words that have no place, and
faults. Whether a word is an option is settled for the whole line before.
-/

namespace Roster.Command

/-- An option: how it is spelled, and whether a value follows. -/
structure OptionForm (κ : Type) where
  key : κ
  spellings : List String
  takesValue : Bool
  deriving DecidableEq, Repr

/-- The name of an option where it is told about. -/
def OptionForm.name {κ : Type} (f : OptionForm κ) : String := String.intercalate "/" f.spellings

/-- Why a command line is refused. -/
inductive UsageError where
  | ambiguous (word : Text) (candidates : List String)
  | strayValue (option : String) (value : Text)
  | missingValue (option : String)
  | badValue (option reason : String)
  | missingArgument (name : String)
  | unrecognized (words : List Text)
  deriving DecidableEq, Repr

/-- What is said of a refused command line. -/
def UsageError.message : UsageError → Text
  | .ambiguous word candidates =>
    "ambiguous option: " ++ word ++ " could match " ++ String.intercalate ", " candidates
  | .strayValue option value =>
    s!"argument {option}: ignored explicit argument {Text.quoted value}"
  | .missingValue option => s!"argument {option}: expected one argument"
  | .badValue option reason => s!"argument {option}: {reason}"
  | .missingArgument name => s!"the following arguments are required: {name}"
  | .unrecognized words => "unrecognized arguments: " ++ Text.intercalate " " words

/-- What a word of a command line is. -/
inductive Word (κ : Type) where
  | plain (text : Text)
  | divider
  | option (form : OptionForm κ) (value : Option Text)
  | unknown (text : Text)
  | fault (error : UsageError)
  deriving DecidableEq, Repr

/-- What words amount to, from left to right. -/
inductive Event (κ : Type) where
  | option (key : κ) (value : Option Text)
  | argument (text : Text)
  | extra (text : Text)
  | fault (error : UsageError)
  deriving DecidableEq, Repr

/-- The divider as it is written. -/
def dividerText : Text := "--"

/-- Whether a code point is a decimal digit of any script. -/
def isDigit (c : CodePoint) : Bool := c.satisfies fun c => (Text.digitValue? c).isSome

/-- Whether code points are decimal digits, at least one. -/
def areDigits (s : List CodePoint) : Bool := !s.isEmpty && s.all isDigit

/-- Whether a text is a negative whole or decimal number, which no option looks like. A line feed
behind it does not matter. -/
def isNegativeNumber : List CodePoint → Bool
  | .char '-' :: s =>
    let s := if s.getLast? = some (.char '\n') then s.dropLast else s
    areDigits s ||
      match s.dropWhile isDigit with
      | .char '.' :: places => areDigits places
      | _ => false
  | _ => false

/-- The part before the first `=` and the part behind it, if there is one. -/
def splitValue (s : List CodePoint) : List CodePoint × Option (List CodePoint) :=
  match s.dropWhile (· ≠ .char '=') with
  | _ :: value => (s.takeWhile (· ≠ .char '='), some value)
  | [] => (s, none)

variable {κ : Type}

/-- The option with a spelling. -/
def formOf? (forms : List (OptionForm κ)) (spelling : List CodePoint) : Option (OptionForm κ) :=
  forms.find? fun f => f.spellings.any fun s => (Text.ofString s).toList == spelling

/-- The spellings that begin with a text, each with its option. -/
def beginningWith (forms : List (OptionForm κ)) (start : List CodePoint) :
    List (String × OptionForm κ) :=
  forms.flatMap fun f =>
    (f.spellings.filter fun s => start.isPrefixOf (Text.ofString s).toList).map fun s => (s, f)

/-- A letter's option with the characters written behind it: letters stand for options of their own,
up to one that has a value, which is the rest. Characters that begin no option are a value that the
letter before does not take. -/
def cluster (forms : List (OptionForm κ)) (form : OptionForm κ) :
    List CodePoint → Except UsageError (List (Word κ))
  | [] => .ok [.option form none]
  | c :: rest =>
    if form.takesValue then .ok [.option form (some ⟨c :: rest⟩)]
    else
      match formOf? forms [.char '-', c] with
      | none => .error (.strayValue form.name ⟨c :: rest⟩)
      | some next => (cluster forms next rest).map (.option form none :: ·)

/-- The words of a cluster; where one of its letters is at fault none counts. -/
def clusterWords (forms : List (OptionForm κ)) (form : OptionForm κ) (behind : List CodePoint) :
    List (Word κ) :=
  match cluster forms form behind with
  | .error error => [.fault error]
  | .ok words => words

/-- Whether a spelling is a long one, with two hyphens. -/
def isLong (spelling : List CodePoint) : Bool := spelling[1]? == some (.char '-')

/-- The words of an option with a value attached by a `=`. Behind a letter that takes no value the
characters of the value are letters too. -/
def attached (forms : List (OptionForm κ)) (spelling : List CodePoint) (form : OptionForm κ)
    (value : List CodePoint) : List (Word κ) :=
  if form.takesValue then [.option form (some ⟨value⟩)]
  else if isLong spelling || value.isEmpty then [.fault (.strayValue form.name ⟨value⟩)]
  else clusterWords forms form value

/-- What a word is that begins like a long option but is none: the one that it cuts short, if no
other begins so too. -/
def abbreviated (forms : List (OptionForm κ)) (word : List CodePoint) :
    Except UsageError (Option (List (Word κ))) :=
  let (start, value) := splitValue word
  match beginningWith forms start with
  | [] => .ok none
  | [(spelling, form)] =>
    match value with
    | none => .ok (some [.option form none])
    | some value => .ok (some (attached forms (Text.ofString spelling).toList form value))
  | candidates => .error (.ambiguous ⟨word⟩ (candidates.map Prod.fst))

/-- What a word is that begins with one hyphen and is no option: letters behind a letter's option,
if there is one. -/
def clustered (forms : List (OptionForm κ)) (word : List CodePoint) : Option (List (Word κ)) :=
  (formOf? forms (word.take 2)).map fun form => clusterWords forms form (word.drop 2)

/-- What a word before the divider is. A number below zero and a text with a space that are no
options are plain. -/
def Word.ofText (forms : List (OptionForm κ)) (s : Text) : Except UsageError (List (Word κ)) :=
  let cs := s.toList
  let other : List (Word κ) :=
    if isNegativeNumber cs || cs.contains (.char ' ') then [.plain s] else [.unknown s]
  match cs with
  | .char '-' :: c :: _ =>
    match formOf? forms cs, splitValue cs with
    | some form, _ => .ok [.option form none]
    | none, (spelling, value) =>
      match value, formOf? forms spelling with
      | some value, some form => .ok (attached forms spelling form value)
      | _, _ =>
        if c = .char '-' then do return (← abbreviated forms cs).getD other
        else .ok ((clustered forms cs).getD other)
  | _ => .ok [.plain s]

/-- What the words of a command line are. -/
def Word.ofLine (forms : List (OptionForm κ)) : List Text → Except UsageError (List (Word κ))
  | [] => .ok []
  | s :: rest =>
    if s = dividerText then .ok (.divider :: rest.map .plain)
    else do
      let words ← Word.ofText forms s
      return words ++ (← Word.ofLine forms rest)

/-- Words without a divider at their front. -/
def dropDivider : List (Word κ) → List (Word κ)
  | .divider :: rest => rest
  | words => words

/-- What words amount to behind the argument. -/
def eventsBehind : List (Word κ) → List (Event κ)
  | [] => []
  | .plain s :: rest => .extra s :: eventsBehind rest
  | .divider :: rest => .extra dividerText :: eventsBehind rest
  | .unknown s :: rest => .extra s :: eventsBehind rest
  | .fault error :: _ => [.fault error]
  | .option form (some value) :: rest => .option form.key (some value) :: eventsBehind rest
  | .option form none :: .plain s :: rest =>
    if form.takesValue then .option form.key (some s) :: eventsBehind rest
    else .option form.key none :: .extra s :: eventsBehind rest
  | .option form none :: rest =>
    if form.takesValue then [.fault (.missingValue form.name)]
    else .option form.key none :: eventsBehind rest

/-- What words amount to. The first plain word that is no option's value is the argument, and a
divider beside it goes with it. -/
def events : List (Word κ) → List (Event κ)
  | [] => []
  | .plain s :: rest => .argument s :: eventsBehind (dropDivider rest)
  | .divider :: .plain s :: rest => .argument s :: eventsBehind rest
  | .divider :: rest => .extra dividerText :: events rest
  | .unknown s :: rest => .extra s :: events rest
  | .fault error :: _ => [.fault error]
  | .option form (some value) :: rest => .option form.key (some value) :: events rest
  | .option form none :: .plain s :: rest =>
    if form.takesValue then .option form.key (some s) :: events rest
    else .option form.key none :: .argument s :: eventsBehind (dropDivider rest)
  | .option form none :: rest =>
    if form.takesValue then [.fault (.missingValue form.name)]
    else .option form.key none :: events rest

end Roster.Command
