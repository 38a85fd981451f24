import Roster.Analysis

/-!
# Warnings

What is worth knowing about a box and a team. Rules look at the scored box and the team's coverage
and put out items; of items with one code and detail the first is kept, and the report is ordered by
severity and code.
-/

namespace Roster

/-- How grave a warning is. -/
inductive Severity where
  /-- Worth knowing, no problem. -/
  | info
  /-- Likely to skew the ranking or to hurt the team. -/
  | warn
  /-- The team has a hole. -/
  | high
  deriving DecidableEq, Repr

namespace Severity

/-- The severities, gravest first. -/
def all : List Severity := [.high, .warn, .info]

/-- The place of a severity, gravest first. -/
def order : Severity → Nat
  | .high => 0
  | .warn => 1
  | .info => 2

def keyword : Severity → String
  | .info => "info"
  | .warn => "warn"
  | .high => "high"

/-- The word at the head of a severity's items. -/
def heading : Severity → String
  | .info => "INFO"
  | .warn => "WARN"
  | .high => "HIGH"

end Severity

/-- A warning. -/
structure Warning where
  code : String
  severity : Severity
  title : Text
  detail : Text
  evidence : List Text
  suggestion : Option Text
  deriving DecidableEq, Repr

namespace Warning

/-- What warnings need to know of a creature in the box. -/
structure Creature where
  name : Text
  unbalanced : Bool
  tags : List Text
  ignored : List Text
  deriving DecidableEq, Repr

/-- What warnings need to know of a team. -/
structure Team where
  coverage : List CoverageRow
  emptySlots : List Nat
  deriving DecidableEq, Repr

/-- What rules look at. -/
structure Context where
  preset : Text
  box : List Creature
  team : Option Team
  deriving DecidableEq, Repr

/-- A rule: the items that it puts out. -/
abbrev Rule := Context → List Warning

/-- The creature of a score. -/
def Creature.ofScore {α : Type} (s : Score α) : Creature :=
  ⟨s.name, s.potentials.unbalanced, s.tags, s.ignored⟩

/-- The team of a report. -/
def Team.ofReport {α : Type} (r : TeamReport α) : Team := ⟨r.coverage, r.emptySlots⟩

/-- The context of settings, a scored box and a team if there is one. -/
def Context.of {α β : Type} (settings : Settings β) (box : List (Score α))
    (team : Option (TeamReport α)) : Context :=
  ⟨settings.critPreset, box.map .ofScore, team.map .ofReport⟩

/-! ### Rules -/

/-- The item of a creature whose two sides are zero. -/
def ofUnbalanced (c : Creature) : Warning where
  code := "BALANCE_INVALID"
  severity := .warn
  title := "Unbalanced Rank"
  detail := "Rank could not be balanced for " ++ c.name
  evidence := c.tags
  suggestion := some "Check for zeroed stats or stacked immunity tags"

/-- Creatures whose two sides are zero. -/
def unbalancedRule : Rule := fun ctx => (ctx.box.filter (·.unbalanced)).map ofUnbalanced

/-- The item of a creature with tags that have no effect. -/
def ofIgnored (c : Creature) : Warning where
  code := "IGNORED_TAGS"
  severity := .info
  title := "Unrecognized Tags"
  detail := c.name ++ s!" has {c.ignored.length} tag(s) with no effect"
  evidence := c.ignored
  suggestion := some "Use the tag builder to write tags in a recognized form"

/-- Creatures with tags that have no effect. -/
def ignoredTagsRule : Rule := fun ctx =>
  (ctx.box.filter fun c => !c.ignored.isEmpty).map ofIgnored

/-- A crit table that is not known. -/
def unknownPresetRule : Rule := fun ctx =>
  if Crit.isKnownPreset ctx.preset then []
  else
    [{ code := "UNKNOWN_CRIT_PRESET"
       severity := .info
       title := "Unknown Crit Preset"
       detail :=
         "Crit preset '" ++ ctx.preset ++ "' is not known; gen7 stages are used instead"
       evidence := [ctx.preset]
       suggestion := none }]

/-- The members that resist a type or are immune to it. -/
def cover (row : CoverageRow) : Nat := row.resist + row.immune

/-- How grave a type's coverage is: three weak members without cover are a hole, two or more that
outnumber the cover a warning. -/
def weaknessSeverity (row : CoverageRow) : Option Severity :=
  if 3 ≤ row.weak ∧ cover row = 0 then some .high
  else if 2 ≤ row.weak ∧ cover row < row.weak then some .warn
  else none

/-- The item of a type that several members are weak to. -/
def ofWeakness (row : CoverageRow) (severity : Severity) : Warning where
  code := "TEAM_SHARED_WEAKNESS"
  severity
  title := "Shared " ++ row.type.name ++ " Weakness"
  detail :=
    s!"{row.weak} member(s) weak to " ++ row.type.name ++ s!", {cover row} resist or immune"
  evidence := [s!"weak={row.weak}", s!"resist={row.resist}", s!"immune={row.immune}"]
  suggestion := some ("Add a member that resists " ++ row.type.name)

/-- Types that several members are weak to. -/
def sharedWeaknessRule : Rule := fun ctx =>
  match ctx.team with
  | none => []
  | some team => team.coverage.filterMap fun row => (weaknessSeverity row).map (ofWeakness row)

/-- Slots of the team that are empty. -/
def emptySlotsRule : Rule := fun ctx =>
  match ctx.team with
  | none => []
  | some team =>
    if team.emptySlots.isEmpty then []
    else
      [{ code := "TEAM_EMPTY_SLOTS"
         severity := .info
         title := "Empty Team Slots"
         detail := s!"{team.emptySlots.length} of 6 team slots are empty"
         evidence := team.emptySlots.map fun n => s!"slot {n}"
         suggestion := none }]

/-- The rules by name, in the order in which they are applied. -/
def rulesByName : List (String × Rule) :=
  [("balance_invalid", unbalancedRule), ("ignored_tags", ignoredTagsRule),
    ("unknown_crit_preset", unknownPresetRule), ("team_shared_weakness", sharedWeaknessRule),
    ("team_empty_slots", emptySlotsRule)]

/-- The rules that are applied where no others are asked for. -/
def defaultRules : List Rule := rulesByName.map Prod.snd

/-! ### Reports -/

/-- What makes two items the same. -/
def key (w : Warning) : String × Text := (w.code, w.detail)

/-- Items without those whose key came before; `seen` are the keys that came before. -/
def dedupFrom (seen : List (String × Text)) : List Warning → List Warning
  | [] => []
  | w :: rest =>
    if w.key ∈ seen then dedupFrom seen rest else w :: dedupFrom (w.key :: seen) rest

/-- The first item of every key. -/
def dedup (items : List Warning) : List Warning := dedupFrom [] items

/-- Whether an item stands in front of another one, or may: by severity, then by code. -/
def before (w v : Warning) : Bool :=
  if w.severity.order = v.severity.order then decide (w.code ≤ v.code)
  else decide (w.severity.order < v.severity.order)

/-- The items of all rules, each key once, in their order. -/
def evaluate (rules : List Rule) (ctx : Context) : List Warning :=
  (dedup (rules.flatMap fun rule => rule ctx)).mergeSort before

/-- The items of a severity. -/
def ofSeverity (severity : Severity) (items : List Warning) : List Warning :=
  items.filter fun w => w.severity = severity

/-- The items by severity, those of each in their order. A severity without items has no group. -/
def bySeverity (items : List Warning) : Keyed Severity (List Warning) :=
  items.foldl
    (fun groups w => groups.put w.severity (((groups.get? w.severity).getD []) ++ [w])) []

/-- The items of a code. -/
def ofCode (code : String) (items : List Warning) : List Warning :=
  items.filter fun w => w.code = code

end Warning

end Roster
