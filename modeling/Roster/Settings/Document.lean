import Roster.Json.Amount
import Roster.Json.Reader
import Roster.Settings
import Roster.Text.Blank

/-!
# Settings as documents

Settings are read from a JSON object. Members that are not known are passed over, missing ones keep
their defaults; a value of the wrong kind is refused, in a fixed order of the members. Writing gives
an object with all members.
-/

namespace Roster.Settings

/-- Why a value gives no settings. -/
inductive Flaw (α : Type) where
  | notObject (value : Json α)
  | blankPreset (value : Json α)
  | notNumber (key : String) (value : Json α)
  | notAmount (key : String) (value : Json α)
  | notSwitch (key : String) (value : Json α)
  /-- A whole number beyond the finite scalars. -/
  | beyondScalars

/-- What is said of a flaw. -/
def Flaw.message {α : Type} [Numeral α] : Flaw α → String
  | .notObject v => s!"Settings must be a JSON object, got {v.kind}"
  | .blankPreset v => v.diagnostic "crit_stage_preset must be a non-empty string"
  | .notNumber key v => v.diagnostic s!"{key} must be a number"
  | .notAmount key v => v.diagnostic s!"{key} must be a finite number, 0 or more"
  | .notSwitch key v => v.diagnostic s!"{key} must be a boolean"
  | .beyondScalars => Number.beyondScalarsMessage

/-- The names of the members. -/
def presetKey : String := "crit_stage_preset"
def critDamageKey : String := "crit_base_damage_mult"
def critChanceKey : String := "crit_base_chance"
def abilitiesKey : String := "disable_abilities"
def itemsKey : String := "disable_held_items"

variable {α : Type} [Scalar α]

/-- The preset that a value names, without blanks around. -/
def readPreset : Json α → Except (Flaw α) Text
  | .string s =>
    let name := Text.trim s
    if name = "" then .error (.blankPreset (.string s)) else .ok name
  | v => .error (.blankPreset v)

/-- The amount of a member. -/
def readAmount (key : String) (v : Json α) : Except (Flaw α) α :=
  match v.amount? with
  | .ok (_, x) => .ok x
  | .error .notNumber => .error (.notNumber key v)
  | .error .outOfRange => .error (.notAmount key v)
  | .error .beyondScalars => .error .beyondScalars

/-- The setting of a switch: a truth value, or one of the whole numbers zero and one. -/
def readSwitch (key : String) : Json α → Except (Flaw α) Bool
  | .bool b => .ok b
  | .number (.whole n) =>
    if n = 0 then .ok false
    else if n = 1 then .ok true
    else .error (.notSwitch key (.number (.whole n)))
  | v => .error (.notSwitch key v)

/-- Reads a member if it is there. -/
def readMember {β : Type} (members : Json.Members α) (key : String) (absent : β)
    (reader : Json α → Except (Flaw α) β) : Except (Flaw α) β :=
  match Json.member? key members with
  | none => .ok absent
  | some v => reader v

/-- The settings of an object's members. -/
def ofMembers (members : Json.Members α) : Except (Flaw α) (Settings α) := do
  let start : Settings α := .default
  let critPreset ← readMember members presetKey start.critPreset readPreset
  let critDamage ← readMember members critDamageKey start.critDamage (readAmount critDamageKey)
  let critChance ← readMember members critChanceKey start.critChance fun v =>
    match v with
    | .null => .ok none
    | v => (readAmount critChanceKey v).map some
  let disableAbilities ←
    readMember members abilitiesKey start.disableAbilities (readSwitch abilitiesKey)
  let disableItems ← readMember members itemsKey start.disableItems (readSwitch itemsKey)
  return { critPreset, critDamage, critChance, disableAbilities, disableItems }

/-- The settings of a value; none given are the defaults. -/
def ofJson : Json α → Except (Flaw α) (Settings α)
  | .null => .ok .default
  | .object members => ofMembers members
  | v => .error (.notObject v)

/-- Settings as an object. -/
def toJson (s : Settings α) : Json α :=
  .record
    [(presetKey, .string s.critPreset),
      (critDamageKey, .number (.real s.critDamage)),
      (critChanceKey, (s.critChance.map fun x => .number (.real x)).getD .null),
      (abilitiesKey, .bool s.disableAbilities),
      (itemsKey, .bool s.disableItems)]

end Roster.Settings
