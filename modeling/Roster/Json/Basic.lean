import Roster.Number
import Roster.Keyed
import Roster.Text.Quoted

/-!
# JSON values

Documents as trees. Numbers keep whether they were written as whole ones, objects the order of their
members. `shown` is how a value stands in a diagnostic, `plainText` how it stands where a text is
wanted: there a text is itself. Neither is there for a value with a whole number that is too long to
be written.
-/

namespace Roster

/-- A JSON value with numbers over the given scalars. -/
inductive Json (α : Type) where
  | null
  | bool (b : Bool)
  | number (n : Number α)
  | string (s : Text)
  | array (items : List (Json α))
  | object (members : List (Text × Json α))
  deriving Repr

namespace Json

variable {α : Type}

/-- An object whose keys are strings. -/
def record (members : List (String × Json α)) : Json α :=
  .object (members.map fun e => ((e.1 : Text), e.2))

/-- The members of an object. -/
abbrev Members (α : Type) := Keyed Text (Json α)

/-- The value of an object's member, if there is one. -/
def member? (key : String) (members : Members α) : Option (Json α) :=
  Keyed.get? (key : Text) members

/-- The value of an object's member; `null` if there is none. -/
def member (key : String) (members : Members α) : Json α := (member? key members).getD .null

/-- The kind of a value, as a diagnostic names it. -/
def kind : Json α → String
  | .null => "NoneType"
  | .bool _ => "bool"
  | .number (.whole _) => "int"
  | .number (.real _) => "float"
  | .string _ => "str"
  | .array _ => "list"
  | .object _ => "dict"

/-- Whether a value counts as yes where a switch is wanted: neither null, false, zero nor empty. -/
def isTrue [Scalar α] : Json α → Bool
  | .null => false
  | .bool b => b
  | .number (.whole n) => n != 0
  | .number (.real x) => !decide (Scalar.IsZero x)
  | .string s => !s.isEmpty
  | .array items => !items.isEmpty
  | .object members => !members.isEmpty

mutual

/-- A value as it stands in a diagnostic. -/
def shown [Numeral α] : Json α → String
  | .null => "None"
  | .bool b => if b then "True" else "False"
  | .number n => n.text
  | .string s => Text.quoted s
  | .array items => "[" ++ String.intercalate ", " (shownItems items) ++ "]"
  | .object members => "\x7b" ++ String.intercalate ", " (shownMembers members) ++ "\x7d"

/-- The items of an array as they stand in a diagnostic. -/
def shownItems [Numeral α] : List (Json α) → List String
  | [] => []
  | v :: rest => shown v :: shownItems rest

/-- The members of an object as they stand in a diagnostic. -/
def shownMembers [Numeral α] : Members α → List String
  | [] => []
  | (k, v) :: rest => (Text.quoted k ++ ": " ++ shown v) :: shownMembers rest

end

mutual

/-- Whether a value can be shown: no whole number in it is too long to be written. -/
def isWritable : Json α → Bool
  | .number (.whole n) => (Decimal.wholeText? n).isSome
  | .array items => areWritable items
  | .object members => membersWritable members
  | _ => true

/-- Whether the items of an array can be shown. -/
def areWritable : List (Json α) → Bool
  | [] => true
  | v :: rest => isWritable v && areWritable rest

/-- Whether the members of an object can be shown. -/
def membersWritable : Members α → Bool
  | [] => true
  | (_, v) :: rest => isWritable v && membersWritable rest

end

/-- A diagnostic that ends with the value that was found. Of a value that cannot be shown nothing is
said but that. -/
def diagnostic [Numeral α] (text : String) (found : Json α) : String :=
  if found.isWritable then s!"{text}, got {found.shown}" else Decimal.wholeTooLong

/-- A value where a text is wanted: a text is itself, other values are shown. -/
def plainText [Numeral α] : Json α → Text
  | .string s => s
  | v => v.shown

end Json

end Roster
