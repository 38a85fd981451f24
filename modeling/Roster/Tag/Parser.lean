import Roster.Tag.Effect
import Roster.Text.Split
import Roster.TypeName

/-!
# Reading tags

A tag is a text of parts between colons: a keyword, then what it applies to and a number. A tag that
fits no form has no effect. Keywords count as they are written, but for those of the crit family and
the names of stats and types, where case and blanks around do not matter.
-/

namespace Roster.Tag

variable {α : Type} [Numeral α]

/-- The finite number that a payload spells. -/
def number? (s : Text) : Option α :=
  match Decimal.Literal.ofText? (Text.trim s) with
  | none => none
  | some literal =>
    let x : α := Numeral.ofLiteral literal
    if Scalar.Finite x then some x else none

/-- The factor that a payload spells: a finite number that is not negative. -/
def factor? (s : Text) : Option α :=
  (number? s).bind fun x => if x < 0 then none else some x

/-- The normal form of a type's name, unless it is blank. -/
def typeName? (s : Text) : Option Text :=
  let name := TypeName.normal s
  if name = "" then none else some name

/-- The effect of a multiplier of what the keyword names: a stat, a bulk or a side. -/
def multiplier? (target : Text) (factor : α) : Option (Effect α) :=
  match Stat.ofText? target with
  | some stat => some (.stat stat factor)
  | none =>
    if target = "defeff" then some (.physicalBulk factor)
    else if target = "spdeff" then some (.specialBulk factor)
    else if target = "defense" then some (.defense factor)
    else if target = "off" then some (.offense factor)
    else none

/-- The effect of the parts behind the keyword `mult`. -/
def mult? : List Text → Option (Effect α)
  | [target, payload] => do
    let factor ← factor? payload
    multiplier? target factor
  | [target, type, payload] => do
    if target = "off_type" then
      let type ← typeName? type
      let factor ← factor? payload
      some (.offenseIfType type factor)
    else if target = "in_type" then
      let type ← typeName? type
      let factor ← factor? payload
      some (.incoming (.factor type factor))
    else none
  | [target, stat, type, payload] => do
    if target = "stat_if_type" then
      let stat ← Stat.ofText? stat
      let type ← typeName? type
      let factor ← factor? payload
      some (.statIfType stat type factor)
    else none
  | _ => none

/-- The marks that may stand in front of a crit tag's number. -/
def critMarks : CritKind → List Text
  | .damage => ["x", "X"]
  | _ => ["+"]

/-- The value of a crit tag: a factor for damage, else any finite number. -/
def critValue? (kind : CritKind) (payload : Text) : Option α :=
  let payload := Text.dropMark (critMarks kind) (Text.trim payload)
  match kind with
  | .damage => factor? payload
  | _ => number? payload

/-- The effect of the parts behind the keyword `crit`. -/
def crit? : List Text → Option (Effect α)
  | [kind, payload] => do
    let kind ← CritKind.ofKeyword? (Text.lower (Text.trim kind))
    let value ← critValue? kind payload
    some (.crit kind value)
  | _ => none

/-- The effect of a keyword with one part behind it. -/
def single? (keyword payload : Text) : Option (Effect α) :=
  match Relation.ofKeyword? keyword with
  | some relation => (typeName? payload).map fun type => .incoming (.relation relation type)
  | none =>
    if keyword = "flag" then (Flag.ofKeyword? payload).map .flag
    else if keyword = "special" then
      if payload = "wonder_guard" then some (.flag .wonderGuard) else none
    else if keyword = "evolution" then
      (Evolution.ofKeyword? payload).map fun way => .note (.evolution way)
    else if keyword = "species" then
      let name := Text.trim payload
      if name = "" then none else some (.note (.species name))
    else none

/-- The effect of a tag's parts. -/
def ofParts? : List Text → Option (Effect α)
  | [] => none
  | keyword :: parts =>
    if Text.lower keyword = "crit" then crit? parts
    else if keyword = "mult" then mult? parts
    else
      match parts with
      | [payload] => single? keyword payload
      | _ => none

/-- The effect of a tag, if it has one. -/
def parse (tag : Text) : Option (Effect α) := ofParts? (Text.split ':' (Text.trim tag))

/-- The effects of tags, in order; tags without one are passed over. -/
def effects (tags : List Text) : List (Effect α) := tags.filterMap parse

@[simp] theorem effects_nil : effects (α := α) [] = [] := rfl

theorem effects_append (tags tags' : List Text) :
    effects (α := α) (tags ++ tags') = effects tags ++ effects tags' :=
  List.filterMap_append

end Roster.Tag
