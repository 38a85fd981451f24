import Roster.Tag.Parser

/-!
# Writing tags

The kinds of tags that can be put together from parts: what each is called, how it is spelled and
which parts it needs. A tag is built from its parts without blanks around them, if none is missing.
-/

namespace Roster.Tag

/-- The kinds of tags. -/
inductive Kind where
  | stat
  | physicalBulk
  | specialBulk
  | offense
  | defense
  | offenseIfType
  | incomingFactor
  | statIfType
  | relation (relation : Relation)
  | evolution (way : Evolution)
  | species
  | crit (kind : CritKind)
  | flag (flag : Flag)
  deriving DecidableEq, Repr

/-- The parts that a tag can be built from. -/
inductive Part where
  | stat
  | type
  | species
  | value
  deriving DecidableEq, Repr

/-- The name of a part. -/
def Part.id : Part → String
  | .stat => "stat"
  | .type => "type_name"
  | .species => "species"
  | .value => "value"

/-- The texts that a tag is built from; one that is not given is blank. -/
structure Parts where
  stat : Text
  type : Text
  species : Text
  value : Text
  deriving DecidableEq, Repr

/-- The text of a part. -/
def Parts.get (p : Parts) : Part → Text
  | .stat => p.stat
  | .type => p.type
  | .species => p.species
  | .value => p.value

/-- The parts without blanks around them. -/
def Parts.trim (p : Parts) : Parts :=
  ⟨Text.trim p.stat, Text.trim p.type, Text.trim p.species, Text.trim p.value⟩

namespace Kind

/-- The kinds in the order in which they are offered. -/
def all : List Kind :=
  [.stat, .physicalBulk, .specialBulk, .offense, .defense, .offenseIfType, .incomingFactor,
    .statIfType, .relation .immune, .relation .resist, .relation .weak, .evolution .item,
    .evolution .stone, .species, .crit .chance, .crit .damage, .crit .stage, .flag .wonderGuard,
    .flag .avoid]

/-- The name of a kind. -/
def id : Kind → String
  | .stat => "mult_stat"
  | .physicalBulk => "mult_defeff"
  | .specialBulk => "mult_spdeff"
  | .offense => "mult_off"
  | .defense => "mult_defense"
  | .offenseIfType => "mult_off_type"
  | .incomingFactor => "mult_in_type"
  | .statIfType => "mult_stat_if_type"
  | .relation r => r.keyword
  | .evolution way => "evolution_" ++ way.keyword
  | .species => "species"
  | .crit kind => "crit_" ++ kind.keyword
  | .flag f => "flag_" ++ f.keyword

/-- What a kind is called where it is offered. -/
def label : Kind → String
  | .stat => "Stat multiplier"
  | .physicalBulk => "Defensive bulk (physical)"
  | .specialBulk => "Defensive bulk (special)"
  | .offense => "Offense multiplier"
  | .defense => "Defense multiplier"
  | .offenseIfType => "Offense by type"
  | .incomingFactor => "Incoming by type"
  | .statIfType => "Stat if type"
  | .relation .immune => "Immune to type"
  | .relation .resist => "Resist type"
  | .relation .weak => "Weak to type"
  | .evolution .item => "Evolution item"
  | .evolution .stone => "Evolution stone"
  | .species => "Species tag"
  | .crit .chance => "Crit chance"
  | .crit .damage => "Crit damage"
  | .crit .stage => "Crit stage"
  | .flag .wonderGuard => "Wonder Guard flag"
  | .flag .avoid => "Avoid flag"

/-- The parts that a kind needs. -/
def needs : Kind → List Part
  | .stat => [.stat, .value]
  | .physicalBulk | .specialBulk | .offense | .defense => [.value]
  | .offenseIfType | .incomingFactor => [.type, .value]
  | .statIfType => [.stat, .type, .value]
  | .relation _ => [.type]
  | .evolution _ => []
  | .species => [.species]
  | .crit _ => [.value]
  | .flag _ => []

/-- How a tag of the kind is spelled, with the names of its parts. -/
def pattern : Kind → String
  | .stat => "mult:stat:multiplier"
  | .physicalBulk => "mult:defeff:N"
  | .specialBulk => "mult:spdeff:N"
  | .offense => "mult:off:N"
  | .defense => "mult:defense:N"
  | .offenseIfType => "mult:off_type:type:N"
  | .incomingFactor => "mult:in_type:type:N"
  | .statIfType => "mult:stat_if_type:stat:type:N"
  | .relation r => r.keyword ++ ":type"
  | .evolution way => "evolution:" ++ way.keyword
  | .species => "species:name"
  | .crit .chance => "crit:chance:+N"
  | .crit .damage => "crit:damage:xN"
  | .crit .stage => "crit:stage:+N"
  | .flag f => "flag:" ++ f.keyword

/-- The kind with a name. -/
def ofId? (id : String) : Option Kind := all.find? fun k => k.id = id

/-- The mark that a crit tag's number is written with. -/
def critMark : CritKind → String
  | .damage => "x"
  | _ => "+"

/-- The tag of a kind with the given parts. -/
def spell (p : Parts) : Kind → Text
  | .stat => "mult:" ++ p.stat ++ ":" ++ p.value
  | .physicalBulk => "mult:defeff:" ++ p.value
  | .specialBulk => "mult:spdeff:" ++ p.value
  | .offense => "mult:off:" ++ p.value
  | .defense => "mult:defense:" ++ p.value
  | .offenseIfType => "mult:off_type:" ++ p.type ++ ":" ++ p.value
  | .incomingFactor => "mult:in_type:" ++ p.type ++ ":" ++ p.value
  | .statIfType => "mult:stat_if_type:" ++ p.stat ++ ":" ++ p.type ++ ":" ++ p.value
  | .relation r => r.keyword ++ ":" ++ p.type
  | .evolution way => "evolution:" ++ way.keyword
  | .species => "species:" ++ p.species
  | .crit kind =>
    "crit:" ++ kind.keyword ++ ":" ++ critMark kind ++ Text.dropMark (critMarks kind) p.value
  | .flag f => "flag:" ++ f.keyword

/-- The tag of a kind built from parts, if none that it needs is blank. -/
def build (kind : Kind) (parts : Parts) : Option Text :=
  let parts := parts.trim
  if kind.needs.any fun need => parts.get need = "" then none else some (kind.spell parts)

theorem mem_all (k : Kind) : k ∈ all := by
  cases k with
  | relation r => cases r <;> simp [all]
  | evolution w => cases w <;> simp [all]
  | crit c => cases c <;> simp [all]
  | flag f => cases f <;> simp [all]
  | _ => simp [all]

end Kind

end Roster.Tag
