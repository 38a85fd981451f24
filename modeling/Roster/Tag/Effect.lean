import Roster.Number
import Roster.Stat

/-!
# Effects of tags

What the tags of species, abilities and items mean. A factor multiplies what it names; conditional
factors count only for holders of a type. Type names stand in their normal form.
-/

namespace Roster

/-- How a creature stands to attacks of a type. -/
inductive Relation where
  | immune
  | resist
  | weak
  deriving DecidableEq, Repr

/-- The keyword of a relation. -/
def Relation.keyword : Relation → String
  | .immune => "immune"
  | .resist => "resist"
  | .weak => "weak"

/-- The relation with a keyword. -/
def Relation.ofKeyword? (s : Text) : Option Relation :=
  if s = "immune" then some .immune
  else if s = "resist" then some .resist
  else if s = "weak" then some .weak
  else none

/-- What changes the damage taken from attacks of a type. -/
inductive Incoming (α : Type) where
  | relation (relation : Relation) (type : Text)
  | factor (type : Text) (factor : α)
  deriving DecidableEq, Repr

/-- The attacking type that is concerned. -/
def Incoming.type {α : Type} : Incoming α → Text
  | .relation _ type => type
  | .factor type _ => type

/-- Properties without a number. -/
inductive Flag where
  | avoid
  | wonderGuard
  deriving DecidableEq, Repr

def Flag.keyword : Flag → String
  | .avoid => "avoid"
  | .wonderGuard => "wonder_guard"

/-- The flag with a keyword. -/
def Flag.ofKeyword? (s : Text) : Option Flag :=
  if s = "wonder_guard" then some .wonderGuard else if s = "avoid" then some .avoid else none

/-- What a crit tag adds to or multiplies. -/
inductive CritKind where
  | chance
  | damage
  | stage
  deriving DecidableEq, Repr

def CritKind.keyword : CritKind → String
  | .chance => "chance"
  | .damage => "damage"
  | .stage => "stage"

/-- The crit kind with a keyword. -/
def CritKind.ofKeyword? (s : Text) : Option CritKind :=
  if s = "chance" then some .chance
  else if s = "stage" then some .stage
  else if s = "damage" then some .damage
  else none

/-- The ways to evolve that a tag can name. -/
inductive Evolution where
  | item
  | stone
  deriving DecidableEq, Repr

def Evolution.keyword : Evolution → String
  | .item => "item"
  | .stone => "stone"

/-- The way to evolve with a keyword. -/
def Evolution.ofKeyword? (s : Text) : Option Evolution :=
  if s = "item" then some .item else if s = "stone" then some .stone else none

/-- What a tag notes without any bearing on scores. -/
inductive Note where
  | evolution (way : Evolution)
  | species (name : Text)
  deriving DecidableEq, Repr

/-- What a tag does. -/
inductive Effect (α : Type) where
  | stat (stat : Stat) (factor : α)
  | statIfType (stat : Stat) (type : Text) (factor : α)
  | physicalBulk (factor : α)
  | specialBulk (factor : α)
  | defense (factor : α)
  | offense (factor : α)
  | offenseIfType (type : Text) (factor : α)
  | incoming (incoming : Incoming α)
  | flag (flag : Flag)
  | crit (kind : CritKind) (value : α)
  | note (note : Note)
  deriving DecidableEq, Repr

end Roster
