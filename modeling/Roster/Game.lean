import Roster.Settings
import Roster.TypeChart

/-!
# Games

What a player has and what it is made of: types and their chart, species with stats and tags,
abilities and items with tags, changes of single species, the box of creatures owned and the team of
six slots.
-/

namespace Roster

/-- A species. Its stats are kept as they are written. -/
structure Species (α : Type) where
  id : Int
  name : Text
  type1 : Int
  type2 : Option Int
  stats : Stats (Number α)
  dexNumber : Int
  tags : List Text
  deriving DecidableEq, Repr

/-- An ability or a held item: a name and the tags that it grants. -/
structure Gear where
  id : Int
  name : Text
  tags : List Text
  deriving DecidableEq, Repr

/-- A game's change of a species: other types and single other stats. -/
structure SpeciesChange (α : Type) where
  speciesId : Int
  type1 : Option Int
  type2 : Option Int
  stats : Stats (Option (Number α))
  deriving DecidableEq, Repr

/-- A creature in the box. -/
structure BoxEntry where
  id : Int
  speciesId : Int
  abilityId : Option Int
  itemId : Option Int
  nickname : Option Text
  notes : Option Text
  deriving DecidableEq, Repr

/-- The types and stats that a creature is scored with. -/
structure Form (α : Type) where
  type1 : Int
  type2 : Option Int
  stats : Stats (Number α)
  deriving DecidableEq, Repr

/-- A game as it is analysed. -/
structure Game (α : Type) where
  name : Text
  types : List TypeInfo
  chart : List (ChartRow α)
  species : Keyed Int (Species α)
  abilities : Keyed Int Gear
  items : Keyed Int Gear
  changes : Keyed Int (SpeciesChange α)
  box : List BoxEntry
  /-- The box ids in the slots of the team. -/
  team : List (Option Int)
  settings : Settings α
  deriving DecidableEq, Repr

/-- The number of slots of a team. -/
def teamSize : Nat := 6

/-- The types that take part in the chart. -/
def visibleTypes (types : List TypeInfo) : List TypeInfo := types.filter fun t => !t.excluded

namespace Species

variable {α : Type}

/-- The form of a species by itself. -/
def form (s : Species α) : Form α := ⟨s.type1, s.type2, s.stats⟩

/-- The form of a species under a game's change of it: what the change gives replaces what the
species has. -/
def formUnder (s : Species α) : Option (SpeciesChange α) → Form α
  | none => s.form
  | some c =>
    ⟨c.type1.getD s.type1, c.type2.or s.type2,
      .ofFn fun stat => (c.stats.get stat).getD (s.stats.get stat)⟩

/-- The species with a game's change written into it. -/
def changedBy (s : Species α) (c : SpeciesChange α) : Species α :=
  let form := s.formUnder (some c)
  { s with type1 := form.type1, type2 := form.type2, stats := form.stats }

theorem form_changedBy (s : Species α) (c : SpeciesChange α) :
    (s.changedBy c).form = s.formUnder (some c) := rfl

end Species

namespace Game

variable {α : Type}

/-- The types of a game that take part in its chart. -/
def visible (g : Game α) : List TypeInfo := visibleTypes g.types

/-- The box entry with an id, the first if there are several. -/
def boxEntry? (g : Game α) (id : Int) : Option BoxEntry := g.box.find? fun e => e.id = id

end Game

end Roster
