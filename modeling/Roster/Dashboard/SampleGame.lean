import Roster.Json.Writer
import Roster.Number

/-!
# The sample game

The text of a small game to begin with: six types, four species, a box and a team of four.
-/

namespace Roster.Dashboard.SampleGame

/-- Documents with doubles. -/
abbrev Document := Json Float

def whole (n : Int) : Document := .number (.whole n)

def tagList (tags : List String) : Document := .array (tags.map fun (tag : String) => .string tag)

/-- An object on a line. -/
def record (members : List (String × Document)) : String := (Json.record members).write

/-- An object on two lines. -/
def longRecord (first second : List (String × Document)) : String :=
  String.ofList ((record first).toList.dropLast) ++ ",\n     "
    ++ String.ofList ((record second).toList.drop 1)

/-- A member of the document, its value written already. -/
def entry (key value : String) : String := Json.writeString key ++ ": " ++ value

/-- Items between brackets, each on lines of its own. -/
def block (opening closing indent : String) (items : List String) : String :=
  opening ++ "\n" ++ String.intercalate ",\n" (items.map fun item => indent ++ "  " ++ item) ++ "\n"
    ++ indent ++ closing

/-- A section with its records. -/
def listing (key : String) (records : List String) : String :=
  entry key (if records.isEmpty then "[]" else block "[" "]" "  " records)

def settings : List String :=
  [entry "crit_stage_preset" (Json.writeString "gen7"), entry "crit_base_damage_mult" "1.5",
    entry "disable_abilities" "false", entry "disable_held_items" "false"]

def types : List String :=
  [(1, "Normal", "#A8A77A"), (2, "Fire", "#EE8130"), (3, "Water", "#6390F0"),
    (4, "Grass", "#7AC74C"), (5, "Electric", "#F7D02C"), (6, "Ground", "#E2BF65")].map
    fun (id, name, color) =>
      record [("id", whole id), ("name", .string name), ("color", .string color)]

def chart : List String :=
  let double := whole 2
  let half : Document := .number (.real 0.5)
  [(2, 4, double), (2, 3, half), (3, 2, double), (3, 4, half), (4, 3, double), (4, 2, half),
    (5, 3, double), (5, 6, whole 0), (6, 5, double), (6, 2, double), (6, 4, half)].map
    fun (attacking, defending, multiplier) =>
      record
        [("attacking_type_id", whole attacking), ("defending_type_id", whole defending),
          ("multiplier", multiplier)]

def species : List String :=
  [(1, "Bulbasaur", 1, 4, 45, 49, 49, 65, 65, 45),
    (2, "Charmander", 4, 2, 39, 52, 43, 60, 50, 65),
    (3, "Squirtle", 7, 3, 44, 48, 65, 50, 64, 43),
    (4, "Pikachu", 25, 5, 35, 55, 40, 50, 50, 90)].map
    fun (id, name, dex, type, hp, atk, defense, spa, spd, spe) =>
      longRecord
        [("id", whole id), ("name", .string name), ("dex_number", whole dex),
          ("type1_id", whole type)]
        [("hp", whole hp), ("atk", whole atk), ("def", whole defense), ("spa", whole spa),
          ("spd", whole spd), ("spe", whole spe)]

/-- Abilities or items: names and tags, the ids counted from one. -/
def gear (all : List (String × List String)) : List String :=
  (all.zipIdx 1).map fun ((name, tags), id) =>
    record [("id", whole id), ("name", .string name), ("tags", tagList tags)]

def abilities : List String :=
  gear
    [("Overgrow", []), ("Blaze", []), ("Torrent", []), ("Static", []),
      ("Swift Feet", ["mult:speed:1.2"]), ("Rock Skin", ["mult:def:1.1", "resist:fire"])]

def items : List String :=
  gear [("Power Band", ["mult:atk:1.2"]), ("Insulating Boots", ["immune:ground"])]

def box : List String :=
  [[("id", whole 1), ("species_id", whole 1), ("ability_id", whole 6)],
    [("id", whole 2), ("species_id", whole 2), ("ability_id", whole 2), ("item_id", whole 1)],
    [("id", whole 3), ("species_id", whole 3), ("ability_id", whole 3)],
    [("id", whole 4), ("species_id", whole 4), ("ability_id", whole 5), ("item_id", whole 2),
      ("nickname", .string "Sparky")]].map record

def team : Document := .array [whole 1, whole 2, whole 3, whole 4]

/-- The text of the sample game. -/
def text : String :=
  block "\x7b" "\x7d" ""
    [entry "name" (Json.writeString "Starter Run"),
      entry "settings" (block "\x7b" "\x7d" "  " settings), listing "types" types,
      listing "chart" chart, listing "species" species, listing "abilities" abilities,
      listing "items" items, listing "overrides" [], listing "box" box,
      entry "team" team.write] ++ "\n"

end Roster.Dashboard.SampleGame
