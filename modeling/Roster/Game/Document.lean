import Roster.Game
import Roster.Settings.Document
import Roster.Tag.Stored

/-!
# Games as documents

A game is read from a JSON object section by section, in a fixed order, and the first flaw counts.
References that lead nowhere are no flaws: a chart row of an unknown type is kept, a box entry of an
unknown species is dropped, a team slot without a box entry is left empty, and each is reported.
Whatever is read before a flaw is reported too.
-/

namespace Roster.Game

/-- A list of a document and a place in it. -/
structure Site where
  list : String
  index : Nat
  deriving DecidableEq, Repr

def Site.text (s : Site) : String := s!"{s.list}[{s.index}]"

/-- Why a value is no game. -/
inductive Flaw (α : Type) where
  | notObject
  | missingSection (key : String)
  | notList (key : String)
  | noTypes
  | notRecord (site : Site)
  | statsNotRecord (site : Site)
  | missingField (site : Site) (key : String)
  | missingName (site : Site)
  | notWhole (site : Site) (key : String) (value : Json α)
  | notNumber (site : Site) (key : String) (value : Json α)
  | notAmount (site : Site) (key : String) (value : Json α)
  | tagsNotList (site : Site)
  | teamNotList
  | teamTooLong (length : Nat)
  | notSlot (index : Nat) (value : Json α)
  | settings (flaw : Settings.Flaw α)
  /-- A whole number beyond the finite scalars. -/
  | beyondScalars
  /-- Stored tags with a level too many. -/
  | tooDeep (bracket : Json.Bracket)
  /-- A tag that is no text and holds a whole number that is too long to be written. -/
  | tagTooLong

/-- What is said of a flaw. -/
def Flaw.message {α : Type} [Numeral α] : Flaw α → String
  | .notObject => "Game data must be a JSON object"
  | .missingSection key => s!"Game data is missing the '{key}' section"
  | .notList key => s!"'{key}' must be a list"
  | .noTypes => "Game data has no types"
  | .notRecord site => s!"{site.text} must be an object"
  | .statsNotRecord site => s!"{site.text}.stats must be an object"
  | .missingField site key => s!"{site.text} is missing '{key}'"
  | .missingName site => s!"{site.text} is missing a name"
  | .notWhole site key v => v.diagnostic s!"{site.text}: '{key}' must be an integer"
  | .notNumber site key v => v.diagnostic s!"{site.text}: '{key}' must be a number"
  | .notAmount site key v =>
    v.diagnostic s!"{site.text}: '{key}' must be a finite number, 0 or more"
  | .tagsNotList site => s!"{site.text}: 'tags' must be a list of strings"
  | .teamNotList => "'team' must be a list of box ids or nulls"
  | .teamTooLong length => s!"A team has at most {teamSize} slots, got {length}"
  | .notSlot index v => v.diagnostic s!"team[{index}] must be a box id or null"
  | .settings flaw => flaw.message
  | .beyondScalars => Number.beyondScalarsMessage
  | .tooDeep bracket => bracket.tooDeepMessage
  | .tagTooLong => Decimal.wholeTooLong

/-- What a document can have too much of, whatever it says. -/
inductive Overrun where
  /-- A whole number beyond the finite scalars. -/
  | number
  /-- A level too many. -/
  | depth (bracket : Json.Bracket)
  deriving DecidableEq, Repr

/-- What is said of too much. -/
def Overrun.message : Overrun → String
  | .number => Number.beyondScalarsMessage
  | .depth bracket => bracket.tooDeepMessage

/-- What there is too much of, if that is the flaw. -/
def Flaw.overrun? {α : Type} : Flaw α → Option Overrun
  | .beyondScalars | .settings .beyondScalars => some .number
  | .tooDeep bracket => some (.depth bracket)
  | _ => none

/-- A reference that leads nowhere. -/
inductive Notice where
  | chartRow (attacking defending : Int)
  | boxEntry (id speciesId : Int)
  | teamSlot (slot : Nat) (id : Int)
  deriving DecidableEq, Repr

/-- What is reported. -/
def Notice.message : Notice → String
  | .chartRow attacking defending =>
    s!"Chart row {attacking} -> {defending} references an unknown type"
  | .boxEntry id speciesId => s!"Skipping box entry {id}: unknown species {speciesId}"
  | .teamSlot slot id =>
    s!"Team slot {slot} points at unknown box entry {id}; leaving it empty"

/-- An object's members. -/
abbrev Record (α : Type) := Json.Members α

variable {α : Type} [Numeral α]

/-! ### Fields -/

/-- The members of a value that is an object. -/
def asRecord (site : Site) : Json α → Except (Flaw α) (Record α)
  | .object members => .ok members
  | _ => .error (.notRecord site)

/-- The whole number of a field, if the field is given. -/
def wholeField? (site : Site) (key : String) (r : Record α) : Except (Flaw α) (Option Int) :=
  match Json.member key r with
  | .null => .ok none
  | .number (.whole n) => .ok (some n)
  | v => .error (.notWhole site key v)

/-- The whole number of a field. -/
def wholeField (site : Site) (key : String) (r : Record α) : Except (Flaw α) Int := do
  match ← wholeField? site key r with
  | some n => return n
  | none => .error (.missingField site key)

/-- The amount of a field, as it is written and as a scalar. -/
def amountField (site : Site) (key : String) (r : Record α) :
    Except (Flaw α) (Number α × α) :=
  let v := Json.member key r
  match v.amount? with
  | .ok amount => .ok amount
  | .error .notNumber => .error (.notNumber site key v)
  | .error .outOfRange => .error (.notAmount site key v)
  | .error .beyondScalars => .error .beyondScalars

/-- The text of a field that is not blank. -/
def textField? (key : String) (r : Record α) : Option Text :=
  match Json.member key r with
  | .string s => if Text.isBlankText s then none else some s
  | _ => none

/-- The name of a record, without blanks around. -/
def nameField (site : Site) (r : Record α) : Except (Flaw α) Text :=
  match textField? "name" r with
  | some s => .ok (Text.trim s)
  | none => .error (.missingName site)

/-- The tags of a record: a list, or the stored text of one. -/
def tagsField (site : Site) (r : Record α) : Except (Flaw α) (List Text) :=
  match Json.member "tags" r with
  | .null => .ok []
  | .string s => (Tag.ofStored α s).mapError .tooDeep
  | .array items =>
    if Json.areWritable items then .ok (items.map Json.plainText) else .error .tagTooLong
  | _ => .error (.tagsNotList site)

/-! ### Records -/

/-- A type of the game. -/
def readType (site : Site) (v : Json α) : Except (Flaw α) TypeInfo := do
  let r ← asRecord site v
  let color :=
    match Json.member "color" r with
    | .string s => if s.isEmpty then none else some s
    | _ => none
  return ⟨← wholeField site "id" r, ← nameField site r, color,
    (Json.member "exclude_in_chart" r).isTrue⟩

/-- A row of the chart. -/
def readChartRow (site : Site) (v : Json α) : Except (Flaw α) (ChartRow α) := do
  let r ← asRecord site v
  return ⟨← wholeField site "attacking_type_id" r, ← wholeField site "defending_type_id" r,
    (← amountField site "multiplier" r).2⟩

/-- The record that holds a species' stats: one of its own, or the species itself. -/
def statsRecord (site : Site) (r : Record α) : Except (Flaw α) (Record α) :=
  match Json.member? "stats" r with
  | none => .ok r
  | some (.object members) => .ok members
  | some _ => .error (.statsNotRecord site)

/-- The stats of a species. -/
def readStats (site : Site) (r : Record α) : Except (Flaw α) (Stats (Number α)) := do
  let source ← statsRecord site r
  Stats.ofFnM fun stat => (amountField site stat.key source).map Prod.fst

/-- A species. A dex number that is missing or zero is one. -/
def readSpecies (site : Site) (v : Json α) : Except (Flaw α) (Species α) := do
  let r ← asRecord site v
  let id ← wholeField site "id" r
  let name ← nameField site r
  let type1 ← wholeField site "type1_id" r
  let type2 ← wholeField? site "type2_id" r
  let stats ← readStats site r
  let dexNumber := (← wholeField? site "dex_number" r).getD 0
  let tags ← tagsField site r
  return {
    id, name, type1, type2, stats, dexNumber := if dexNumber = 0 then 1 else dexNumber, tags }

/-- An ability or an item. -/
def readGear (site : Site) (v : Json α) : Except (Flaw α) Gear := do
  let r ← asRecord site v
  return ⟨← wholeField site "id" r, ← nameField site r, ← tagsField site r⟩

/-- A change of a species. Stats that are missing or null are left as they are. -/
def readChange (site : Site) (v : Json α) : Except (Flaw α) (SpeciesChange α) := do
  let r ← asRecord site v
  let stats ← Stats.ofFnM fun stat =>
    match Json.member stat.key r with
    | .null => .ok none
    | _ => (amountField site stat.key r).map fun a => some a.1
  return ⟨← wholeField site "species_id" r, ← wholeField? site "type1_id" r,
    ← wholeField? site "type2_id" r, stats⟩

/-- A creature in the box. -/
def readBoxEntry (site : Site) (v : Json α) : Except (Flaw α) BoxEntry := do
  let r ← asRecord site v
  return ⟨← wholeField site "id" r, ← wholeField site "species_id" r,
    ← wholeField? site "ability_id" r, ← wholeField? site "item_id" r, textField? "nickname" r,
    textField? "notes" r⟩

/-- A slot of the team. -/
def readSlot (index : Nat) : Json α → Except (Flaw α) (Option Int)
  | .null => .ok none
  | .number (.whole n) => .ok (some n)
  | v => .error (.notSlot index v)

/-! ### Sections -/

/-- The items of a section; a missing one is empty. -/
def sectionItems (key : String) (r : Record α) : Except (Flaw α) (List (Json α)) :=
  match Json.member key r with
  | .null => .ok []
  | .array items => .ok items
  | _ => .error (.notList key)

/-- The items of a section that has to be there. -/
def requiredItems (key : String) (r : Record α) : Except (Flaw α) (List (Json α)) :=
  match Json.member key r with
  | .null => .error (.missingSection key)
  | _ => sectionItems key r

/-- Items read one after the other with their indices from a first one on: what was read before a
flaw, and the flaw if there is one. -/
def readUntilFlaw {β : Type} (reader : Nat → Json α → Except (Flaw α) β) :
    Nat → List (Json α) → List β × Option (Flaw α)
  | _, [] => ([], none)
  | index, v :: rest =>
    match reader index v with
    | .error flaw => ([], some flaw)
    | .ok x =>
      let (xs, flaw) := readUntilFlaw reader (index + 1) rest
      (x :: xs, flaw)

/-- Items that are all read, or the first flaw. -/
def readItems {β : Type} (key : String) (reader : Site → Json α → Except (Flaw α) β)
    (items : List (Json α)) : Except (Flaw α) (List β) :=
  match readUntilFlaw (fun index => reader ⟨key, index⟩) 0 items with
  | (xs, none) => .ok xs
  | (_, some flaw) => .error flaw

/-- The types of the game; there has to be one. -/
def readTypes (r : Record α) : Except (Flaw α) (List TypeInfo) := do
  let types ← readItems "types" readType (← requiredItems "types" r)
  if types.isEmpty then .error .noTypes else .ok types

/-- The rows of the chart. -/
def readChart (r : Record α) : Except (Flaw α) (List (ChartRow α)) := do
  readItems "chart" readChartRow (← sectionItems "chart" r)

/-- The sections between the chart and the box. -/
structure Roll (α : Type) where
  species : Keyed Int (Species α)
  abilities : Keyed Int Gear
  items : Keyed Int Gear
  changes : Keyed Int (SpeciesChange α)

/-- Reads the species, abilities, items and changes. Of records with one id the last counts. -/
def readRoll (r : Record α) : Except (Flaw α) (Roll α) := do
  let species ← readItems "species" readSpecies (← requiredItems "species" r)
  let abilities ← readItems "abilities" readGear (← sectionItems "abilities" r)
  let items ← readItems "items" readGear (← sectionItems "items" r)
  let changes ← readItems "overrides" readChange (← sectionItems "overrides" r)
  return ⟨Keyed.ofList (species.map fun s => (s.id, s)),
    Keyed.ofList (abilities.map fun a => (a.id, a)), Keyed.ofList (items.map fun i => (i.id, i)),
    Keyed.ofList (changes.map fun c => (c.speciesId, c))⟩

/-! ### References -/

/-- Reports of the chart rows with a type that is not in the game. -/
def chartNotices (types : List TypeInfo) (chart : List (ChartRow α)) : List Notice :=
  let known (id : Int) : Bool := types.any fun t => t.id == id
  (chart.filter fun row => !(known row.attacking && known row.defending)).map fun row =>
    .chartRow row.attacking row.defending

/-- Whether a box entry is of one of the species. -/
def hasSpecies (species : Keyed Int (Species α)) (e : BoxEntry) : Bool :=
  (Keyed.get? e.speciesId species).isSome

/-- Reports of the box entries that are of none of the species. -/
def boxNotices (species : Keyed Int (Species α)) (entries : List BoxEntry) : List Notice :=
  (entries.filter fun e => !hasSpecies species e).map fun e => .boxEntry e.id e.speciesId

/-- Whether a slot is empty or holds one of the box entries. -/
def slotHolds (box : List BoxEntry) (slot : Option Int) : Bool :=
  slot.all fun id => box.any fun e => e.id == id

/-- Slots without those that hold none of the box entries. -/
def settleSlots (box : List BoxEntry) (slots : List (Option Int)) : List (Option Int) :=
  slots.map fun slot => if slotHolds box slot then slot else none

/-- Reports of the slots, from a first number on, that hold none of the box entries. -/
def slotNotices (box : List BoxEntry) : Nat → List (Option Int) → List Notice
  | _, [] => []
  | number, slot :: rest =>
    match slot with
    | some id =>
      if slotHolds box slot then slotNotices box (number + 1) rest
      else .teamSlot number id :: slotNotices box (number + 1) rest
    | none => slotNotices box (number + 1) rest

/-- Slots filled up with empty ones to a full team. -/
def fillTeam (slots : List (Option Int)) : List (Option Int) :=
  slots ++ List.replicate (teamSize - slots.length) none

/-- The items of the team, at most as many as it has slots. -/
def teamItems (r : Record α) : Except (Flaw α) (List (Json α)) :=
  match Json.member "team" r with
  | .null => .ok []
  | .array items =>
    if teamSize < items.length then .error (.teamTooLong items.length) else .ok items
  | _ => .error .teamNotList

/-! ### The game -/

/-- The name where neither the document nor its source gives one. -/
def untitled : String := "Untitled Game"

/-- The name of a game: that of the document, else the given one. -/
def nameOf (r : Record α) (given : Option Text) : Text :=
  match textField? "name" r with
  | some s => Text.trim s
  | none => Text.trim ((given.filter fun name => !name.isEmpty).getD untitled)

/-- What comes of reading a document: the game or the flaw, and the reports up to there. -/
structure Reading (α : Type) where
  result : Except (Flaw α) (Game α)
  notices : List Notice

/-- Reads the box, the team and the settings of a game whose other sections are read. -/
def readBoxAndTeam (r : Record α) (given : Option Text) (types : List TypeInfo)
    (chart : List (ChartRow α)) (roll : Roll α) : Reading α :=
  match sectionItems "box" r with
  | .error flaw => ⟨.error flaw, []⟩
  | .ok items =>
    let (entries, boxFlaw) := readUntilFlaw (fun index => readBoxEntry ⟨"box", index⟩) 0 items
    let boxNotices := boxNotices roll.species entries
    let box := entries.filter (hasSpecies roll.species)
    match boxFlaw with
    | some flaw => ⟨.error flaw, boxNotices⟩
    | none =>
      match teamItems r with
      | .error flaw => ⟨.error flaw, boxNotices⟩
      | .ok items =>
        let (slots, teamFlaw) := readUntilFlaw readSlot 0 items
        let notices := boxNotices ++ slotNotices box 1 slots
        match teamFlaw with
        | some flaw => ⟨.error flaw, notices⟩
        | none =>
          match Settings.ofJson (Json.member "settings" r) with
          | .error flaw => ⟨.error (.settings flaw), notices⟩
          | .ok settings =>
            ⟨.ok
              { name := nameOf r given, types, chart, species := roll.species,
                abilities := roll.abilities, items := roll.items, changes := roll.changes, box,
                team := fillTeam (settleSlots box slots), settings }, notices⟩

/-- Reads a game from a document. `given` is a name for a document that has none. -/
def read (given : Option Text) : Json α → Reading α
  | .object r =>
    match readTypes r with
    | .error flaw => ⟨.error flaw, []⟩
    | .ok types =>
      match readChart r with
      | .error flaw => ⟨.error flaw, []⟩
      | .ok chart =>
        let notices := chartNotices types chart
        match readRoll r with
        | .error flaw => ⟨.error flaw, notices⟩
        | .ok roll =>
          let reading := readBoxAndTeam r given types chart roll
          { reading with notices := notices ++ reading.notices }
  | _ => ⟨.error .notObject, []⟩

theorem length_fillTeam {slots : List (Option Int)} (h : slots.length ≤ teamSize) :
    (fillTeam slots).length = teamSize := by
  simp [fillTeam]
  omega

end Roster.Game
