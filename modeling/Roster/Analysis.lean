import Roster.Coverage
import Roster.Game
import Roster.Potentials

/-!
# Analysing a game

Every creature in the box is scored with its form under the game's changes and the tags of its
species, ability and item; the box is ranked, and the team's coverage worked out. An analyser takes
its settings, types and chart from the game when it is made; all else is read from the game as it
stands.
-/

namespace Roster

/-- What comes up while a game is analysed. -/
inductive AnalysisNotice where
  | unknownAbility (entry ability : Int)
  | unknownItem (entry item : Int)
  | ignoredTags (tags : List Text)
  | ranked (count : Nat) (game : Text)
  deriving DecidableEq, Repr

/-- What is reported. -/
def AnalysisNotice.message : AnalysisNotice → Text
  | .unknownAbility entry ability => s!"Box entry {entry}: unknown ability {ability}"
  | .unknownItem entry item => s!"Box entry {entry}: unknown item {item}"
  | .ignoredTags tags =>
    s!"Ignored {tags.length} unrecognized tag(s): " ++ Text.intercalate ", " tags
  | .ranked count game => s!"Scored {count} box entries for " ++ game

/-- Why a creature cannot be scored. -/
inductive ScoreError where
  | unknownSpecies (id : Int)
  | potentials (fault : Potentials.Fault)
  /-- The id of a type is too long to be written. -/
  | typeTooLong
  deriving DecidableEq, Repr

/-- What is said of a creature that cannot be scored. -/
def ScoreError.message : ScoreError → String
  | .unknownSpecies id => toString id
  | .potentials fault => fault.message
  | .typeTooLong => Decimal.wholeTooLong

/-- A creature of the box with its typing, tags and scores. -/
structure Score (α : Type) where
  boxId : Int
  /-- The nickname, or else the name of the species. -/
  name : Text
  speciesName : Text
  dexNumber : Int
  type1 : Int
  type2 : Option Int
  typeNames : List Text
  abilityName : Option Text
  itemName : Option Text
  tags : List Text
  potentials : Potentials α
  ignored : List Text
  deriving DecidableEq, Repr

/-- A team: a score or nothing for every slot, and its coverage. -/
structure TeamReport (α : Type) where
  slots : List (Option (Score α))
  matrix : List (MatrixRow α)
  coverage : List CoverageRow
  deriving DecidableEq, Repr

/-- What is fixed when the analysis of a game begins. -/
structure Analyzer (α : Type) where
  settings : Settings (Number α)
  types : List TypeInfo
  chart : TypeChart α
  deriving DecidableEq, Repr

namespace Score

variable {α : Type}

/-- What the team's coverage needs of a score. -/
def member (s : Score α) : TeamMember := ⟨s.type1, s.type2, s.tags⟩

variable [Scalar α]

/-- Whether a score stands in front of another one, or may: the higher rank does, then the lower dex
number, then the lower box id. -/
def before (s t : Score α) : Bool :=
  if t.potentials.rank < s.potentials.rank then true
  else if s.potentials.rank < t.potentials.rank then false
  else if s.dexNumber ≠ t.dexNumber then s.dexNumber < t.dexNumber
  else s.boxId ≤ t.boxId

/-- Scores in the order of their ranks; those that tie in all keep their order. -/
def ranking (scores : List (Score α)) : List (Score α) := scores.mergeSort before

/-- A ranking has the same scores. -/
theorem ranking_perm (scores : List (Score α)) : (ranking scores).Perm scores :=
  List.mergeSort_perm scores before

end Score

namespace TeamReport

variable {α : Type}

/-- The scores in the slots that are not empty. -/
def members (r : TeamReport α) : List (Score α) := r.slots.filterMap id

/-- The numbers of the empty slots, counted from one. -/
def emptySlots (r : TeamReport α) : List Nat :=
  (r.slots.zipIdx 1).filterMap fun (slot, number) => if slot.isNone then some number else none

end TeamReport

namespace Analyzer

variable {α : Type}

/-- The analyser of a game with the given settings. -/
def ofGame (g : Game α) (settings : Settings (Number α)) : Analyzer α :=
  ⟨settings, g.visible, .ofRows g.chart⟩

/-- What a gear id leads to: the gear, or nothing if it is not given or left out. -/
def gear? (disabled : Bool) (all : Keyed Int Gear) (id : Option Int) : Option Gear :=
  if disabled then none else id.bind fun id => Keyed.get? id all

/-- The ability of a box entry, if it has one that counts. -/
def ability? (a : Analyzer α) (g : Game α) (e : BoxEntry) : Option Gear :=
  gear? a.settings.disableAbilities g.abilities e.abilityId

/-- The item of a box entry, if it has one that counts. -/
def item? (a : Analyzer α) (g : Game α) (e : BoxEntry) : Option Gear :=
  gear? a.settings.disableItems g.items e.itemId

/-- The id that leads to no gear although gear counts. -/
def missingGear? (disabled : Bool) (all : Keyed Int Gear) (id : Option Int) : Option Int :=
  if disabled then none else id.filter fun id => (Keyed.get? id all).isNone

/-- The faults of a box entry's references. -/
def faults (a : Analyzer α) (g : Game α) (e : BoxEntry) : List AnalysisNotice :=
  ((missingGear? a.settings.disableAbilities g.abilities e.abilityId).map
      (AnalysisNotice.unknownAbility e.id)).toList
    ++ ((missingGear? a.settings.disableItems g.items e.itemId).map
      (AnalysisNotice.unknownItem e.id)).toList

/-- The tags of a box entry of a species: those of the species, the ability and the item. -/
def tags (a : Analyzer α) (g : Game α) (e : BoxEntry) (s : Species α) : List Text :=
  s.tags ++ ((a.ability? g e).map Gear.tags).getD [] ++ ((a.item? g e).map Gear.tags).getD []

/-- The name of a type; one that the game does not have is shown by its id. The id is written in
either case, so that there is no name where it is too long for that. -/
def typeName? (g : Game α) (id : Int) : Option Text :=
  (Decimal.wholeText? id).map fun digits => (Keyed.get? id (typeNames g.types)).getD s!"#{digits}"

/-- The names of a form's types, if all of them have one. -/
def typeNames? (g : Game α) (type1 : Int) (type2 : Option Int) : Option (List Text) :=
  (type1 :: type2.toList).mapM (typeName? g)

variable [Numeral α]

/-- The potentials of a box entry of a species. -/
def potentialsOf (a : Analyzer α) (g : Game α) (e : BoxEntry) (s : Species α) :
    Except Potentials.Fault (Potentials α) :=
  let form := s.formUnder (Keyed.get? s.id g.changes)
  Roster.potentials form.stats (a.tags g e s) form.type1 form.type2 a.types a.chart a.settings

/-- The score of a box entry of a species with its potentials and the names of its types. -/
def scoreWith (a : Analyzer α) (g : Game α) (e : BoxEntry) (s : Species α)
    (potentials : Potentials α) (typeNames : List Text) : Score α :=
  let form := s.formUnder (Keyed.get? s.id g.changes)
  let tags := a.tags g e s
  { boxId := e.id
    name := (e.nickname.filter fun name => !name.isEmpty).getD s.name
    speciesName := s.name
    dexNumber := s.dexNumber
    type1 := form.type1
    type2 := form.type2
    typeNames
    abilityName := (a.ability? g e).map Gear.name
    itemName := (a.item? g e).map Gear.name
    tags
    potentials
    ignored := (Bundle.resolve (α := α) tags []).ignored }

/-- The score of a box entry. -/
def score (a : Analyzer α) (g : Game α) (e : BoxEntry) : Except ScoreError (Score α) :=
  match Keyed.get? e.speciesId g.species with
  | none => .error (.unknownSpecies e.speciesId)
  | some s =>
    match a.potentialsOf g e s with
    | .error fault => .error (.potentials fault)
    | .ok potentials =>
      let form := s.formUnder (Keyed.get? s.id g.changes)
      match typeNames? g form.type1 form.type2 with
      | none => .error .typeTooLong
      | some names => .ok (a.scoreWith g e s potentials names)

/-- What comes up while a box entry is scored. Its tags are resolved for its potentials, and once
more when these and the names of its types are there. -/
def scoreNotices (a : Analyzer α) (g : Game α) (e : BoxEntry) : List AnalysisNotice :=
  match Keyed.get? e.speciesId g.species with
  | none => []
  | some s =>
    let ignored := (Bundle.resolve (α := α) (a.tags g e s) []).ignored
    let told := if ignored.isEmpty then [] else [AnalysisNotice.ignoredTags ignored]
    a.faults g e ++ told ++ if (a.score g e).toBool then told else []

/-- Box entries scored one after the other up to one that cannot be, with what came up. -/
def scoreAll (a : Analyzer α) (g : Game α) :
    List BoxEntry → Except ScoreError (List (Score α)) × List AnalysisNotice
  | [] => (.ok [], [])
  | e :: rest =>
    let notices := a.scoreNotices g e
    match a.score g e with
    | .error error => (.error error, notices)
    | .ok s =>
      let (scores, more) := scoreAll a g rest
      (scores.map (s :: ·), notices ++ more)

/-- The box scored and ranked. -/
def box (a : Analyzer α) (g : Game α) :
    Except ScoreError (List (Score α)) × List AnalysisNotice :=
  match a.scoreAll g g.box with
  | (.error error, notices) => (.error error, notices)
  | (.ok scores, notices) =>
    (.ok (Score.ranking scores), notices ++ [.ranked scores.length g.name])

/-- The slots of a team scored one after the other, with what came up. A slot whose box entry does
not exist is empty. -/
def scoreSlots (a : Analyzer α) (g : Game α) :
    List (Option Int) → Except ScoreError (List (Option (Score α))) × List AnalysisNotice
  | [] => (.ok [], [])
  | slot :: rest =>
    match slot.bind g.boxEntry? with
    | none =>
      let (slots, more) := scoreSlots a g rest
      (slots.map (none :: ·), more)
    | some e =>
      let notices := a.scoreNotices g e
      match a.score g e with
      | .error error => (.error error, notices)
      | .ok s =>
        let (slots, more) := scoreSlots a g rest
        (slots.map (some s :: ·), notices ++ more)

/-- The report of slots that are scored. -/
def report (a : Analyzer α) (slots : List (Option (Score α))) : TeamReport α :=
  let members := slots.map fun slot => slot.map Score.member
  { slots
    matrix := Coverage.matrix members a.types a.chart
    coverage := Coverage.summary (members.filterMap id) a.types a.chart }

/-- The team scored, with its coverage. -/
def team (a : Analyzer α) (g : Game α) :
    Except ScoreError (TeamReport α) × List AnalysisNotice :=
  let (slots, notices) := a.scoreSlots g g.team
  (slots.map a.report, notices)

end Analyzer

/-- What a box is searched for. -/
structure BoxFilter (α : Type) where
  /-- A text in the name or in the species' name, case and blanks around not counting. -/
  search : Text := ""
  /-- A type in either slot. -/
  type : Option Int := none
  /-- The least rank, if there is one. -/
  minRank : Option (Number α) := none

namespace BoxFilter

variable {α : Type} [Numeral α]

/-- Whether a score fits the search text. -/
def fitsSearch (search : Text) (s : Score α) : Bool :=
  let needle := Text.lowered (Text.trimmed search.toList)
  needle.isEmpty || Text.occursIn needle (Text.lowered s.name.toList)
    || Text.occursIn needle (Text.lowered s.speciesName.toList)

/-- Whether a score is shown. -/
def fits (f : BoxFilter α) (s : Score α) : Bool :=
  fitsSearch f.search s
    && f.type.all (fun type => s.type1 == type || s.type2 == some type)
    && f.minRank.all fun least => !(Number.real s.potentials.rank).isLess least

/-- The scores that are shown, in their order. -/
def apply (f : BoxFilter α) (scores : List (Score α)) : List (Score α) := scores.filter f.fits

end BoxFilter

end Roster
