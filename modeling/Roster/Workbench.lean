import Roster.Settings.Document
import Roster.Warning.Basic

/-!
# Working on a game

A game is open with an analyser, the box as it was last ranked and the team as it was last reported.
Commands edit the game, start another analyser, score and look at what was scored. An analyser
keeps the settings, types and chart that the game had when it was started. Chart rows that are put
on keep their numbers as they are written until an analyser is started. A command that fails
changes nothing.
-/

namespace Roster

/-- What grants tags. -/
inductive TagOwner where
  | species
  | ability
  | item
  deriving DecidableEq, Repr

/-- A game at work. -/
structure Workbench (α : Type) where
  game : Game α
  /-- Chart rows behind those of the game. -/
  addedRows : List (ChartRow (Number α))
  analyzer : Analyzer α
  scores : List (Score α)
  team : Option (TeamReport α)

namespace Workbench

/-- What can be asked for. -/
inductive Command (α : Type) where
  /-- Starts an analyser with the game's settings, under a change if one is given. -/
  | analyze (change : Option (SettingsChange (Number α)))
  | putChange (change : SpeciesChange α)
  | dropChange (speciesId : Int)
  | setTeam (team : List (Option Int))
  | addEntry (entry : BoxEntry)
  | removeEntries (id : Int)
  | addType (type : TypeInfo)
  | addChartRow (row : ChartRow (Number α))
  | setTags (owner : TagOwner) (id : Int) (tags : List Text)
  | setSettings (document : Json α)
  | findEntry (id : Int)
  | scoreEntry (id : Int)
  | scoreBox
  | filterBox (filter : BoxFilter α)
  | scoreTeam
  | warn

/-- What is answered. -/
inductive Reply (α : Type) where
  | settings (settings : Settings (Number α))
  /-- The species with a change, in the order of their ids. -/
  | changes (speciesIds : List Int)
  | team (slots : List (Option Int))
  | entries (ids : List Int)
  | types (ids : List Int)
  | chart (rows : Nat)
  | tags (tags : List Text)
  | entry (entry : Option BoxEntry)
  | score (score : Score α)
  | ranking (scores : List (Score α))
  | filtered (scores : List (Score α))
  | report (report : TeamReport α)
  | warnings (items : List Warning)

/-- Why a command fails. -/
inductive Fault (α : Type) where
  | score (error : ScoreError)
  | settings (flaw : Settings.Flaw α)
  /-- A multiplier of the chart is a whole number beyond the finite scalars. -/
  | chartBeyondScalars
  /-- No species, ability or item has the id. -/
  | noOwner (id : Int)
  /-- No entry of the box has the id. -/
  | noEntry (id : Int)

variable {α : Type}

/-- What comes of a command. -/
structure Outcome (α : Type) where
  result : Except (Fault α) (Reply α)
  notices : List AnalysisNotice
  next : Workbench α

/-- A command that answers and says nothing else. -/
def Outcome.reply (reply : Reply α) (next : Workbench α) : Outcome α := ⟨.ok reply, [], next⟩

/-- A command that fails. -/
def Outcome.fail (w : Workbench α) (fault : Fault α) (notices : List AnalysisNotice) : Outcome α :=
  ⟨.error fault, notices, w⟩

/-- A game opened with an analyser of its settings. -/
def start (g : Game α) : Workbench α := ⟨g, [], .ofGame g g.settings.written, [], none⟩

/-- The ids of the species that are changed, in order. -/
def changedIds (g : Game α) : List Int := (Keyed.keys g.changes).mergeSort

/-- Entries with one of them edited, if there is one with the id. -/
def editAt {β : Type} (id : Int) (edit : β → β) (all : Keyed Int β) : Option (Keyed Int β) :=
  (Keyed.get? id all).map fun x => Keyed.put id (edit x) all

/-- The game with the tags of an owner replaced, if there is that owner. -/
def withTags (g : Game α) (owner : TagOwner) (id : Int) (tags : List Text) : Option (Game α) :=
  match owner with
  | .species =>
    (editAt id (fun s => { s with tags }) g.species).map fun species => { g with species }
  | .ability =>
    (editAt id (fun a => { a with tags }) g.abilities).map fun abilities => { g with abilities }
  | .item => (editAt id (fun i => { i with tags }) g.items).map fun items => { g with items }

/-- An edit of the game, with what is answered of the edited game. -/
def edit (w : Workbench α) (game : Game α) (reply : Game α → Reply α) : Outcome α :=
  .reply (reply game) { w with game }

/-- The number of rows of the chart. -/
def chartRows (w : Workbench α) : Nat := w.game.chart.length + w.addedRows.length

variable [Numeral α]

/-- A chart row with its multiplier as a scalar, if it is one. -/
def scalarRow? (row : ChartRow (Number α)) : Option (ChartRow α) :=
  row.multiplier.toScalar?.map fun multiplier => ⟨row.attacking, row.defending, multiplier⟩

/-- An analyser of the game as it stands, unless a multiplier of its chart is no scalar. -/
def analyzerFor? (w : Workbench α) (settings : Settings (Number α)) : Option (Analyzer α) :=
  (w.addedRows.mapM scalarRow?).map fun rows =>
    .ofGame { w.game with chart := w.game.chart ++ rows } settings

/-- Carries out a command. -/
def run (w : Workbench α) : Command α → Outcome α
  | .analyze change =>
    let settings := w.game.settings.written.change (change.getD {})
    match w.analyzerFor? settings with
    | none => .fail w .chartBeyondScalars []
    | some analyzer => .reply (.settings settings) { w with analyzer }
  | .putChange change =>
    w.edit { w.game with changes := Keyed.put change.speciesId change w.game.changes } fun g =>
      .changes (changedIds g)
  | .dropChange id =>
    w.edit { w.game with changes := Keyed.erase id w.game.changes } fun g => .changes (changedIds g)
  | .setTeam team => w.edit { w.game with team } fun g => .team g.team
  | .addEntry entry =>
    w.edit { w.game with box := w.game.box ++ [entry] } fun g => .entries (g.box.map BoxEntry.id)
  | .removeEntries id =>
    w.edit { w.game with box := w.game.box.filter fun e => e.id ≠ id } fun g =>
      .entries (g.box.map BoxEntry.id)
  | .addType type =>
    w.edit { w.game with types := w.game.types ++ [type] } fun g =>
      .types (g.visible.map TypeInfo.id)
  | .addChartRow row =>
    let next := { w with addedRows := w.addedRows ++ [row] }
    .reply (.chart next.chartRows) next
  | .setTags owner id tags =>
    match withTags w.game owner id tags with
    | none => .fail w (.noOwner id) []
    | some game => w.edit game fun _ => .tags tags
  | .setSettings document =>
    match Settings.ofJson document with
    | .error flaw => .fail w (.settings flaw) []
    | .ok settings => w.edit { w.game with settings } fun g => .settings g.settings.written
  | .findEntry id => .reply (.entry (w.game.boxEntry? id)) w
  | .scoreEntry id =>
    match w.game.boxEntry? id with
    | none => .fail w (.noEntry id) []
    | some entry =>
      let notices := w.analyzer.scoreNotices w.game entry
      match w.analyzer.score w.game entry with
      | .error error => .fail w (.score error) notices
      | .ok score => ⟨.ok (.score score), notices, w⟩
  | .scoreBox =>
    match w.analyzer.box w.game with
    | (.error error, notices) => .fail w (.score error) notices
    | (.ok scores, notices) => ⟨.ok (.ranking scores), notices, { w with scores }⟩
  | .filterBox filter => .reply (.filtered (filter.apply w.scores)) w
  | .scoreTeam =>
    match w.analyzer.team w.game with
    | (.error error, notices) => .fail w (.score error) notices
    | (.ok report, notices) => ⟨.ok (.report report), notices, { w with team := some report }⟩
  | .warn =>
    .reply
      (.warnings
        (Warning.evaluate Warning.defaultRules (.of w.analyzer.settings w.scores w.team))) w

/-- What comes of each of a list of commands, one after the other. -/
def runAll (w : Workbench α) : List (Command α) → List (Outcome α)
  | [] => []
  | command :: rest =>
    let outcome := w.run command
    outcome :: outcome.next.runAll rest

/-- A command that fails changes nothing. -/
theorem run_next_of_error {w : Workbench α} {command : Command α} {fault : Fault α}
    (h : (w.run command).result = .error fault) : (w.run command).next = w := by
  revert h
  unfold run
  cases command <;> simp only [Outcome.reply, edit] <;> (try split) <;> (try split) <;>
    simp [Outcome.fail]

end Workbench

end Roster
