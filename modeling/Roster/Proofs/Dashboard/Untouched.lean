import Roster.Dashboard.AnalysisPage
import Roster.Proofs.Command.Ending
import Roster.Proofs.Game.Box
import Roster.Proofs.Game.Origin
import Roster.Proofs.Warning.Preset

/-!
# The sidebar untouched

The page and the command analyse one document under settings that they come by on their own: the
page under those of its sidebar, the command under the game's with what its options replace. As long
as the sidebar is not touched and no option is given, both find the same. Only a crit table that is
not known is none of the sidebar's choices: there the page is at the default one from the start, and
does not warn of the other.
-/

namespace Roster

/-! ### What is found of a game -/

/-- What an analysis under settings finds of a game: the ranked box and the team. -/
structure Findings where
  settings : Settings (Number Float)
  scores : List (Score Float)
  team : TeamReport Float

namespace Findings

/-- The findings of a game. -/
structure Of (f : Findings) (g : Game Float) : Prop where
  box : ((Analyzer.ofGame g f.settings).box g).1 = .ok f.scores
  team : ((Analyzer.ofGame g f.settings).team g).1 = .ok f.team

/-- The warnings about what is found. -/
def warnings (f : Findings) : List Warning :=
  Warning.evaluate Warning.defaultRules (.of f.settings f.scores (some f.team))

/-- The same findings under settings that name the crit table that counts. -/
def withEffectivePreset (f : Findings) : Findings :=
  { f with settings := f.settings.withEffectivePreset }

theorem withEffectivePreset_eq_iff (f : Findings) :
    f.withEffectivePreset = f ↔ Crit.isKnownPreset f.settings.critPreset = true := by
  rw [← Settings.withEffectivePreset_eq_iff]
  constructor
  · exact congrArg Findings.settings
  · intro h
    unfold withEffectivePreset
    rw [h]

theorem warnings_withEffectivePreset (f : Findings) :
    f.withEffectivePreset.warnings =
      Warning.withoutCode Warning.unknownPresetCode f.warnings :=
  Warning.evaluate_known (.of f.settings f.scores (some f.team))
    (Crit.isKnownPreset_effectivePreset f.settings.critPreset)

theorem warnings_withEffectivePreset_eq_iff (f : Findings) :
    f.withEffectivePreset.warnings = f.warnings ↔
      Crit.isKnownPreset f.settings.critPreset = true := by
  rw [warnings_withEffectivePreset]
  exact Warning.withoutCode_evaluate_eq_iff (.of f.settings f.scores (some f.team))

/-- They are found of the game under any name. -/
theorem Of.withEffectivePreset {f : Findings} {g : Game Float} {name : Text}
    (h : f.Of { g with name }) : f.withEffectivePreset.Of g where
  box := (Analyzer.box_withEffectivePreset g f.settings name).trans h.box
  team := (congrArg Prod.fst (Analyzer.team_withEffectivePreset g f.settings name)).trans h.team

/-- There is something to find of every well-formed game whose types can be shown. -/
theorem exists_of {g : Game Float} (hg : g.WellFormed) (hshows : ∀ e ∈ g.box, g.ShowsTypes e)
    (settings : Settings Float) : ∃ f : Findings, f.settings = settings.written ∧ f.Of g := by
  have ht := Potentials.scalarSettings?_written settings
  obtain ⟨scores, hscores⟩ := Analyzer.exists_box hshows hg ht
  obtain ⟨team, hteam⟩ := Analyzer.exists_team hshows hg ht
  exact ⟨⟨settings.written, scores, team⟩, rfl, hscores, hteam⟩

end Findings

/-! ### The command -/

namespace Command

/-- A request for the team that leaves the settings to the game. -/
def teamRequest (path : Text) (top : Option Int) (verbose : Bool) : Request Float :=
  { path, team := true, top, critPreset := none, critDamage := none, verbose }

/-- What a command prints of findings, if it is not broken off. -/
def linesOf (r : Request Float) (g : Game Float) (f : Findings) : List Text :=
  [loadingLine r] ++ (if r.verbose then [sectionsLine g] else []) ++ Report.box r.top f.scores
    ++ Report.team f.team ++ Report.heading "⚠️  WARNINGS"
    ++ [Warning.summary f.warnings, closingLine f.scores.length g]

/-- A command that loads a game from a file and tells of its findings under its settings. Only the
line of a surplus may be too long to be told. -/
structure Tells (r : Request Float) (bytes : List UInt8) (g : Game Float) (f : Findings) :
    Prop where
  loaded : (Game.ofFile r.path (.content bytes)).result = .ok g
  settings : f.settings = (g.settings.change r.settingsChange).written
  found : f.Of g
  told : Report.breaksOff r.top f.scores.length = false →
    (run r (.content bytes)).ending = .success ∧ (run r (.content bytes)).printed = linesOf r g f

/-- Findings of the game that a command for the team loads are what it tells. -/
theorem tells_teamRequest {path : Text} {top : Option Int} {verbose : Bool} {bytes : List UInt8}
    {g : Game Float} {f : Findings} (hload : (Game.ofFile path (.content bytes)).result = .ok g)
    (hs : f.settings = g.settings.written) (hf : f.Of g) :
    Tells (teamRequest path top verbose) bytes g f := by
  refine ⟨hload, hs, hf, fun hb => ?_⟩
  obtain ⟨log, hrun⟩ := run_eq_analyze (r := teamRequest path top verbose) hload
  obtain ⟨hbox, hteam⟩ := hf
  rw [hs] at hbox hteam
  have hhollow : hollowAbort? (teamRequest path top verbose) g = none := by
    simp [hollowAbort?, teamRequest]
  have hreport : (teamReport (teamRequest path top verbose) (.ofGame g g.settings.written) g).1 =
      .ok (some f.team) := by
    simp [teamReport, teamRequest, hteam, Except.map]
  have hchange : g.settings.change (teamRequest path top verbose).settingsChange = g.settings := rfl
  rw [hrun, hhollow]
  dsimp only
  unfold analyze
  rw [hchange]
  simp only [hbox]
  unfold tell
  dsimp only
  rw [if_neg (by simpa using hb), hreport]
  refine ⟨rfl, ?_⟩
  unfold linesOf Findings.warnings
  rw [hs]
  rfl

end Command

/-! ### The page -/

theorem Dashboard.Panel.all_append (p q : Panel) :
    (p ++ q).all = if p.breakdown.isSome then p.all else p.elements ++ q.all := by
  change (p.append q).all = _
  unfold append
  cases hp : p.breakdown with
  | some breakdown => rfl
  | none => simp [all]

namespace Dashboard.AnalysisPage

/-- The inputs of the sidebar. -/
def inputs (s : Settings Float) : List Widget :=
  [presetChoice s, damageInput s, abilitiesSwitch s, itemsSwitch s]

/-- A sidebar whose inputs have their first values. -/
def Untouched (m : Memory) (s : Settings Float) : Prop :=
  ∀ w ∈ inputs s, m.valueOf w = w.control.firstValue

theorem untouched_nil (s : Settings Float) : Untouched [] s := fun _ _ => rfl

theorem firstValue_presetChoice (s : Settings Float) :
    (presetChoice s).control.firstValue = .choice (some (Crit.effectivePreset s.critPreset)) := by
  have hmem : Crit.effectivePreset s.critPreset ∈ Crit.presetNames := by
    simpa [Crit.isKnownPreset] using Crit.isKnownPreset_effectivePreset s.critPreset
  exact congrArg WidgetValue.choice (List.getElem?_idxOf hmem)

/-- An untouched sidebar leaves the settings as they are, but for a crit table that is not known. -/
theorem chosenSettings_of_untouched {m : Memory} {s : Settings Float} (h : Untouched m s) :
    chosenSettings m s = s.withEffectivePreset := by
  simp only [Untouched, inputs, List.forall_mem_cons, List.not_mem_nil, false_implies,
    implies_true, and_true] at h
  obtain ⟨hpreset, hdamage, habilities, hitems⟩ := h
  unfold chosenSettings
  rw [hpreset, hdamage, habilities, hitems, firstValue_presetChoice]
  rfl

/-- The head of a game's page. -/
def head (g : Game Float) : Panel :=
  .ofElements [] [.button homeLabel false, .title ("🔍 " ++ g.name)]

theorem gameView_eq (m : Memory) (g : Game Float) (log : List LogLine) :
    gameView m g log =
      if (head g).breakdown.isSome then ⟨⟨(head g).all, []⟩, false, log⟩
      else analysisView m g (head g).elements log :=
  rfl

theorem main_analysisView {m : Memory} {g : Game Float} {f : Findings}
    (hs : f.settings = (chosenSettings m g.settings).written) (hf : f.Of g) (top : List Element)
    (log : List LogLine) :
    (analysisView m g top log).page.main = top ++ (tabs m g f.settings f.scores f.team).all := by
  obtain ⟨hbox, hteam⟩ := hf
  rw [hs] at hbox hteam ⊢
  unfold analysisView
  simp only [hbox, hteam]

/-- A page that loads a game from a text and shows its findings under the settings of the
sidebar. -/
structure Shows (m : Memory) (text : Text) (g : Game Float) (f : Findings) : Prop where
  loaded : (Game.ofText none text).result = .ok g
  settings : f.settings = (chosenSettings m g.settings).written
  found : f.Of g
  shown : (view m text).page.main = (head g ++ tabs m g f.settings f.scores f.team).all

/-- Findings under the settings of the sidebar are what a page shows. -/
theorem shows_of_findings {m : Memory} {text : Text} {g : Game Float} {f : Findings}
    (hload : (Game.ofText none text).result = .ok g)
    (hs : f.settings = (chosenSettings m g.settings).written) (hf : f.Of g) :
    Shows m text g f := by
  refine ⟨hload, hs, hf, ?_⟩
  have hview : ∃ log, view m text = gameView m g log := by
    unfold view
    simp only [hload]
    exact ⟨_, rfl⟩
  obtain ⟨log, hview⟩ := hview
  rw [hview, gameView_eq, Panel.all_append]
  split
  · rfl
  · exact main_analysisView hs hf _ log

end Dashboard.AnalysisPage

/-! ### Both -/

namespace Game

/-- A game in a text is in every file with the same document, where it may have another name; it is
well formed, and its types can be shown. -/
theorem ofFile_of_ofText {text : Text} {bytes : List UInt8} {g : Game Float}
    (hg : (ofText none text).result = .ok g)
    (hbytes : Json.ofBytes (α := Float) bytes = Json.ofText text) (path : Text) :
    ∃ name, (ofFile path (.content bytes)).result = .ok { g with name } ∧
      { g with name }.WellFormed ∧ ∀ e, ShowsTypes { g with name } e := by
  obtain ⟨v, hv, hread⟩ := result_ofDocument_eq_ok_iff.1 hg
  obtain ⟨name, hname⟩ := read_rename hread (some (nameOfFile path))
  refine ⟨name, ?_, wellFormed_of_read hname,
    showsTypes_of_read (Json.isWritable_of_ofText hv) hname⟩
  rw [Command.result_ofFile_content, hbytes, hv, Command.result_ofDocument_ok, hname]
  rfl

end Game

open Dashboard in
/-- The page of a document, its sidebar untouched, shows what a command for the team tells of it
under the game's settings: the same scores and the same team. Where the crit table is not known the
page's settings name the default one, and its warnings lack the one of that. -/
theorem page_shows_what_is_told {m : Memory} {text : Text} {bytes : List UInt8} {g : Game Float}
    (hg : (Game.ofText none text).result = .ok g)
    (hbytes : Json.ofBytes (α := Float) bytes = Json.ofText text)
    (hm : AnalysisPage.Untouched m g.settings) (path : Text) (top : Option Int) (verbose : Bool) :
    ∃ (name : Text) (f : Findings),
      Command.Tells (Command.teamRequest path top verbose) bytes { g with name } f ∧
      f.settings = g.settings.written ∧
      AnalysisPage.Shows m text g f.withEffectivePreset ∧
      f.withEffectivePreset.warnings =
        Warning.withoutCode Warning.unknownPresetCode f.warnings ∧
      (f.withEffectivePreset = f ↔ Crit.isKnownPreset g.settings.critPreset = true) ∧
      (f.withEffectivePreset.warnings = f.warnings ↔
        Crit.isKnownPreset g.settings.critPreset = true) := by
  obtain ⟨name, hload, hwell, hshows⟩ := Game.ofFile_of_ofText hg hbytes path
  obtain ⟨f, hs, hf⟩ := Findings.exists_of hwell (fun e _ => hshows e) g.settings
  have hpreset : f.settings.critPreset = g.settings.critPreset := congrArg Settings.critPreset hs
  have hchosen : f.withEffectivePreset.settings =
      (AnalysisPage.chosenSettings m g.settings).written := by
    rw [AnalysisPage.chosenSettings_of_untouched hm, Settings.written_withEffectivePreset, ← hs]
    rfl
  refine ⟨name, f, Command.tells_teamRequest hload hs hf, hs,
    AnalysisPage.shows_of_findings hg hchosen hf.withEffectivePreset,
    f.warnings_withEffectivePreset, ?_, ?_⟩
  · rw [← hpreset]
    exact f.withEffectivePreset_eq_iff
  · rw [← hpreset]
    exact f.warnings_withEffectivePreset_eq_iff

/-! ### A crit table that is not known -/

/-- The file of a game with a creature, which is in the team, and a crit table that is not known. -/
def gen9File : List UInt8 :=
  let types := "\"types\": [\x7b\"id\": 1, \"name\": \"Plain\"\x7d], "
  let stats := "\"hp\": 80, \"atk\": 80, \"def\": 80, \"spa\": 80, \"spd\": 80, \"spe\": 80"
  let lone := "\"id\": 1, \"name\": \"Lone\", \"type1_id\": 1, "
  let species := "\"species\": [\x7b" ++ lone ++ stats ++ "\x7d], "
  let box := "\"box\": [\x7b\"id\": 1, \"species_id\": 1\x7d], \"team\": [1], "
  let settings := "\"settings\": \x7b\"crit_stage_preset\": \"gen9\"\x7d"
  ("\x7b" ++ types ++ species ++ box ++ settings ++ "\x7d").toUTF8.data.toList

theorem read_gen9File :
    ∃ (text : Text) (g : Game Float), Json.ofBytes (α := Float) gen9File = Json.ofText text ∧
      (Game.ofText none text).result = .ok g ∧ g.settings.critPreset = "gen9" := by
  have h : ((Text.decodeUtf8 gen9File).toOption.bind fun cs =>
      (Game.ofText (α := Float) none (.ofChars (Text.unifyLineEnds cs))).result.toOption.map
        fun g => g.settings.critPreset) = some "gen9" := by
    decide +kernel
  obtain ⟨cs, hcs, h⟩ := Option.bind_eq_some_iff.1 h
  obtain ⟨g, hg, hpreset⟩ := Option.map_eq_some_iff.1 h
  refine ⟨_, g, ?_, toOption_eq_some.1 hg, hpreset⟩
  unfold Json.ofBytes
  rw [toOption_eq_some.1 hcs]

open Dashboard in
theorem page_shows_what_is_told_gen9 :
    ∃ (text : Text) (g : Game Float), Json.ofBytes (α := Float) gen9File = Json.ofText text ∧
      (Game.ofText none text).result = .ok g ∧ AnalysisPage.Untouched [] g.settings ∧
      ∃ (name : Text) (f : Findings),
        Command.Tells (Command.teamRequest "lone.json" none false) gen9File { g with name } f ∧
        f.settings = g.settings.written ∧
        AnalysisPage.Shows [] text g f.withEffectivePreset ∧
        f.withEffectivePreset.warnings =
          Warning.withoutCode Warning.unknownPresetCode f.warnings ∧
        (f.withEffectivePreset = f ↔ Crit.isKnownPreset g.settings.critPreset = true) ∧
        (f.withEffectivePreset.warnings = f.warnings ↔
          Crit.isKnownPreset g.settings.critPreset = true) := by
  obtain ⟨text, g, hbytes, hg, -⟩ := read_gen9File
  have hm := AnalysisPage.untouched_nil g.settings
  exact ⟨text, g, hbytes, hg, hm, page_shows_what_is_told hg hbytes hm "lone.json" none false⟩

open Dashboard in
/-- With that table the page's settings are not the game's, nor are its warnings those that the
game's settings give. -/
theorem page_of_gen9 :
    ∃ (text : Text) (g : Game Float), Json.ofBytes (α := Float) gen9File = Json.ofText text ∧
      (Game.ofText none text).result = .ok g ∧ AnalysisPage.Untouched [] g.settings ∧
      AnalysisPage.chosenSettings [] g.settings ≠ g.settings ∧
      ∀ (scores : List (Score Float)) (team : TeamReport Float),
        Warning.evaluate Warning.defaultRules
            (.of (AnalysisPage.chosenSettings [] g.settings).written scores (some team)) ≠
          Warning.evaluate Warning.defaultRules (.of g.settings.written scores (some team)) := by
  obtain ⟨text, g, hbytes, hg, hpreset⟩ := read_gen9File
  have hm := AnalysisPage.untouched_nil g.settings
  have hunknown : ¬ Crit.isKnownPreset g.settings.critPreset = true := by
    rw [hpreset]
    decide
  refine ⟨text, g, hbytes, hg, hm, ?_, fun scores team => ?_⟩
  · rw [AnalysisPage.chosenSettings_of_untouched hm, Ne, Settings.withEffectivePreset_eq_iff]
    exact hunknown
  · rw [AnalysisPage.chosenSettings_of_untouched hm]
    exact fun h => hunknown
      ((Findings.warnings_withEffectivePreset_eq_iff ⟨g.settings.written, scores, team⟩).1 h)

end Roster
