import Roster.Dashboard.BoxPanel
import Roster.Dashboard.TagPanel
import Roster.Dashboard.TeamPanel
import Roster.Dashboard.WarningPanel
import Roster.Game.Source

/-!
# The analysis page

A game is loaded and analysed under the settings of the sidebar; its box, its team, the warnings and
a tag builder stand in tabs. A game that is refused is told and nothing else is shown. What breaks
the page off in a tab is told behind the tabs.
-/

namespace Roster.Dashboard.AnalysisPage

/-- The button that leads back. -/
def homeLabel : String := "🏠 Home"

/-- The choice of the crit table, beginning with the game's if it is known. -/
def presetChoice (s : Settings Float) : Widget :=
  let name := if Crit.isKnownPreset s.critPreset then s.critPreset else Crit.defaultPreset
  ⟨"Crit stage preset", .choice Crit.presetNames (Crit.presetNames.idxOf name)⟩

/-- The crit damage, up to five or the game's. -/
def damageInput (s : Settings Float) : Widget :=
  ⟨"Base crit damage multiplier",
    .numberInput s.critDamage 0 (some (Scalar.larger 5.0 s.critDamage))⟩

def abilitiesSwitch (s : Settings Float) : Widget :=
  ⟨"Disable abilities", .checkbox s.disableAbilities⟩

def itemsSwitch (s : Settings Float) : Widget := ⟨"Disable held items", .checkbox s.disableItems⟩

/-- The sidebar. -/
def sidebar (m : Memory) (s : Settings Float) : List Element :=
  [.header "⚙️ Crit Settings", .input m (presetChoice s), .input m (damageInput s),
    .header "🎒 Game Rules", .input m (abilitiesSwitch s), .input m (itemsSwitch s)]

/-- The game's settings under those of the sidebar. -/
def chosenSettings (m : Memory) (s : Settings Float) : Settings Float :=
  s.change
    { critPreset := (m.valueOf (presetChoice s)).toChoice
      critDamage := some (m.valueOf (damageInput s)).toNumber
      disableAbilities := some (m.valueOf (abilitiesSwitch s)).toSwitch
      disableItems := some (m.valueOf (itemsSwitch s)).toSwitch }

/-- The tabs of an analysed game. -/
def tabs (m : Memory) (g : Game Float) (settings : Settings (Number Float))
    (scores : List (Score Float)) (team : TeamReport Float) : Panel :=
  let warnings := Warning.evaluate Warning.defaultRules (.of settings scores (some team))
  let box := BoxPanel.panel m g scores
  let shown := (Element.widgetsOf box.elements).map Widget.id
  .tabs
    [("📦 Box", box), ("🛡️ Team", TeamPanel.panel team),
      ("⚠️ Warnings", WarningPanel.panel warnings),
      ("🏷️ Tag Builder", TagPanel.panel m g shown)]

/-- The page below the title of a game that can be named. -/
def analysisView (m : Memory) (g : Game Float) (top : List Element) (log : List LogLine) : View :=
  let settings := (chosenSettings m g.settings).written
  let analyzer := Analyzer.ofGame g settings
  let (box, boxNotices) := analyzer.box g
  let (team, teamNotices) := analyzer.team g
  let log := log ++ LogLine.warnings ((boxNotices ++ teamNotices).map AnalysisNotice.logLine)
  let panel : Panel :=
    match box, team with
    | .ok scores, .ok team => tabs m g settings scores team
    | .error error, _ | _, .error error => ⟨[], some (.score error)⟩
  ⟨⟨top ++ panel.all, sidebar m g.settings⟩, panel.breakdown.isNone, log⟩

/-- The page of a game. -/
def gameView (m : Memory) (g : Game Float) (log : List LogLine) : View :=
  let top := Panel.ofElements [] [.button homeLabel false, .title ("🔍 " ++ g.name)]
  if top.breakdown.isSome then ⟨⟨top.all, []⟩, false, log⟩
  else analysisView m g top.elements log

/-- What is shown of a game that cannot be loaded. -/
def failure (error : LoadError (Game.Flaw Float)) : Element :=
  match Game.overrun? error with
  | some cause => .breakdown (.overrun cause)
  | none => .error ("Error loading game: " ++ Game.loadMessage Game.textPlace error)

/-- The page. -/
def view (m : Memory) (gameText : Text) : View :=
  let loading := Game.ofText none gameText
  let log := loading.notices.map Game.Notice.logLine
  match loading.result with
  | .error error => ⟨⟨[.button homeLabel false, failure error], []⟩, false, log⟩
  | .ok g => gameView m g log

end Roster.Dashboard.AnalysisPage
