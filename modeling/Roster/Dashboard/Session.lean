import Roster.Dashboard.AnalysisPage
import Roster.Dashboard.LandingPage
import Roster.Dashboard.SampleGame

/-!
# Sessions on the dashboard

A session is at one of two pages with the text of a game, and remembers what was set in the widgets.
An action changes what is remembered or presses a button; then the page is shown anew. What widgets
that are not on the page had is forgotten once a page is complete.
-/

namespace Roster.Dashboard

/-- The pages. -/
inductive PageName where
  | landing
  | analysis
  deriving DecidableEq, Repr

def PageName.text : PageName → String
  | .landing => "landing"
  | .analysis => "analysis"

/-- A value for a widget of a kind with a label. -/
structure Assignment where
  kind : WidgetKind
  label : String
  value : WidgetValue

/-- What the user does. -/
inductive Action where
  /-- Shows the page again. -/
  | refresh
  /-- Goes to the analysis of a text. -/
  | openGame (text : Text)
  /-- Sets widgets. Of widgets with one kind and label it is the one with the number `place`. -/
  | assign (assignments : List Assignment) (place : Nat)
  | press (label : String)
  | upload (file : Upload)

/-- A session. -/
structure Session where
  page : PageName
  gameText : Text
  memory : Memory
  shown : Page

namespace Session

/-- A session that begins. -/
def start : Session := ⟨.landing, "", [], .blank⟩

/-- The widgets on the page with a kind and a label. -/
def find (s : Session) (kind : WidgetKind) (label : String) : List Widget :=
  s.shown.widgets.filter fun w => w.control.kind = kind ∧ w.label = label

/-- A session that remembers one more value. -/
def remember (s : Session) (kind : WidgetKind) (label : String) (place : Nat)
    (value : WidgetValue) : Session :=
  match (s.find kind label)[place]? with
  | none => s
  | some w => { s with memory := Keyed.put w.id value s.memory }

/-- A session after a button is pressed. A file that is no text cannot be analysed. -/
def press (s : Session) (label : String) : Session :=
  match s.page with
  | .landing =>
    if label = Landing.sampleLabel then { s with gameText := SampleGame.text }
    else if label = Landing.analyzeLabel then
      match Landing.enteredText s.memory s.gameText with
      | .error _ => s
      | .ok text => { s with page := .analysis, gameText := text }
    else s
  | .analysis =>
    if label = AnalysisPage.homeLabel then { s with page := .landing, gameText := "" } else s

/-- A session after an action, before its page is shown anew. -/
def apply (s : Session) : Action → Session
  | .refresh => s
  | .openGame text => { s with page := .analysis, gameText := text }
  | .assign assignments place =>
    assignments.foldl (fun s a => s.remember a.kind a.label place a.value) s
  | .press label => s.press label
  | .upload file =>
    s.remember .fileUpload Landing.gameFile.label 0
      (.file (if (Landing.uploadBreakdown? file.name).isSome then none else some file))

/-- The page of a session. -/
def view (s : Session) : View :=
  match s.page with
  | .landing => Landing.view s.memory s.gameText
  | .analysis => AnalysisPage.view s.memory s.gameText

/-- A session after its page is shown. -/
def display (s : Session) (v : View) : Session :=
  { s with
    shown := v.page
    memory := if v.complete then s.memory.keep (v.page.widgets.map Widget.id) else s.memory }

/-- What breaks an action off before a page is made: an uploaded file that is not taken. -/
def refusal? (s : Session) : Action → Option Breakdown
  | .upload file =>
    if (s.find .fileUpload Landing.gameFile.label).isEmpty then none
    else Landing.uploadBreakdown? file.name
  | _ => none

/-- A session after an action, and its page. -/
def step (s : Session) (action : Action) : Session × View :=
  let next := s.apply action
  let v :=
    match s.refusal? action with
    | some breakdown => .broken breakdown
    | none => next.view
  (next.display v, v)

/-- The sessions after each of a list of actions, with their pages. -/
def run (s : Session) : List Action → List (Session × View)
  | [] => []
  | action :: rest =>
    let (s, v) := s.step action
    (s, v) :: s.run rest

end Session

end Roster.Dashboard
