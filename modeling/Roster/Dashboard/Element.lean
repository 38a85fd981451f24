import Roster.Dashboard.Widget
import Roster.Log
import Roster.Text.Layout
import Roster.Text.Utf8

/-!
# Pages

What a page of the dashboard shows: texts, messages, figures, tables, charts, widgets and buttons,
in tabs and expanders. A page has a main part and a sidebar; one that breaks off shows nothing after
the place where it did. What holds a half cannot be shown, nor a widget that is shown already.
-/

namespace Roster.Dashboard

/-- A cell of a table. -/
inductive Cell where
  | text (s : Text)
  | whole (n : Int)
  | real (x : Float)

/-- The values of a heatmap: row by row if there are gaps, else one after the other. -/
inductive Grid where
  | gapped (rows : List (List (Option Float)))
  | full (values : List Float)

/-- The values of rows. Among gaps, values that are not finite are gaps too. -/
def Grid.ofRows (rows : List (List (Option Float))) : Grid :=
  match rows.mapM fun row => row.mapM id with
  | some rows => .full rows.flatten
  | none => .gapped (rows.map fun row => row.map fun x => x.filter fun x => Scalar.Finite x)

/-- A series of a chart. -/
inductive Series where
  | points (name : Text) (x y size : List Float) (labels : List Text)
  | heatmap (columns rows : List Text) (values : Grid)
  | bars (name : String) (labels : List Text) (heights : List Nat)

/-- How a text is set. -/
inductive TextStyle where
  | title
  | header
  | markdown
  | caption
  | code
  deriving DecidableEq, Repr

/-- How a message is meant. -/
inductive MessageKind where
  | error
  | warning
  | info
  | success
  deriving DecidableEq, Repr

/-- What breaks a page off. -/
inductive Breakdown where
  /-- An uploaded file is no text. -/
  | notText (fault : Text.Utf8Fault)
  /-- The name of an uploaded file holds the character with the number zero. -/
  | nulInName
  /-- The name of an uploaded file has another extension than the one that is wanted. -/
  | otherExtension (found : Text) (wanted : String)
  /-- A text that is to be shown holds halves. -/
  | halves (run : Text.HalfRun)
  /-- The game's document has too much of something. -/
  | overrun (cause : Game.Overrun)
  | score (error : ScoreError)
  /-- The whole numbers of a column have no common type of 64 bits. -/
  | columnTooWide
  /-- A widget is on the page already. -/
  | sameWidget (kind : WidgetKind)
  deriving DecidableEq, Repr

/-- The name of a kind of widget where it is told about. -/
def WidgetKind.name : WidgetKind → String
  | .textInput => "text_input"
  | .textArea => "text_area"
  | .numberInput => "number_input"
  | .choice => "selectbox"
  | .checkbox => "checkbox"
  | .fileUpload => "file_uploader"

/-- What is said of a breakdown. -/
def Breakdown.message : Breakdown → Text
  | .notText fault => fault.message
  | .nulInName => "Filename cannot contain null bytes."
  | .otherExtension found wanted =>
    "Invalid file extension: \x60" ++ found ++ "\x60. Allowed: [" ++ Text.quoted wanted ++ "]"
  | .halves run => run.message
  | .overrun cause => cause.message
  | .score error => error.message
  | .columnTooWide =>
    "Unable to convert dataframe to Arrow table.\nPython int too large to convert to C long"
  | .sameWidget kind =>
    let name := "\x60" ++ kind.name ++ "\x60"
    s!"There are multiple {name} elements with the same auto-generated ID. When this element is "
      ++ "created, it is assigned an internal ID based on the element type and provided "
      ++ "parameters. Multiple elements with the same type and parameters will cause this "
      ++ "error.\n\nTo fix this error, please pass a unique \x60key\x60 argument to the "
      ++ s!"{name} element."

/-- What stands on a page. -/
inductive Element where
  | text (style : TextStyle) (s : Text)
  | message (kind : MessageKind) (s : Text)
  | breakdown (breakdown : Breakdown)
  | metric (label value : String)
  | button (label : String) (disabled : Bool)
  | widget (widget : Widget) (value : WidgetValue)
  | table (columns : List String) (rows : List (List Cell))
  | chart (title : Option String) (series : List Series)
  | tab (label : String) (children : List Element)
  | expander (label : String) (isOpen : Bool) (children : List Element)

namespace Element

/-- A title. Texts other than code have no indentation and no blanks around. -/
def title (s : Text) : Element := .text .title (Text.dedent s)

def header (s : Text) : Element := .text .header (Text.dedent s)

def markdown (s : Text) : Element := .text .markdown (Text.dedent s)

def caption (s : Text) : Element := .text .caption (Text.dedent s)

def code (s : Text) : Element := .text .code s

def error (s : Text) : Element := .message .error (Text.dedent s)

def info (s : Text) : Element := .message .info (Text.dedent s)

def success (s : Text) : Element := .message .success (Text.dedent s)

/-- A widget with the value that it has. -/
def input (m : Memory) (w : Widget) : Element := .widget w (m.valueOf w)

/-- Why an element cannot be shown beside widgets that are shown already. -/
def breakdown? (shown : List WidgetId) : Element → Option Breakdown
  | .text _ s | .message _ s => (Text.halves? s).map .halves
  | .widget w _ =>
    if w.id ∈ shown then some (.sameWidget w.control.kind)
    else (w.control.texts.findSome? Text.halves?).map .halves
  | _ => none

mutual

/-- The widgets of an element, in order. -/
def widgets : Element → List Widget
  | .widget w _ => [w]
  | .tab _ children => widgetsOf children
  | .expander _ _ children => widgetsOf children
  | _ => []

/-- The widgets of elements, in order. -/
def widgetsOf : List Element → List Widget
  | [] => []
  | e :: rest => widgets e ++ widgetsOf rest

end

end Element

/-- What a part of a page shows, and what breaks the page off behind it. -/
structure Panel where
  elements : List Element
  breakdown : Option Breakdown := none

namespace Panel

/-- Elements up to the first that cannot be shown, on a page with the given widgets. -/
def ofElements (shown : List WidgetId) : List Element → Panel
  | [] => ⟨[], none⟩
  | e :: rest =>
    match e.breakdown? shown with
    | some breakdown => ⟨[], some breakdown⟩
    | none =>
      let behind := ofElements (e.widgets.map Widget.id ++ shown) rest
      { behind with elements := e :: behind.elements }

/-- A panel and another one behind it, which is not reached if the first breaks the page off. -/
def append (p q : Panel) : Panel :=
  match p.breakdown with
  | some _ => p
  | none => { q with elements := p.elements ++ q.elements }

instance : Append Panel := ⟨append⟩

/-- Panels one behind the other. -/
def join (panels : List Panel) : Panel := panels.foldr append ⟨[], none⟩

/-- A panel in an expander. -/
def expander (label : String) (isOpen : Bool) (p : Panel) : Panel :=
  { p with elements := [.expander label isOpen p.elements] }

/-- Panels in tabs with their labels. The tabs behind one that breaks the page off are empty. -/
def tabs : List (String × Panel) → Panel
  | [] => ⟨[], none⟩
  | (label, panel) :: rest =>
    match panel.breakdown with
    | some breakdown =>
      ⟨.tab label panel.elements :: rest.map fun p => .tab p.1 [], some breakdown⟩
    | none =>
      let behind := tabs rest
      { behind with elements := .tab label panel.elements :: behind.elements }

/-- All that a panel shows: its elements, and what breaks the page off. -/
def all (p : Panel) : List Element := p.elements ++ (p.breakdown.map .breakdown).toList

end Panel

/-- A page. -/
structure Page where
  main : List Element
  sidebar : List Element

/-- The page before anything is shown. -/
def Page.blank : Page := ⟨[], []⟩

/-- The widgets of a page, in order. -/
def Page.widgets (p : Page) : List Widget :=
  Element.widgetsOf p.main ++ Element.widgetsOf p.sidebar

/-- A page as it comes to be shown: whether it is complete, and the log of its making. -/
structure View where
  page : Page
  complete : Bool
  log : List LogLine

/-- A page that breaks off at once. -/
def View.broken (breakdown : Breakdown) : View := ⟨⟨[.breakdown breakdown], []⟩, false, []⟩

end Roster.Dashboard
