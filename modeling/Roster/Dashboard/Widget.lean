import Roster.Keyed
import Roster.Decimal.Style

/-!
# Widgets

The inputs on a page. A widget is the same one from page to page when its kind, its label and its
parameters are the same; it keeps the value that was set until a page that is complete does not show
it. Then it starts again from its first value, as it does from a value beyond its limits.
-/

namespace Roster.Dashboard

/-- The kinds of widgets. -/
inductive WidgetKind where
  | textInput
  | textArea
  | numberInput
  | choice
  | checkbox
  | fileUpload
  deriving DecidableEq, Repr

/-- A file that is uploaded. -/
structure Upload where
  name : Text
  bytes : List UInt8

/-- The value of a widget. -/
inductive WidgetValue where
  | text (s : Text)
  | number (x : Float)
  | switch (on : Bool)
  | choice (option : Option Text)
  | file (upload : Option Upload)

/-- The parameters of a widget: its first value and its limits. -/
inductive Control where
  | textInput (first : Text)
  | textArea (first : Text)
  | numberInput (first least : Float) (greatest : Option Float)
  | choice (options : List Text) (first : Nat)
  | checkbox (first : Bool)
  | fileUpload

/-- A widget. -/
structure Widget where
  label : String
  control : Control

/-- What makes two widgets the same, the parameters as texts. -/
structure WidgetId where
  kind : WidgetKind
  label : String
  parameters : List Text
  deriving DecidableEq, Repr

namespace Control

/-- The kind of a control. -/
def kind : Control → WidgetKind
  | .textInput _ => .textInput
  | .textArea _ => .textArea
  | .numberInput .. => .numberInput
  | .choice .. => .choice
  | .checkbox _ => .checkbox
  | .fileUpload => .fileUpload

/-- The texts that a control shows from the start, as they were given. -/
def texts : Control → List Text
  | .textInput first | .textArea first => [first]
  | .choice options _ => options
  | .numberInput .. | .checkbox _ | .fileUpload => []

/-- The parameters as texts. -/
def parameters : Control → List Text
  | .textInput first | .textArea first => [first]
  | .numberInput first least greatest =>
    ↑(Decimal.plain.write first) :: ↑(Decimal.plain.write least)
      :: (greatest.map fun g => Text.ofString (Decimal.plain.write g)).toList
  | .choice options first => ↑(toString first) :: options
  | .checkbox first => [toString first]
  | .fileUpload => []

/-- The value before any is set. -/
def firstValue : Control → WidgetValue
  | .textInput first => .text first
  | .textArea first => .text first
  | .numberInput first .. => .number first
  | .choice options first => .choice options[first]?
  | .checkbox first => .switch first
  | .fileUpload => .file none

/-- Whether a value lies within the limits. -/
def admits : Control → WidgetValue → Bool
  | .numberInput _ least greatest, .number x =>
    !decide (x < least) && greatest.all fun g => !decide (g < x)
  | _, _ => true

end Control

/-- What makes a widget the same. -/
def Widget.id (w : Widget) : WidgetId := ⟨w.control.kind, w.label, w.control.parameters⟩

/-- The values that were set. -/
abbrev Memory := Keyed WidgetId WidgetValue

namespace Memory

/-- The value of a widget: the one that was set, if it lies within the limits, else its first. -/
def valueOf (m : Memory) (w : Widget) : WidgetValue :=
  ((Keyed.get? w.id m).filter w.control.admits).getD w.control.firstValue

/-- Only the values of the given widgets. -/
def keep (m : Memory) (shown : List WidgetId) : Memory := m.filter fun e => decide (e.1 ∈ shown)

/-- Of widgets that are kept the values stay. -/
theorem get?_keep (m : Memory) (shown : List WidgetId) (id : WidgetId) :
    Keyed.get? id (m.keep shown) = if id ∈ shown then Keyed.get? id m else none := by
  unfold keep
  rw [Keyed.get?_filter_key (fun id => decide (id ∈ shown)) id m]
  simp

/-- A widget whose value was not kept has its first value. -/
theorem valueOf_keep_of_notMem {m : Memory} {w : Widget} {shown : List WidgetId}
    (h : w.id ∉ shown) : (m.keep shown).valueOf w = w.control.firstValue := by
  simp [valueOf, get?_keep, h]

/-- A widget on the page keeps its value. -/
theorem valueOf_keep_of_mem {m : Memory} {w : Widget} {shown : List WidgetId}
    (h : w.id ∈ shown) : (m.keep shown).valueOf w = m.valueOf w := by
  simp [valueOf, get?_keep, h]

end Memory

namespace WidgetValue

/-- The text of a text widget. -/
def toText : WidgetValue → Text
  | .text s => s
  | _ => ""

/-- The number of a number widget. -/
def toNumber : WidgetValue → Float
  | .number x => x
  | _ => 0

/-- The state of a checkbox. -/
def toSwitch : WidgetValue → Bool
  | .switch on => on
  | _ => false

/-- The option that is chosen, if there is one. -/
def toChoice : WidgetValue → Option Text
  | .choice option => option
  | _ => none

/-- The file that is uploaded, if there is one. -/
def toFile : WidgetValue → Option Upload
  | .file upload => upload
  | _ => none

end WidgetValue

end Roster.Dashboard
