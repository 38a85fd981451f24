import Roster.Dashboard.Element
import Roster.Json.Writer
import Roster.Tag.Kind

/-!
# The tag builder on the dashboard

A kind of tag is chosen, the parts that it needs are entered, and the tag is shown, with whether it
has an effect and as a JSON list. Where the choice of a type is that of the box's filter, the page
breaks off at it.
-/

namespace Roster.Dashboard.TagPanel

def kindChoice : Widget := ⟨"Tag kind", .choice (Tag.Kind.all.map fun k => k.label) 0⟩

/-- The kind that is chosen. -/
def chosenKind (m : Memory) : Tag.Kind :=
  let label := (m.valueOf kindChoice).toChoice
  (Tag.Kind.all.find? fun k => some ↑k.label = label).getD .stat

/-- The widget of a part. -/
def partInput (g : Game Float) : Tag.Part → Widget
  | .stat => ⟨"Stat", .choice (Stat.all.map fun s => s.key) 0⟩
  | .type => ⟨"Type", .choice (g.types.map TypeInfo.name) 0⟩
  | .species =>
    ⟨"Species", .choice ((g.species.map fun e => e.2.name).mergeSort Text.before) 0⟩
  | .value => ⟨"Value", .textInput "1.2"⟩

/-- The text of a part; blank if the kind does not need it. -/
def partText (m : Memory) (g : Game Float) (kind : Tag.Kind) (part : Tag.Part) : Text :=
  if part ∈ kind.needs then
    match m.valueOf (partInput g part) with
    | .text s => s
    | .choice option => option.getD ""
    | _ => ""
  else ""

/-- The parts that are entered. -/
def parts (m : Memory) (g : Game Float) (kind : Tag.Kind) : Tag.Parts :=
  let text := partText m g kind
  ⟨text .stat, text .type, text .species, text .value⟩

/-- Whether a tag has no effect. -/
def isIgnored (tag : Text) : Bool := (Tag.parse (α := Float) tag).isNone

/-- What is shown of a tag that is built, or not. -/
def result : Option Text → List Element
  | none => [.message .warning "Fill in every part to build the tag"]
  | some tag =>
    [.code tag,
      if isIgnored tag then .error "This tag would be ignored by the scorer"
      else .success "✅ Tag is recognized",
      .code (Json.write (α := Float) (.array [.string tag]))]

/-- What the panel has to show. -/
def elements (m : Memory) (g : Game Float) : List Element :=
  let kind := chosenKind m
  [.markdown "### 🏷️ Tag Builder", .input m kindChoice,
    .caption ("Pattern: \x60" ++ kind.pattern ++ "\x60")]
    ++ (kind.needs.map fun part => .input m (partInput g part))
    ++ result (kind.build (parts m g kind))

/-- The panel, on a page with the given widgets. -/
def panel (m : Memory) (g : Game Float) (shown : List WidgetId) : Panel :=
  .ofElements shown (elements m g)

end Roster.Dashboard.TagPanel
