import Roster.Proofs.Warning.Preset
import Roster.Warning.Summary

/-!
# Reports of warnings and their summaries

Rules put out items one after the other. A report keeps the first item of every key and sorts what
it keeps; groups and the summary are made of a report. Nothing is lost or told twice on the way, and
the order in which items were put out counts wherever nothing else does.
-/

namespace Roster.Warning

/-! ### Reports -/

/-- Where the first item with the key of an item stands among the items that are put out. -/
def place (emitted : List Warning) (w : Warning) : Nat :=
  emitted.findIdx fun v => v.key = w.key

/-- What a summary tells of an item: some of its evidence, and how many pieces more there are. -/
structure ItemPart where
  item : Warning
  shown : List Text
  more : Nat

/-- What a summary tells of a severity: how many items it has, and the items. -/
structure SeverityPart where
  severity : Severity
  count : Nat
  items : List ItemPart

/-- The parts of the text that tell of an item. -/
def ItemPart.lines (t : ItemPart) : List Text :=
  ("\n  " ++ t.item.title) :: ("    " ++ t.item.detail)
    :: ((if t.shown = [] then [] else ["    Evidence: " ++ Text.intercalate ", " t.shown])
      ++ (if t.more = 0 then [] else ([s!"    ... and {t.more} more"] : List Text))
      ++ suggestionLines t.item.suggestion)

/-- The parts of the text that tell of a severity. -/
def SeverityPart.lines (p : SeverityPart) : List Text :=
  ↑("\n" ++ s!"{p.severity.heading} ({p.count})" ++ ":") :: p.items.flatMap ItemPart.lines

/-- Parts that tell of all items. -/
structure Complete (items : List Warning) (parts : List SeverityPart) : Prop where
  /-- There is a part for each severity with items, the gravest first. -/
  severities : parts.map SeverityPart.severity =
    Severity.all.filter fun severity => (Keyed.get? severity (bySeverity items)).isSome
  /-- It tells of the items of the severity, each once and in their order. -/
  group : ∀ p ∈ parts,
    Keyed.get? p.severity (bySeverity items) = some (p.items.map ItemPart.item)
  count : ∀ p ∈ parts, p.count = p.items.length
  /-- The first five pieces of evidence are shown, the others are counted. -/
  evidence : ∀ p ∈ parts, ∀ t ∈ p.items,
    t.shown = t.item.evidence.take 5 ∧ t.shown.length + t.more = t.item.evidence.length
  all : (parts.flatMap fun p => p.items.map ItemPart.item).Perm items

/-- A text that tells of items: that there are none, or how many there are and then of each. -/
inductive Tells : List Warning → Text → Prop where
  | none : Tells [] "No warnings detected - roster looks clean!"
  | some {items : List Warning} {parts : List SeverityPart} (nonempty : items ≠ [])
    (complete : Complete items parts) :
    Tells items
      (Text.unlines (↑s!"Total Warnings: {items.length}" :: parts.flatMap SeverityPart.lines))

/-- What the summary tells of an item. -/
def ItemPart.of (w : Warning) : ItemPart :=
  ⟨w, w.evidence.take evidenceShown, w.evidence.length - evidenceShown⟩

/-- What the summary tells of the items of a severity. -/
def SeverityPart.of (items : List Warning) (severity : Severity) : SeverityPart :=
  ⟨severity, (ofSeverity severity items).length, (ofSeverity severity items).map .of⟩

end Roster.Warning
