import Roster.Tag.Parser

/-!
# Damage taken from attacks of a type

The multiplier that tags put on attacks of one type. A matching immunity makes it zero wherever it
stands; otherwise resistances halve, weaknesses double and, where wanted, incoming factors multiply,
each step kept in the finite range. Creatures that are read tag by tag and creatures whose tags are
resolved into a bundle share this fold.
-/

namespace Roster

namespace Relation

/-- The factor of a relation that is no immunity. -/
def factor? {α : Type} [Scalar α] : Relation → Option α
  | .immune => none
  | .resist => some 0.5
  | .weak => some 2.0

end Relation

namespace Incoming

variable {α : Type} [Scalar α]

/-- The factor by which an effect multiplies attacks of a type in normal form, if it does. Incoming
factors count only where they are wanted. -/
def factorFor? (type : Text) (withFactors : Bool) : Incoming α → Option α
  | .relation r t => if t = type then r.factor? else none
  | .factor t f => if withFactors ∧ t = type then some f else none

/-- Whether an effect is an immunity to a type in normal form. -/
def isImmunity (type : Text) : Incoming α → Bool
  | .relation .immune t => t == type
  | _ => false

/-- The multiplier on attacks of a type: zero with an immunity, else the chart's value times the
factors that match. -/
def fold (effects : List (Incoming α)) (type : Text) (chart : α) (withFactors : Bool) : α :=
  let type := TypeName.normal type
  if effects.any (isImmunity type) then 0
  else Scalar.productFrom chart (effects.filterMap (factorFor? type withFactors))

/-- The multiplier on attacks of a type where the chart's value is a number as it is written. It
enters the computation only with a factor; without one it is the multiplier itself unless an
immunity makes that zero. -/
def writtenFold (effects : List (Incoming α)) (type : Text) (chart : Number α)
    (withFactors : Bool) : Except Number.Fault α :=
  let target := TypeName.normal type
  if effects.any (isImmunity target)
      ∧ (effects.filterMap (factorFor? target withFactors)).isEmpty then .ok 0
  else chart.scalar.map fun chart => fold effects type chart withFactors

/-- With a real value of the chart it is the multiplier in scalars. -/
theorem writtenFold_real (effects : List (Incoming α)) (type : Text) (chart : α)
    (withFactors : Bool) :
    writtenFold effects type (.real chart) withFactors =
      .ok (fold effects type chart withFactors) := by
  unfold writtenFold fold
  by_cases h : effects.any (isImmunity (TypeName.normal type)) <;> simp [h, Except.map]

end Incoming

namespace Effect

variable {α : Type}

/-- What an effect does to incoming damage, if it is of that family. -/
def incoming? : Effect α → Option (Incoming α)
  | .incoming i => some i
  | _ => none

end Effect

namespace Tag

variable {α : Type} [Numeral α]

/-- What tags do to incoming damage, in order. -/
def incoming (tags : List Text) : List (Incoming α) := (effects tags).filterMap Effect.incoming?

/-- The multiplier that tags put on attacks of a type. -/
def multiplier (tags : List Text) (type : Text) (chart : α) (withFactors : Bool) : α :=
  Incoming.fold (incoming tags) type chart withFactors

theorem incoming_append (tags tags' : List Text) :
    incoming (α := α) (tags ++ tags') = incoming tags ++ incoming tags' := by
  simp [incoming, effects_append]

end Tag

namespace Incoming

variable {α : Type} [Scalar α]

@[simp] theorem fold_nil (type : Text) (chart : α) (withFactors : Bool) :
    fold [] type chart withFactors = chart := by simp [fold]

/-- An immunity to the type makes the multiplier zero, wherever it stands. -/
theorem fold_eq_zero_of_immune {effects : List (Incoming α)} {type : Text} (chart : α)
    (withFactors : Bool) (h : .relation .immune (TypeName.normal type) ∈ effects) :
    fold effects type chart withFactors = 0 := by
  have : effects.any (isImmunity (TypeName.normal type)) = true :=
    List.any_eq_true.2 ⟨_, h, by simp [isImmunity]⟩
  simp [fold, this]

end Incoming

end Roster
