import Roster.Incoming
import Roster.Keyed

/-!
# Resolved tags

All that scores need to know of a creature's tags, gathered tag by tag. Factors multiply, crit
bonuses add up, and every step stays in the finite range; what applies to incoming damage and what
is only noted keeps its order; tags without an effect are kept as they are.
-/

namespace Roster

/-- What crit tags change: the chance and the stage by a sum, the damage by a product. -/
structure CritModifiers (α : Type) where
  chanceBonus : α
  damageFactor : α
  stageBonus : α
  applied : Bool
  deriving DecidableEq, Repr

namespace CritModifiers

variable {α : Type} [Scalar α]

/-- No change. -/
def none : CritModifiers α := ⟨0, 1, 0, false⟩

/-- The change that one more crit tag makes. -/
def add (m : CritModifiers α) (kind : CritKind) (value : α) : CritModifiers α :=
  match kind with
  | .chance => { m with chanceBonus := Scalar.saturate (m.chanceBonus + value), applied := true }
  | .damage => { m with damageFactor := Scalar.saturate (m.damageFactor * value), applied := true }
  | .stage => { m with stageBonus := Scalar.saturate (m.stageBonus + value), applied := true }

end CritModifiers

/-- The tags of a creature, resolved. -/
structure Bundle (α : Type) where
  stats : Stats α
  physicalBulk : α
  specialBulk : α
  defense : α
  offense : α
  offenseByType : α
  /-- The factor on incoming damage by attacking type. -/
  incomingFactors : Keyed Text α
  /-- What applies to incoming damage, in the order of the tags. -/
  incoming : List (Incoming α)
  /-- The flags that are set, each once. -/
  flags : List Flag
  crit : CritModifiers α
  notes : List Note
  /-- The tags without an effect. -/
  ignored : List Text
  deriving DecidableEq, Repr

namespace Bundle

variable {α : Type}

section Scalar

variable [Scalar α]

/-- The bundle of no tags. -/
def identity : Bundle α where
  stats := .const 1
  physicalBulk := 1
  specialBulk := 1
  defense := 1
  offense := 1
  offenseByType := 1
  incomingFactors := []
  incoming := []
  flags := []
  crit := .none
  notes := []
  ignored := []

/-- The bundle with a stat multiplied once more. -/
def scaleStat (b : Bundle α) (stat : Stat) (factor : α) : Bundle α :=
  { b with stats := b.stats.set stat (Scalar.saturate (b.stats.get stat * factor)) }

/-- The factor on incoming damage of a type in normal form. -/
def factorOf (b : Bundle α) (type : Text) : α := (Keyed.get? type b.incomingFactors).getD 1

/-- The bundle with one more effect on incoming damage. -/
def addIncoming (b : Bundle α) (i : Incoming α) : Bundle α :=
  match i with
  | .relation .. => { b with incoming := b.incoming ++ [i] }
  | .factor type factor =>
    { b with
      incoming := b.incoming ++ [i]
      incomingFactors :=
        Keyed.put type (Scalar.saturate (b.factorOf type * factor)) b.incomingFactors }

/-- The bundle with a flag set. -/
def addFlag (b : Bundle α) (flag : Flag) : Bundle α :=
  if flag ∈ b.flags then b else { b with flags := b.flags ++ [flag] }

/-- The bundle with one more effect. `holder` are the normal forms of the holder's type names. -/
def add (holder : List Text) (b : Bundle α) : Effect α → Bundle α
  | .stat stat factor => b.scaleStat stat factor
  | .statIfType stat type factor => if type ∈ holder then b.scaleStat stat factor else b
  | .physicalBulk factor => { b with physicalBulk := Scalar.saturate (b.physicalBulk * factor) }
  | .specialBulk factor => { b with specialBulk := Scalar.saturate (b.specialBulk * factor) }
  | .defense factor => { b with defense := Scalar.saturate (b.defense * factor) }
  | .offense factor => { b with offense := Scalar.saturate (b.offense * factor) }
  | .offenseIfType type factor =>
    if type ∈ holder then { b with offenseByType := Scalar.saturate (b.offenseByType * factor) }
    else b
  | .incoming i => b.addIncoming i
  | .flag flag => b.addFlag flag
  | .crit kind value => { b with crit := b.crit.add kind value }
  | .note note => { b with notes := b.notes ++ [note] }

/-- Whether only attacks that are strong against the holder get through. -/
def hasWonderGuard (b : Bundle α) : Bool := b.flags.contains .wonderGuard

/-- The factor on incoming damage that the tags register for a type. -/
def incomingFactor (b : Bundle α) (type : Text) : α := b.factorOf (TypeName.normal type)

/-- The multiplier that the resolved tags put on attacks of a type. -/
def incomingMultiplier (b : Bundle α) (type : Text) (chart : α) (withFactors : Bool) : α :=
  Incoming.fold b.incoming type chart withFactors

end Scalar

variable [Numeral α]

/-- The bundle with one more tag. -/
def addTag (holder : List Text) (b : Bundle α) (tag : Text) : Bundle α :=
  match Tag.parse tag with
  | none => { b with ignored := b.ignored ++ [tag] }
  | some effect => b.add holder effect

/-- Tags resolved for a holder with the given type names. -/
def resolve (tags : List Text) (holder : List Text) : Bundle α :=
  tags.foldl (addTag (TypeName.normals holder)) identity

@[simp] theorem resolve_nil (holder : List Text) : resolve (α := α) [] holder = identity := rfl

theorem resolve_append (tags tags' : List Text) (holder : List Text) :
    resolve (α := α) (tags ++ tags') holder =
      tags'.foldl (addTag (TypeName.normals holder)) (resolve tags holder) :=
  List.foldl_append

end Bundle

end Roster
