import Roster.Settings
import Roster.TypeChart

/-!
# Potentials

The scores of one creature, from its stats, tags and types. On either side, attack and defense, a
physical and a special potential are blended, the better one counting most. The rank weighs the two
sides and takes up to 12 % off a lopsided creature. Products and blends stay in the finite range.

Stats and multipliers are meant not to be negative. Where they are, a root or a power may have no
real value, and then the creature has no potentials; `Potentials.fault?` says when.
-/

namespace Roster

open Scalar

/-- The names of a creature's own types, as far as the types are known and named. -/
def holderTypeNames (type1 : Int) (type2 : Option Int) (types : List TypeInfo) : List Text :=
  let name (id : Int) : Option Text := Keyed.get? id (typeNames types)
  (name type1 :: type2.toList.map name).filterMap fun n => n.filter fun name => !name.isEmpty

/-- The scores of a creature. They have no unit; only their order means something. -/
structure Potentials (α : Type) where
  physicalOffense : α
  specialOffense : α
  physicalDefense : α
  specialDefense : α
  offense : α
  defense : α
  rank : α
  /-- Both sides are zero, so that they cannot be balanced. -/
  unbalanced : Bool
  crit : Crit.Info α
  typeDefense : α
  stab : α
  deriving DecidableEq, Repr

namespace Potentials

variable {α : Type} [Scalar α]

/-- The weight of speed beside an attacking stat. -/
def speedWeight : α := 0.6

/-- The exponent of the mean over the types that a creature's own types strike. -/
def stabPower : α := 1.5

/-- A mean over the given number of types; no types count as one. -/
def meanOver (count : Nat) (sum : α) : α := sum / ofNat (if count = 0 then 1 else count)

/-- The multiplier of an attacking type against a creature: the chart's, that of its relations and
its incoming factors. Under wonder guard only what is above one gets through. -/
def incomingFrom (bundle : Bundle α) (type1 : Int) (type2 : Option Int) (chart : TypeChart α)
    (attacker : TypeInfo) : α :=
  let multiplier := product
    [chart.against attacker.id type1 type2, bundle.incomingMultiplier attacker.name 1 false,
      bundle.incomingFactor attacker.name]
  if bundle.hasWonderGuard ∧ multiplier ≤ 1 then 0 else multiplier

/-- The mean of the squared multipliers of all attacking types. -/
def meanIncoming (bundle : Bundle α) (type1 : Int) (type2 : Option Int) (types : List TypeInfo)
    (chart : TypeChart α) : α :=
  meanOver types.length
    ((types.map (incomingFrom bundle type1 type2 chart)).foldl (fun sum m => sum + m * m) 0)

/-- A mean that is not above zero counts as a least one. -/
def incomingFloor (mean : α) : α := if 0 < mean then mean else 1e-6

/-- The defensive worth of a creature's types: the root of the mean square of what they take in,
inverted and compressed. -/
def typeDefenseOf (bundle : Bundle α) (type1 : Int) (type2 : Option Int) (types : List TypeInfo)
    (chart : TypeChart α) : α :=
  pow (1 / sqrt (incomingFloor (meanIncoming bundle type1 type2 types chart))) 0.65

/-- The power of a multiplier in the mean over the types that it strikes. That of one below zero is
of its magnitude, which counts only if it leaves the finite range: see `HasNoStabPower`. -/
def stabPowerOf (multiplier : α) : α :=
  pow (if multiplier < 0 then -multiplier else multiplier) stabPower

/-- Whether a multiplier is below zero and its power, finite, has no real value. -/
def HasNoStabPower (multiplier : α) : Prop := multiplier < 0 ∧ Finite (stabPowerOf multiplier)

instance (multiplier : α) : Decidable (HasNoStabPower multiplier) :=
  inferInstanceAs (Decidable (_ ∧ _))

/-- The offensive worth of a creature's own types: a power mean of the better multiplier over all
defending types, compressed. -/
def stabOf (type1 : Int) (type2 : Option Int) (types : List TypeInfo) (chart : TypeChart α) : α :=
  let sum := types.foldl (fun sum t => sum + stabPowerOf (chart.bestOffense t.id type1 type2)) 0
  saturate (pow (pow (meanOver types.length sum) (1 / stabPower)) 0.6)

/-- Two sides blended: the better one dominates, the mean counts a little. -/
def blend (physical special : α) : α :=
  saturate (0.75 * larger physical special + 0.25 * ((physical + special) / 2.0))

/-- The weighted sum of both sides. -/
def rawRank (offense defense : α) : α := saturate (0.56 * offense + 0.44 * defense)

/-- How even two sides are: the smaller over the larger, one if the larger is zero. -/
def balance (offense defense : α) : α :=
  if IsZero (larger offense defense) then 1
  else smaller offense defense / larger offense defense

/-- The rank of two sides. -/
def rankOf (offense defense : α) : α :=
  saturate (rawRank offense defense * (0.88 + 0.12 * balance offense defense))

/-- The stats under the factors of a bundle. -/
def adjusted (stats : Stats α) (bundle : Bundle α) : Stats α :=
  .ofFn fun stat => saturate (stats.get stat * bundle.stats.get stat)

/-- The product of hit points and a defending stat. -/
def bulkProduct (hp defense : α) : α := product [hp, defense]

/-- The geometric mean of hit points and a defending stat, under a bulk factor. -/
def bulk (hp defense factor : α) : α := product [sqrt (bulkProduct hp defense), factor]

/-- An attacking stat and speed, weighed. -/
def baseOffense (attack speed : α) : α :=
  saturate ((1 - speedWeight) * attack + speedWeight * speed)

/-- The scores of a creature whose tags are resolved. -/
def ofBundle (stats : Stats α) (bundle : Bundle α) (type1 : Int) (type2 : Option Int)
    (types : List TypeInfo) (chart : TypeChart α) (settings : Settings α) : Potentials α :=
  let s := adjusted stats bundle
  let typeDefense := typeDefenseOf bundle type1 type2 types chart
  let stab := stabOf type1 type2 types chart
  let crit := Crit.expectation Crit.presets bundle.crit settings.critPreset settings.critDamage
    settings.critChance
  let offensive (attack : α) : α :=
    product [baseOffense attack s.speed, stab, crit.expected, bundle.offense, bundle.offenseByType]
  let defensive (defense factor : α) : α :=
    product [bulk s.hp defense factor, typeDefense, bundle.defense]
  let physicalOffense := offensive s.attack
  let specialOffense := offensive s.specialAttack
  let physicalDefense := defensive s.defense bundle.physicalBulk
  let specialDefense := defensive s.specialDefense bundle.specialBulk
  let offense := blend physicalOffense specialOffense
  let defense := blend physicalDefense specialDefense
  { physicalOffense, specialOffense, physicalDefense, specialDefense, offense, defense
    rank := rankOf offense defense
    unbalanced := decide (IsZero (larger offense defense))
    crit, typeDefense, stab }

/-- Why a creature has no potentials. -/
inductive Fault where
  /-- A whole number that has to enter the computation lies beyond the finite scalars. -/
  | beyondScalars
  /-- A product of hit points and a defending stat is below zero. -/
  | noRoot
  /-- A multiplier of the creature's own types is below zero. -/
  | noPower
  deriving DecidableEq, Repr

/-- What is said of a fault. -/
def Fault.message : Fault → String
  | .beyondScalars => Number.beyondScalarsMessage
  | .noRoot => "math domain error"
  | .noPower => "must be real number, not complex"

/-- The root or the power that has no real value, if there is one; a root comes first. -/
def fault? (stats : Stats α) (bundle : Bundle α) (type1 : Int) (type2 : Option Int)
    (types : List TypeInfo) (chart : TypeChart α) : Option Fault :=
  let s := adjusted stats bundle
  if bulkProduct s.hp s.defense < 0 ∨ bulkProduct s.hp s.specialDefense < 0 then some .noRoot
  else if ∃ t ∈ types, HasNoStabPower (chart.bestOffense t.id type1 type2) then some .noPower
  else none

/-- Settings as scalars, if the crit damage is one. A base chance that is none stands for nothing:
the tables have entries, so that none is looked at. -/
def scalarSettings? (s : Settings (Number α)) : Option (Settings α) := do
  return { s with
    critDamage := ← s.critDamage.toScalar?
    critChance := s.critChance.bind Number.toScalar? }

/-- Stats as scalars, if all of them are. -/
def scalarStats? (stats : Stats (Number α)) : Option (Stats α) :=
  Stats.ofFnM fun stat => (stats.get stat).toScalar?

end Potentials

/-- The scores of a creature with the given stats, tags and types among the types of a chart.
Numbers enter the computation one after the other, and the first fault counts. -/
def potentials {α : Type} [Numeral α] (stats : Stats (Number α)) (tags : List Text) (type1 : Int)
    (type2 : Option Int) (types : List TypeInfo) (chart : TypeChart α)
    (settings : Settings (Number α)) : Except Potentials.Fault (Potentials α) :=
  let bundle := Bundle.resolve tags (holderTypeNames type1 type2 types)
  match Potentials.scalarStats? stats with
  | none => .error .beyondScalars
  | some stats =>
    match Potentials.fault? stats bundle type1 type2 types chart with
    | some fault => .error fault
    | none =>
      match Potentials.scalarSettings? settings with
      | none => .error .beyondScalars
      | some settings => .ok (.ofBundle stats bundle type1 type2 types chart settings)

end Roster
