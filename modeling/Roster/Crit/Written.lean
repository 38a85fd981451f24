import Roster.Settings

/-!
# Critical hits in written numbers

The crit expectation where tables, modifiers and settings hold numbers as they are written. Of a
table only the entry of the stage enters the computation, and the base chance only where the table
is empty; sums and products of whole numbers stay exact. On real numbers it is the expectation in
scalars.
-/

namespace Roster

/-- Modifiers with their numbers replaced. -/
def CritModifiers.map {α β : Type} (f : α → β) (m : CritModifiers α) : CritModifiers β :=
  ⟨f m.chanceBonus, f m.damageFactor, f m.stageBonus, m.applied⟩

namespace Crit

variable {α : Type}

/-- A chance of a table as it is written: a certain hit is the whole number one. -/
def writtenChance [Scalar α] (x : α) : Number α := if 1 ≤ x then .whole 1 else .real x

/-- The built-in tables as they are written. -/
def writtenPresets [Scalar α] : Keyed Text (List (Number α)) :=
  presets.map fun (name, table) => (name, table.map writtenChance)

/-- The table of a name; an unknown name has that of the default preset. -/
def writtenTableOf [Scalar α] (presets : Keyed Text (List (Number α))) (name : Text) :
    List (Number α) :=
  match Keyed.get? name presets with
  | some table => table
  | none => (Keyed.get? defaultPreset presets).getD (defaultTable.map writtenChance)

/-- The number of stages up to a last one that a bonus reaches. -/
def writtenStageOf [Scalar α] (last : Nat) : Number α → Nat
  | .whole n => min n.toNat last
  | .real x => stageOf x last

variable [Numeral α]

/-- The crit expectation under modifiers with the given tables, or the fault of a number that cannot
enter it. -/
def writtenExpectation (presets : Keyed Text (List (Number α)))
    (modifiers : CritModifiers (Number α)) (preset : Text) (baseDamage : Number α)
    (fallback : Option (Number α)) : Except Number.Fault (Info α) := do
  let table := writtenTableOf presets preset
  let stage := writtenStageOf (table.length - 1) modifiers.stageBonus
  let base := table[stage]?.getD (fallback.getD (.real fallbackChance))
  let sum ← Number.orBeyond (base.add modifiers.chanceBonus)
  let chance ← (sum.clamp (.real 0) (.real 1)).scalar
  let product ← Number.orBeyond (baseDamage.mul modifiers.damageFactor)
  let damage ← product.saturate
  let excess ← damage.pred.scalar
  return ⟨chance, ← damage.scalar, Scalar.saturate (1 + chance * excess), stage, modifiers.applied⟩

theorem writtenStageOf_le (last : Nat) (bonus : Number α) : writtenStageOf last bonus ≤ last := by
  cases bonus with
  | whole n => exact Nat.min_le_right ..
  | real x => exact stageOf_le x last

end Crit

end Roster
