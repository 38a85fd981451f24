import Roster.Bundle

/-!
# Critical hits

The expected damage multiplier of hits that may be critical. A table gives the base chance by stage;
crit tags raise the stage, the chance and the damage. The stage is the whole part of the stage bonus
brought into the table, the chance is brought between zero and one.
-/

namespace Roster.Crit

variable {α : Type} [Scalar α]

/-- The built-in tables of base chances by stage, for each family of generations. -/
def presets : Keyed Text (List α) :=
  [("gen2", [17.0 / 256.0, 1 / 8.0, 1 / 4.0, 85.0 / 256.0, 1 / 2.0]),
    ("gen3_5", [1 / 16.0, 1 / 8.0, 1 / 4.0, 1 / 3.0, 1 / 2.0]),
    ("gen6", [1 / 16.0, 1 / 8.0, 1 / 2.0, 1]),
    ("gen7", [1 / 24.0, 1 / 8.0, 1 / 2.0, 1])]

/-- The names of the built-in tables. -/
def presetNames : List Text := ["gen2", "gen3_5", "gen6", "gen7"]

/-- The table that counts where none is named, or an unknown one. -/
def defaultPreset : Text := "gen7"

/-- Whether a name is one of the built-in tables'. -/
def isKnownPreset (name : Text) : Bool := presetNames.contains name

/-- The table of the default preset. -/
def defaultTable : List α := [1 / 24.0, 1 / 8.0, 1 / 2.0, 1]

/-- The table of a name; an unknown name has that of the default preset. -/
def tableOf (presets : Keyed Text (List α)) (name : Text) : List α :=
  match Keyed.get? name presets with
  | some table => table
  | none => (Keyed.get? defaultPreset presets).getD defaultTable

/-- What holds of the default table and of all others holds of the one that a name leads to. -/
theorem holds_tableOf {p : List α → Prop} {presets : Keyed Text (List α)}
    (hdefault : p defaultTable) (h : ∀ e ∈ presets, p e.2) (name : Text) :
    p (tableOf presets name) := by
  unfold tableOf
  cases hname : Keyed.get? name presets with
  | some table => exact h _ (Keyed.mem_of_get? hname)
  | none =>
    cases hother : Keyed.get? defaultPreset presets with
    | some table => exact h _ (Keyed.mem_of_get? hother)
    | none => exact hdefault

/-- The base chance where a table is empty and no other is given. -/
def fallbackChance : α := 1 / 24.0

/-- The number of stages up to a last one that a bonus reaches. -/
def stageOf (bonus : α) (last : Nat) : Nat :=
  (List.range last).countP fun k => decide (Scalar.ofNat (k + 1) ≤ bonus)

/-- What is expected of a creature's hits. -/
structure Info (α : Type) where
  chance : α
  damage : α
  expected : α
  stage : Nat
  applied : Bool
  deriving DecidableEq, Repr

/-- The crit expectation under tag modifiers with the given tables. `fallback` is the base chance
where the table is empty. -/
def expectation (presets : Keyed Text (List α)) (modifiers : CritModifiers α) (preset : Text)
    (baseDamage : α) (fallback : Option α) : Info α :=
  let table := tableOf presets preset
  let stage := stageOf modifiers.stageBonus (table.length - 1)
  let base := table[stage]?.getD (fallback.getD fallbackChance)
  let chance := Scalar.clamp (base + modifiers.chanceBonus) 0 1
  let damage := Scalar.saturate (baseDamage * modifiers.damageFactor)
  ⟨chance, damage, Scalar.saturate (1 + chance * (damage - 1)), stage, modifiers.applied⟩

/-- What crit modifiers are taken from: tags, resolved tags, or the modifiers themselves. -/
inductive Source (α : Type) where
  | tags (tags : List Text)
  | bundle (bundle : Bundle α)
  | modifiers (modifiers : CritModifiers α)
  deriving DecidableEq, Repr

/-- The modifiers of a source. Tags are resolved for no holder. -/
def Source.toModifiers {α : Type} [Numeral α] : Source α → CritModifiers α
  | .tags l => (Bundle.resolve l []).crit
  | .bundle b => b.crit
  | .modifiers m => m

/-- The crit expectation of a source. -/
def expectationOf {α : Type} [Numeral α] (presets : Keyed Text (List α)) (source : Source α)
    (preset : Text) (baseDamage : α) (fallback : Option α) : Info α :=
  expectation presets source.toModifiers preset baseDamage fallback

/-- A bonus never reaches beyond the last stage. -/
theorem stageOf_le (bonus : α) (last : Nat) : stageOf bonus last ≤ last := by
  have := List.countP_le_length (p := fun k => decide (Scalar.ofNat (k + 1) ≤ bonus))
    (l := List.range last)
  simpa [stageOf] using this

/-- In a table with an entry the stage is one of its places. -/
theorem stageOf_lt_length (bonus : α) {table : List α} (h : table ≠ []) :
    stageOf bonus (table.length - 1) < table.length := by
  have := stageOf_le bonus (table.length - 1)
  have := List.length_pos_iff.2 h
  omega

end Roster.Crit
