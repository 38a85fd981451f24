import Roster.Crit

/-!
# Scoring settings

What a game sets for its scoring: the crit table, the crit damage before tags, a base chance for
empty tables, and switches that leave abilities or held items out. A game's settings are scalars;
those of an analysis may be numbers as they are written.
-/

namespace Roster

/-- The settings of a game. -/
structure Settings (α : Type) where
  critPreset : Text
  critDamage : α
  critChance : Option α
  disableAbilities : Bool
  disableItems : Bool
  deriving DecidableEq, Repr

/-- Values that replace those of settings where they are given. -/
structure SettingsChange (α : Type) where
  critPreset : Option Text := none
  critDamage : Option α := none
  critChance : Option α := none
  disableAbilities : Option Bool := none
  disableItems : Option Bool := none
  deriving DecidableEq, Repr

namespace Settings

variable {α : Type}

/-- The settings where nothing is set. -/
def default [Scalar α] : Settings α := ⟨Crit.defaultPreset, 1.5, none, false, false⟩

/-- Settings with their numbers replaced. -/
def map {β : Type} (f : α → β) (s : Settings α) : Settings β :=
  ⟨s.critPreset, f s.critDamage, s.critChance.map f, s.disableAbilities, s.disableItems⟩

/-- Settings whose scalars are taken for numbers as they are written. -/
def written (s : Settings α) : Settings (Number α) := s.map .real

/-- Settings with the given values in place of their own. -/
def change (s : Settings α) (c : SettingsChange α) : Settings α :=
  ⟨c.critPreset.getD s.critPreset, c.critDamage.getD s.critDamage, c.critChance.or s.critChance,
    c.disableAbilities.getD s.disableAbilities, c.disableItems.getD s.disableItems⟩

/-- A change that gives nothing changes nothing. -/
@[simp] theorem change_nothing (s : Settings α) : s.change {} = s := rfl

end Settings

end Roster
