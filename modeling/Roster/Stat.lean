import Roster.Text.Blank
import Roster.Text.Casing

/-!
# Stats

The six stats of a creature, their names in documents and tags, and a value for each of them.
-/

namespace Roster

/-- The six stats. -/
inductive Stat where
  | hp
  | attack
  | defense
  | specialAttack
  | specialDefense
  | speed
  deriving DecidableEq, Repr

namespace Stat

/-- The stats in their order. -/
def all : List Stat := [.hp, .attack, .defense, .specialAttack, .specialDefense, .speed]

/-- The short name of a stat. -/
def key : Stat → String
  | .hp => "hp"
  | .attack => "atk"
  | .defense => "def"
  | .specialAttack => "spa"
  | .specialDefense => "spd"
  | .speed => "spe"

/-- The stat with a short name. -/
def ofKey? (key : Text) : Option Stat := all.find? fun s => (s.key : Text) = key

/-- The stat that a tag names; case and blanks around do not matter, and speed has a long name. -/
def ofText? (s : Text) : Option Stat :=
  let name := Text.lower (Text.trim s)
  if name = "speed" then some .speed else ofKey? name

theorem mem_all (s : Stat) : s ∈ all := by cases s <;> simp [all]

theorem ofKey?_key (s : Stat) : ofKey? s.key = some s := by cases s <;> rfl

theorem key_injective {s t : Stat} (h : s.key = t.key) : s = t := by
  have := ofKey?_key s
  rw [h, ofKey?_key] at this
  exact (Option.some.inj this).symm

end Stat

/-- A value for each of the six stats. -/
structure Stats (β : Type) where
  hp : β
  attack : β
  defense : β
  specialAttack : β
  specialDefense : β
  speed : β
  deriving DecidableEq, Repr

namespace Stats

variable {β γ : Type}

/-- The value of a stat. -/
def get (s : Stats β) : Stat → β
  | .hp => s.hp
  | .attack => s.attack
  | .defense => s.defense
  | .specialAttack => s.specialAttack
  | .specialDefense => s.specialDefense
  | .speed => s.speed

/-- The values that a function gives. -/
def ofFn (f : Stat → β) : Stats β :=
  ⟨f .hp, f .attack, f .defense, f .specialAttack, f .specialDefense, f .speed⟩

/-- One value for all stats. -/
def const (x : β) : Stats β := ofFn fun _ => x

/-- Another value for one stat. -/
def set (s : Stats β) (stat : Stat) (x : β) : Stats β :=
  ofFn fun t => if t = stat then x else s.get t

def map (f : β → γ) (s : Stats β) : Stats γ := ofFn fun t => f (s.get t)

/-- The values in the order of the stats. -/
def toList (s : Stats β) : List β := Stat.all.map s.get

/-- The values that a function gives, if it gives one for every stat; the first failure in the order
of the stats counts. -/
def ofFnM {m : Type → Type} [Monad m] (f : Stat → m β) : m (Stats β) := do
  let hp ← f .hp
  let attack ← f .attack
  let defense ← f .defense
  let specialAttack ← f .specialAttack
  let specialDefense ← f .specialDefense
  let speed ← f .speed
  return ⟨hp, attack, defense, specialAttack, specialDefense, speed⟩

@[simp] theorem get_ofFn (f : Stat → β) (t : Stat) : (ofFn f).get t = f t := by cases t <;> rfl

@[simp] theorem get_const (x : β) (t : Stat) : (const x).get t = x := get_ofFn ..

@[simp] theorem get_map (f : β → γ) (s : Stats β) (t : Stat) : (s.map f).get t = f (s.get t) :=
  get_ofFn ..

theorem get_set (s : Stats β) (stat : Stat) (x : β) (t : Stat) :
    (s.set stat x).get t = if t = stat then x else s.get t := get_ofFn ..

@[simp] theorem ofFn_get (s : Stats β) : ofFn s.get = s := rfl

/-- Stats with the same values are the same. -/
theorem ext_get {s t : Stats β} (h : ∀ stat, s.get stat = t.get stat) : s = t := by
  rw [← ofFn_get s, ← ofFn_get t, funext h]

end Stats

end Roster
