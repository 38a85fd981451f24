import Roster.Keyed
import Roster.Scalar
import Roster.Text.Basic

/-!
# The type chart

How well attacks of one type do against holders of another. The chart is sparse: a pair that was
never charted is neutral, and of several rows for one pair the last counts.
-/

namespace Roster

/-- An elemental type of a game. -/
structure TypeInfo where
  id : Int
  name : Text
  color : Option Text
  /-- Left out of the chart's types. -/
  excluded : Bool
  deriving DecidableEq, Repr

/-- A charted pair of an attacking and a defending type. -/
structure ChartRow (α : Type) where
  attacking : Int
  defending : Int
  multiplier : α
  deriving DecidableEq, Repr

/-- The names of types by their ids, the last name counting. -/
def typeNames (types : List TypeInfo) : Keyed Int Text :=
  Keyed.ofList (types.map fun t => (t.id, t.name))

/-- The multipliers by pairs of an attacking and a defending type. -/
structure TypeChart (α : Type) where
  entries : Keyed (Int × Int) α
  deriving DecidableEq, Repr

namespace TypeChart

variable {α : Type}

/-- The chart of rows. -/
def ofRows (rows : List (ChartRow α)) : TypeChart α :=
  ⟨Keyed.ofList (rows.map fun r => ((r.attacking, r.defending), r.multiplier))⟩

/-- What holds of the multipliers of all rows holds of all that is charted. -/
theorem holds_ofRows {p : α → Prop} {rows : List (ChartRow α)} (h : ∀ r ∈ rows, p r.multiplier) :
    ∀ e ∈ (ofRows rows).entries, p e.2 := by
  intro e he
  obtain ⟨r, hr, rfl⟩ := List.mem_map.1 (Keyed.mem_ofList he)
  exact h r hr

/-- The number of charted pairs. -/
def size (c : TypeChart α) : Nat := c.entries.length

variable [Scalar α]

/-- The multiplier of an attacking against a defending type; one if the pair was never charted. -/
def multiplier (c : TypeChart α) (attacking defending : Int) : α :=
  (Keyed.get? (attacking, defending) c.entries).getD 1

/-- The multiplier of an attacking type against a holder of one or two types. -/
def against (c : TypeChart α) (attacking type1 : Int) (type2 : Option Int) : α :=
  match type2 with
  | none => c.multiplier attacking type1
  | some type2 => c.multiplier attacking type1 * c.multiplier attacking type2

/-- The better multiplier of a holder's own types against a defending type. -/
def bestOffense (c : TypeChart α) (defending type1 : Int) (type2 : Option Int) : α :=
  match type2 with
  | none => c.multiplier type1 defending
  | some type2 => Scalar.larger (c.multiplier type1 defending) (c.multiplier type2 defending)

/-- What holds of one and of all that is charted holds of every multiplier. -/
theorem holds_multiplier {p : α → Prop} {c : TypeChart α} (hone : p 1)
    (h : ∀ e ∈ c.entries, p e.2) (attacking defending : Int) :
    p (c.multiplier attacking defending) := by
  unfold multiplier
  cases hg : Keyed.get? (attacking, defending) c.entries with
  | none => exact hone
  | some x => exact h _ (Keyed.mem_of_get? hg)

/-- So it does of the multipliers against holders, if products keep it. -/
theorem holds_against {p : α → Prop} {c : TypeChart α} (hone : p 1)
    (hmul : ∀ x y, p x → p y → p (x * y)) (h : ∀ e ∈ c.entries, p e.2) (attacking type1 : Int)
    (type2 : Option Int) : p (c.against attacking type1 type2) := by
  cases type2 with
  | none => exact holds_multiplier hone h attacking type1
  | some type2 =>
    exact hmul _ _ (holds_multiplier hone h attacking type1)
      (holds_multiplier hone h attacking type2)

/-- The last row of a pair is the one that counts. -/
theorem multiplier_ofRows (rows : List (ChartRow α)) (attacking defending : Int) :
    (ofRows rows).multiplier attacking defending =
      ((rows.reverse.find? fun r =>
        (r.attacking, r.defending) = (attacking, defending)).map (·.multiplier)).getD 1 := by
  unfold multiplier ofRows
  rw [Keyed.get?_ofList, ← List.map_reverse, List.find?_map]
  simp [Option.map_map, Function.comp_def]

end TypeChart

end Roster
