import Roster.Potentials

/-!
# Sides in written numbers

The blend of two sides and their rank where the sides are numbers as they are written. Comparisons
and sums of whole numbers are exact, and so is a quotient until it is rounded; every other step is
that of the scalars.
-/

namespace Roster.Potentials

open Scalar

variable {α : Type} [Numeral α]

/-- Two sides blended. -/
def writtenBlend (physical special : Number α) : Except Number.Fault α := do
  let better ← (physical.larger special).scalar
  let sum ← Number.orBeyond (physical.add special)
  let mean ← sum.div (.whole 2)
  return saturate (0.75 * better + 0.25 * mean)

/-- Whether two sides cannot be balanced: the larger is zero. -/
def writtenUnbalanced (offense defense : Number α) : Bool := (offense.larger defense).isZero

/-- How even two sides are: the smaller over the larger, one if the larger is zero. -/
def writtenBalance (offense defense : Number α) : Except Number.Fault α :=
  if writtenUnbalanced offense defense then .ok 1
  else (offense.smaller defense).div (offense.larger defense)

/-- The rank of two sides. -/
def writtenRank (offense defense : Number α) : Except Number.Fault α := do
  let raw := rawRank (← offense.scalar) (← defense.scalar)
  return saturate (raw * (0.88 + 0.12 * (← writtenBalance offense defense)))

/-- Of real sides the balance is that of the scalars. -/
theorem writtenBalance_real (offense defense : α) :
    writtenBalance (.real offense) (.real defense) = .ok (balance offense defense) := by
  unfold writtenBalance writtenUnbalanced balance Number.larger Number.smaller larger smaller
  simp only [Number.isLess_real, decide_eq_true_eq]
  by_cases h : offense < defense <;> by_cases h' : defense < offense <;>
    simp only [h, h', if_true, if_false, Number.isZero, decide_eq_true_eq] <;> split <;> rfl

/-- Of real sides the rank is that of the scalars. -/
theorem writtenRank_real (offense defense : α) :
    writtenRank (.real offense) (.real defense) = .ok (rankOf offense defense) := by
  unfold writtenRank
  rw [writtenBalance_real]
  rfl

end Roster.Potentials
