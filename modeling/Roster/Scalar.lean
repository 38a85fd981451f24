/-!
# Scalars

The arithmetic that scores are computed in. The program runs it on doubles; the definitions hold for
any type with the operations, so that the formulas can also be read in exact arithmetic. Values may
leave the finite range: `saturate` brings them back, and comparisons with a value that is not a
number fail.
-/

namespace Roster

/-- A type to compute scores in. `greatest` is the largest finite magnitude. -/
class Scalar (α : Type) extends
    Add α, Sub α, Mul α, Div α, Neg α, LE α, LT α, Zero α, One α, OfScientific α where
  decLe : (a b : α) → Decidable (a ≤ b)
  decLt : (a b : α) → Decidable (a < b)
  greatest : α
  ofInt : Int → α
  sqrt : α → α
  pow : α → α → α

namespace Scalar

variable {α : Type} [Scalar α]

instance (a b : α) : Decidable (a ≤ b) := decLe a b

instance (a b : α) : Decidable (a < b) := decLt a b

/-- A count as a scalar. -/
def ofNat (n : Nat) : α := ofInt n

/-- Whether a value lies in the finite range. -/
def Finite (x : α) : Prop := -greatest ≤ x ∧ x ≤ greatest

instance (x : α) : Decidable (Finite x) := inferInstanceAs (Decidable (_ ∧ _))

/-- Whether a value counts as zero, whatever its sign. -/
def IsZero (x : α) : Prop := x ≤ 0 ∧ 0 ≤ x

instance (x : α) : Decidable (IsZero x) := inferInstanceAs (Decidable (_ ∧ _))

/-- The larger of two values; the first unless the second is larger. -/
def larger (a b : α) : α := if a < b then b else a

/-- The smaller of two values; the first unless the second is smaller. -/
def smaller (a b : α) : α := if b < a then b else a

/-- A value brought into an interval. -/
def clamp (x low high : α) : α := larger low (smaller high x)

/-- A value brought back into the finite range, with its sign; what is not a number becomes zero. -/
def saturate (x : α) : α :=
  if ¬ x ≤ x then 0
  else if greatest < x then greatest
  else if x < -greatest then -greatest
  else x

/-- A sequence of multiplications from the left, each brought back into the finite range. -/
def productFrom (start : α) (factors : List α) : α :=
  factors.foldl (fun acc x => saturate (acc * x)) start

/-- The product of factors from the left, brought back into the finite range after each. -/
def product (factors : List α) : α := productFrom 1 factors

/-- The sum of terms from the left, brought back into the finite range after each. -/
def sum (terms : List α) : α := terms.foldl (fun acc x => saturate (acc + x)) 0

@[simp] theorem productFrom_nil (start : α) : productFrom start [] = start := rfl

@[simp] theorem productFrom_cons (start x : α) (xs : List α) :
    productFrom start (x :: xs) = productFrom (saturate (start * x)) xs := rfl

theorem productFrom_append (start : α) (xs ys : List α) :
    productFrom start (xs ++ ys) = productFrom (productFrom start xs) ys :=
  List.foldl_append

end Scalar

end Roster
