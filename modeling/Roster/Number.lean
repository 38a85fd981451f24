import Roster.Scalar
import Roster.Decimal.Style

/-!
# Numbers as they are written

A document's numbers are whole or real. A whole number stays exact, whatever its size, until it has
to enter a computation; it is refused there if it lies beyond the finite scalars. Sums, products and
comparisons that need no scalar are exact. Doubles are the scalars that documents are read into by
the program.
-/

namespace Roster

/-- Scalars that can be read from text, written, and set against whole numbers of any size. -/
class Numeral (α : Type) extends Scalar α where
  ofLiteral : Decimal.Literal → α
  text : α → String
  /-- Whether a scalar is below a whole number, exactly. -/
  isBelow : α → Int → Bool
  /-- Whether a scalar is above a whole number, exactly. -/
  isAbove : α → Int → Bool
  /-- The scalar nearest to a quotient of whole numbers, infinite if there is none. -/
  quotient : Int → Int → α

/-- A number of a document: a whole one, or a real one. -/
inductive Number (α : Type) where
  | whole (n : Int)
  | real (x : α)
  deriving DecidableEq, Repr

namespace Number

variable {α : Type}

/-- A whole number as a scalar, unless it lies beyond the finite ones. -/
def wholeScalar? [Scalar α] (n : Int) : Option α :=
  let x : α := Scalar.ofInt n
  if Scalar.Finite x then some x else none

/-- A number as a scalar, unless it is a whole one beyond the finite scalars. -/
def toScalar? [Scalar α] : Number α → Option α
  | .whole n => wholeScalar? n
  | .real x => some x

/-- Why numbers cannot be computed with. -/
inductive Fault where
  /-- A whole number that has to enter a computation lies beyond the finite scalars. -/
  | beyondScalars
  /-- The quotient of two whole numbers does. -/
  | quotientBeyondScalars
  deriving DecidableEq, Repr

/-- What is said of a whole number that has to enter a computation and cannot. -/
def beyondScalarsMessage : String := "int too large to convert to float"

/-- What is said of a fault. -/
def Fault.message : Fault → String
  | .beyondScalars => beyondScalarsMessage
  | .quotientBeyondScalars => "integer division result too large for a float"

/-- What was computed, or the fault of a whole number beyond the scalars. -/
def orBeyond {β : Type} : Option β → Except Fault β
  | none => .error .beyondScalars
  | some x => .ok x

/-- A number as a scalar that enters a computation. -/
def scalar [Scalar α] (n : Number α) : Except Fault α := orBeyond n.toScalar?

/-- A sum of numbers, exact as long as both are whole. -/
def add [Scalar α] (a b : Number α) : Option (Number α) :=
  match a, b with
  | .whole m, .whole n => some (.whole (m + n))
  | a, b => do return .real ((← a.toScalar?) + (← b.toScalar?))

/-- A product of numbers, exact as long as both are whole. -/
def mul [Scalar α] (a b : Number α) : Option (Number α) :=
  match a, b with
  | .whole m, .whole n => some (.whole (m * n))
  | a, b => do return .real ((← a.toScalar?) * (← b.toScalar?))

/-- A number less one, exact if it is whole. -/
def pred [Scalar α] : Number α → Number α
  | .whole n => .whole (n - 1)
  | .real x => .real (x - 1)

/-- The quotient of two numbers. That of whole numbers is found from the numbers themselves, and
not from their scalars. -/
def div [Numeral α] (a b : Number α) : Except Fault α :=
  match a, b with
  | .whole m, .whole n =>
    let q : α := Numeral.quotient m n
    if Scalar.Finite q then .ok q else .error .quotientBeyondScalars
  | a, b => do return (← a.scalar) / (← b.scalar)

/-- A number brought back into the finite range. A whole one is there or cannot be brought back. -/
def saturate [Scalar α] : Number α → Except Fault (Number α)
  | .whole n => do
    let _ ← (whole (α := α) n).scalar
    return .whole n
  | .real x => .ok (.real (Scalar.saturate x))

/-- Whether a number is less than another, exactly. -/
def isLess [Numeral α] : Number α → Number α → Bool
  | .whole m, .whole n => decide (m < n)
  | .whole m, .real y => Numeral.isAbove y m
  | .real x, .whole n => Numeral.isBelow x n
  | .real x, .real y => decide (x < y)

/-- The larger of two numbers; the first unless the second is larger. -/
def larger [Numeral α] (a b : Number α) : Number α := if a.isLess b then b else a

/-- The smaller of two numbers; the first unless the second is smaller. -/
def smaller [Numeral α] (a b : Number α) : Number α := if b.isLess a then b else a

/-- A number brought into an interval. -/
def clamp [Numeral α] (x low high : Number α) : Number α := larger low (smaller high x)

/-- Whether a number counts as zero. -/
def isZero [Scalar α] : Number α → Bool
  | .whole n => n == 0
  | .real x => decide (Scalar.IsZero x)

/-- The sum of numbers from the left, exact up to the first real one. -/
def total [Scalar α] (ns : List (Number α)) : Option (Number α) :=
  ns.foldlM add (.whole 0)

/-- A number as text. -/
def text [Numeral α] : Number α → String
  | .whole n => toString n
  | .real x => Numeral.text x

@[simp] theorem toScalar?_real [Scalar α] (x : α) : (real x).toScalar? = some x := rfl

@[simp] theorem scalar_real [Scalar α] (x : α) : (real x).scalar = .ok x := rfl

/-- On real numbers the comparison is that of the scalars. -/
@[simp] theorem isLess_real [Numeral α] (x y : α) : (real x).isLess (real y) = decide (x < y) := rfl

/-- On real numbers the interval is that of the scalars. -/
theorem clamp_real [Numeral α] (x low high : α) :
    clamp (real x) (real low) (real high) = real (Scalar.clamp x low high) := by
  simp only [clamp, smaller, larger, Scalar.clamp, Scalar.smaller, Scalar.larger, isLess_real,
    decide_eq_true_eq]
  split <;> simp only [isLess_real, decide_eq_true_eq] <;> split <;> rfl

end Number

instance : Scalar Float where
  zero := 0
  one := 1
  decLe := Float.decLe
  decLt := Float.decLt
  greatest := 1.7976931348623157e308
  ofInt := Float.ofInt
  sqrt := Float.sqrt
  pow := Float.pow

instance : Numeral Float where
  ofLiteral := Decimal.Literal.toFloat
  text := Decimal.plain.write
  isBelow x n := Decimal.Exact.isBelow n (.ofFloat x)
  isAbove x n := Decimal.Exact.isAbove n (.ofFloat x)
  quotient := Decimal.quotient

end Roster
