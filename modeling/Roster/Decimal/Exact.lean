import Roster.Decimal.Literal
import Roster.Decimal.Rounding

/-!
# The exact values of doubles

A double is a sign, a natural and a power of two, or an infinity, or not a number. Decimal output is
computed from this value in exact arithmetic, and so are comparisons with whole numbers; decimal
input and quotients of whole numbers are rounded correctly to a double.
-/

namespace Roster.Decimal

/-- The value of a double; the finite ones are `mantissa · 2 ^ exponent` with a sign. -/
inductive Exact where
  | nan
  | infinite (negative : Bool)
  | finite (negative : Bool) (mantissa : Nat) (exponent : Int)
  deriving DecidableEq, Repr

/-- The value of the double with the given bits. -/
def Exact.ofBits (bits : UInt64) : Exact :=
  let n := bits.toNat
  let negative := Nat.pow 2 63 ≤ n
  let exponent : Nat := n / Nat.pow 2 52 % Nat.pow 2 11
  let fraction : Nat := n % Nat.pow 2 52
  if exponent = 2047 then if fraction = 0 then .infinite negative else .nan
  else if exponent = 0 then .finite negative fraction (-1074)
  else .finite negative (Nat.pow 2 52 + fraction) (exponent - 1075)

/-- The value of a double. -/
def Exact.ofFloat (x : Float) : Exact := .ofBits x.toBits

/-- A natural with a sign. -/
def signedWhole (negative : Bool) (m : Nat) : Int := if negative then -m else m

/-- Whether a value is below a whole number. What is not a number is below none. -/
def Exact.isBelow (n : Int) : Exact → Bool
  | .nan => false
  | .infinite negative => negative
  | .finite negative m e =>
    decide (signedWhole negative m * Nat.pow 2 e.toNat < n * Nat.pow 2 (-e).toNat)

/-- Whether a value is above a whole number. What is not a number is above none. -/
def Exact.isAbove (n : Int) : Exact → Bool
  | .nan => false
  | .infinite negative => !negative
  | .finite negative m e =>
    decide (n * Nat.pow 2 (-e).toNat < signedWhole negative m * Nat.pow 2 e.toNat)

/-- A sign put before a double. -/
def withSign (negative : Bool) (x : Float) : Float := if negative then -x else x

/-- The double nearest to `digits · 10 ^ exponent`. Decimals far beyond the range of doubles, or far
below their least positive value, are not expanded. -/
def nearest (digits : Nat) (exponent : Int) : Float :=
  let size : Int := (Text.decimalDigits digits).length + exponent
  if digits = 0 || size < -400 then 0
  else if 400 < size then 1 / 0
  else Float.ofScientific digits (exponent < 0) exponent.natAbs

/-- The double that a literal stands for. -/
def Literal.toFloat : Literal → Float
  | .nan => 0 / 0
  | .infinite negative => withSign negative (1 / 0)
  | .finite negative digits exponent => withSign negative (nearest digits exponent)

/-- The double nearest to a fraction, a half going to the even mantissa: as many binary digits are
kept as a double of that size has. -/
def Fraction.toFloat (f : Fraction) : Float :=
  if f.num = 0 then 0
  else
    let e := max (f.binaryExponent - 52) (-1074)
    Float.scaleB (Float.ofNat (f.roundedBy e)) e

/-- The double nearest to a quotient of whole numbers. -/
def quotient (a b : Int) : Float :=
  withSign (decide (a < 0) != decide (b < 0)) (Fraction.toFloat ⟨a.natAbs, b.natAbs⟩)

/-- A double rounded to a number of decimal places: the exact value is rounded, a half going to the
even digit, and the decimal so found is read as a double again. -/
def roundPlaces (places : Nat) (x : Float) : Float :=
  match Exact.ofFloat x with
  | .finite negative m e =>
    let f := Fraction.scaled m e (-places)
    withSign negative (nearest (roundEven f.num f.den) (-places))
  | _ => x

/-- A double rounded to a number of significant digits, in the same way. -/
def roundSignificant (digits : Nat) (x : Float) : Float :=
  match Exact.ofFloat x with
  | .finite negative m e =>
    if m = 0 then x
    else
      let k := (Fraction.scaled m e 0).decimalExponent - digits + 1
      let f := Fraction.scaled m e k
      withSign negative (nearest (roundEven f.num f.den) k)
  | _ => x

example : Exact.isBelow 5 (.finite false 9 (-1)) ∧ Exact.isAbove 4 (.finite false 9 (-1)) := by
  decide

example : Exact.isBelow 0 (.finite true 0 3) = false := by decide

end Roster.Decimal
