import Roster.Text.Digit

/-!
# Rounding quotients

Rounding of a fraction of two naturals to the nearest natural, a half going to the even neighbour,
and the decimal and binary exponents of a fraction.
-/

namespace Roster.Decimal

/-- The natural nearest to `num / den`; a half goes to the even neighbour. -/
def roundEven (num den : Nat) : Nat :=
  let q := num / den
  let r := num % den
  if den < 2 * r || (2 * r == den && q % 2 == 1) then q + 1 else q

/-- A fraction of naturals. -/
structure Fraction where
  num : Nat
  den : Nat
  deriving DecidableEq, Repr

/-- `m · 2 ^ e / 10 ^ k` as a fraction. -/
def Fraction.scaled (m : Nat) (e k : Int) : Fraction :=
  ⟨m * Nat.pow 2 e.toNat * Nat.pow 10 (-k).toNat, Nat.pow 2 (-e).toNat * Nat.pow 10 k.toNat⟩

/-- The exponent of ten of a positive fraction's first significant digit. -/
def Fraction.decimalExponent (f : Fraction) : Int :=
  let d : Int := (Text.decimalDigits f.num).length - (Text.decimalDigits f.den).length
  if f.den * Nat.pow 10 d.toNat ≤ f.num * Nat.pow 10 (-d).toNat then d else d - 1

/-- The exponent of two of a positive fraction's first binary digit. -/
def Fraction.binaryExponent (f : Fraction) : Int :=
  let d : Int := f.num.log2 - f.den.log2
  if f.den * Nat.pow 2 d.toNat ≤ f.num * Nat.pow 2 (-d).toNat then d else d - 1

/-- A fraction divided by a power of two and rounded. -/
def Fraction.roundedBy (f : Fraction) (e : Int) : Nat :=
  roundEven (f.num * Nat.pow 2 (-e).toNat) (f.den * Nat.pow 2 e.toNat)

/-- A half goes to the even neighbour, downwards here and upwards there. -/
example : roundEven 5 2 = 2 ∧ roundEven 7 2 = 4 := by decide

end Roster.Decimal
