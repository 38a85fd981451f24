import Roster.Decimal.Exact

/-!
# The shortest decimal that reads back

Of the decimals that read back as a given positive double, those with the fewest digits, and of
these the nearest; a tie goes to the even digit. A decimal reads back if it lies between the
midpoints to the neighbouring doubles, which count as inside when the mantissa is even. On each
decimal grid only the two neighbours of the value need to be tried.
-/

namespace Roster.Decimal

/-- A decimal `digits · 10 ^ exponent`. -/
structure Digits where
  digits : Nat
  exponent : Int
  deriving DecidableEq, Repr

/-- A decimal without zeros at the end of its digits; `fuel` bounds how many are dropped. -/
def Digits.dropZeros : Nat → Digits → Digits
  | 0, d => d
  | fuel + 1, d =>
    if d.digits ≠ 0 ∧ d.digits % 10 = 0 then dropZeros fuel ⟨d.digits / 10, d.exponent + 1⟩ else d

/-- Whether the double `m · 2 ^ e` has a nearer neighbour below than above: it is a power of two
above the least normal one. -/
def narrowBelow (m : Nat) (e : Int) : Bool := m = Nat.pow 2 52 && -1074 < e

/-- The decimal on the grid of `10 ^ k` that reads back as `m · 2 ^ e` and is nearest to it. -/
def onGrid? (m : Nat) (e k : Int) : Option Nat :=
  let unit := (Fraction.scaled 1 (e - 2) k).den
  let part (n : Nat) : Nat := (Fraction.scaled n (e - 2) k).num
  let value := part (4 * m)
  let low := part (4 * m - if narrowBelow m e then 1 else 2)
  let high := part (4 * m + 2)
  let inside (c : Nat) : Bool :=
    if m % 2 = 0 then low ≤ c * unit && c * unit ≤ high else low < c * unit && c * unit < high
  let below := value / unit
  let above := below + 1
  let toBelow := value - below * unit
  let toAbove := above * unit - value
  if inside below && (!inside above || toBelow < toAbove || (toBelow == toAbove && below % 2 == 0))
  then some below
  else if inside above then some above
  else none

/-- The shortest decimal that reads back as the positive double `m · 2 ^ e`. Seventeen digits are
always enough. -/
def shortest (m : Nat) (e : Int) : Digits :=
  let top := (Fraction.scaled m e 0).decimalExponent
  let found := (List.range 17).findSome? fun (n : Nat) =>
    let k : Int := top - n
    (onGrid? m e k).map fun c => (⟨c, k⟩ : Digits)
  (found.getD ⟨m, e⟩).dropZeros 20

end Roster.Decimal
