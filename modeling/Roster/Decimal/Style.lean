import Roster.Decimal.Shortest

/-!
# Written numbers

A style holds the decisions of a number format: which exponents are written positionally, how an
exponent is written, how a whole number shows that it is a real one, and the words for the values
that are not finite. `plain` is the style of this library's answers and diagnostics.
-/

namespace Roster.Decimal

/-- The decisions of a number format. -/
structure Style where
  /-- The least exponent of the first digit that is written positionally. -/
  leastPositional : Int
  /-- The first exponent of the first digit that is no longer written positionally. -/
  endPositional : Int
  /-- What marks the exponent. -/
  exponentMark : Char
  /-- The least number of exponent digits. -/
  exponentDigits : Nat
  /-- What is put behind a whole number in positional form. -/
  wholeMark : String
  nan : String
  infinity : String

/-- Reals have fewest digits, positional from 10⁻⁴ to below 10¹⁶, with `.0` behind a whole number;
other exponents are signed and have two digits at least. -/
def plain : Style := ⟨-4, 16, 'e', 2, ".0", "nan", "inf"⟩

/-- Digits with a point after the first `whole` of them. -/
def pointed (ds : List Char) (whole : Nat) : List Char :=
  let places := ds.drop whole
  ds.take whole ++ if places.isEmpty then [] else '.' :: places

/-- A sign in front of a text. -/
def signed (negative : Bool) (s : String) : String := if negative then "-" ++ s else s

/-- A decimal in positional form, its first digit standing at the given power of ten. -/
def Style.positional (style : Style) (ds : List Char) (top : Int) : String :=
  if top < 0 then
    String.ofList ('0' :: '.' :: List.replicate (-top - 1).toNat '0' ++ ds)
  else
    let whole := top.toNat + 1
    if ds.length ≤ whole then
      String.ofList (ds ++ List.replicate (whole - ds.length) '0') ++ style.wholeMark
    else String.ofList (pointed ds whole)

/-- A decimal with an exponent, its first digit standing at the given power of ten. -/
def Style.scientific (style : Style) (ds : List Char) (top : Int) : String :=
  let e := Text.decimalDigits top.natAbs
  String.ofList
    (pointed ds 1 ++ style.exponentMark :: (if top < 0 then '-' else '+')
      :: List.replicate (style.exponentDigits - e.length) '0' ++ e)

/-- An exact value written with the fewest digits. -/
def Style.writeExact (style : Style) : Exact → String
  | .nan => style.nan
  | .infinite negative => signed negative style.infinity
  | .finite negative 0 _ => signed negative (style.positional ['0'] 0)
  | .finite negative m e =>
    let d := shortest m e
    let ds := Text.decimalDigits d.digits
    let top := d.exponent + ds.length - 1
    signed negative
      (if style.leastPositional ≤ top ∧ top < style.endPositional then style.positional ds top
      else style.scientific ds top)

/-- A double written with the fewest digits that read back. -/
def Style.write (style : Style) (x : Float) : String := style.writeExact (.ofFloat x)

/-- A double with a fixed number of decimal places. -/
def fixed (places : Nat) (x : Float) : String :=
  match Exact.ofFloat x with
  | .nan => plain.nan
  | .infinite negative => signed negative plain.infinity
  | .finite negative m e =>
    let f := Fraction.scaled m e (-places)
    let ds := Text.decimalDigits (roundEven f.num f.den)
    let ds := List.replicate (places + 1 - ds.length) '0' ++ ds
    signed negative (String.ofList (pointed ds (ds.length - places)))

end Roster.Decimal
