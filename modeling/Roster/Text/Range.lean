/-!
# Sets and maps of code points

The properties of characters that this library needs are data of a standard, kept in tables: a set
is a list of closed ranges in increasing order, a map a list of runs that move evenly spaced code
points by one distance. Looking up stops at the first range that begins after the code point.
-/

namespace Roster.Text

/-- Closed ranges of code points, in increasing order and apart from each other. -/
abbrev Ranges := List (Nat × Nat)

/-- Whether a code point lies in one of the ranges. -/
def Ranges.covers (n : Nat) : Ranges → Bool
  | [] => false
  | (first, last) :: rest => if n < first then false else n ≤ last || covers n rest

/-- Code points `first`, `first + step`, … up to `last`, of which the first goes to `image` and the
others move by the same distance. -/
structure Run where
  first : Nat
  last : Nat
  step : Nat
  image : Nat
  deriving DecidableEq, Repr

/-- The image of a code point under the runs, if one of them holds it. -/
def Run.image? (n : Nat) : List Run → Option Nat
  | [] => none
  | r :: rest =>
    if n < r.first then none
    else if n ≤ r.last then
      if (n - r.first) % r.step = 0 then some (r.image + (n - r.first)) else none
    else image? n rest

end Roster.Text
