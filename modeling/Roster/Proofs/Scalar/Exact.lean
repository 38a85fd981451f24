import Mathlib.Analysis.SpecialFunctions.Pow.Real
import Roster.Number
import Roster.Proofs.Scalar.Laws
import Roster.Proofs.Scalar.Saturation

/-!
# Exact scalars

Real numbers as scalars, with the greatest finite double for the greatest of them: nothing is
rounded, and all that lies beyond is brought back by saturation alone. Literals that are no numbers
are read as one that lies beyond, so that they are refused where doubles are.
-/

namespace Roster

/-- The real numbers, to compute scores in. -/
def Exact : Type := ℝ

namespace Exact

open Saturation

/-- The greatest magnitude. -/
noncomputable def limit : ℝ := ((2 ^ 53 - 1) * 2 ^ 971 : ℕ)

/-- The number that a literal stands for. -/
noncomputable def ofLiteral : Decimal.Literal → ℝ
  | .nan | .infinite false => limit + 1
  | .infinite true => -(limit + 1)
  | .finite negative digits exponent => (if negative then -(digits : ℝ) else digits) * 10 ^ exponent

noncomputable instance : Scalar Exact where
  toAdd := inferInstanceAs (Add ℝ)
  toSub := inferInstanceAs (Sub ℝ)
  toMul := inferInstanceAs (Mul ℝ)
  toDiv := inferInstanceAs (Div ℝ)
  toNeg := inferInstanceAs (Neg ℝ)
  toLE := inferInstanceAs (LE ℝ)
  toLT := inferInstanceAs (LT ℝ)
  toZero := inferInstanceAs (Zero ℝ)
  toOne := inferInstanceAs (One ℝ)
  toOfScientific := inferInstanceAs (OfScientific ℝ)
  decLe := inferInstanceAs (DecidableLE ℝ)
  decLt := inferInstanceAs (DecidableLT ℝ)
  greatest := limit
  ofInt := fun n => (n : ℝ)
  sqrt := Real.sqrt
  pow := Real.rpow

/-- Texts are not asked of exact scalars. -/
noncomputable instance : Numeral Exact where
  ofLiteral := ofLiteral
  text := fun _ => ""
  isBelow := fun x n => decide (x < Scalar.ofInt n)
  isAbove := fun x n => decide (Scalar.ofInt n < x)
  quotient := fun m n => Scalar.ofInt m / Scalar.ofInt n

theorem one_le_limit : 1 ≤ limit := by
  have hlimit : 0 < (2 ^ 53 - 1) * 2 ^ 971 := Nat.mul_pos (by decide) (pow_pos two_pos 971)
  rw [limit, Nat.one_le_cast]
  exact hlimit

theorem limit_pos : 0 < limit := lt_of_lt_of_le one_pos one_le_limit

theorem four_le_limit : 4 ≤ limit := by
  have hlimit : 4 ≤ (2 ^ 53 - 1) * 2 ^ 971 :=
    Nat.le_trans (by decide) (Nat.le_mul_of_pos_right (2 ^ 53 - 1) (pow_pos two_pos 971))
  rw [limit]
  exact_mod_cast hlimit

instance : LawfulOrder Exact where
  le_self_of_le_left := fun {a _} _ => le_refl (α := ℝ) a
  le_self_of_le_right := fun {_ b} _ => le_refl (α := ℝ) b
  le_trans := fun {a b c} => le_trans (α := ℝ) (a := a) (b := b) (c := c)
  le_total := fun {a b} _ _ => le_total (α := ℝ) a b
  lt_iff := fun {a b} => lt_iff_le_not_ge (α := ℝ) (a := a) (b := b)
  zero_le_one := zero_le_one (α := ℝ)
  one_le_greatest := one_le_limit
  neg_greatest_le_zero := neg_nonpos.2 limit_pos.le

theorem finite_iff {x : Exact} : Scalar.Finite x ↔ (-limit : ℝ) ≤ x ∧ (x : ℝ) ≤ limit := Iff.rfl

theorem saturate_eq (x : ℝ) : Scalar.saturate (α := Exact) x = bounded limit x := by
  have hlimit := limit_pos
  change (if ¬ x ≤ x then 0 else if limit < x then limit else if x < -limit then -limit else x) =
    bounded limit x
  unfold bounded
  rw [if_neg (not_not.2 le_rfl)]
  split_ifs with hu hl
  · rw [min_eq_right (le_of_lt hu), max_eq_right (by linarith)]
  · rw [min_eq_left (not_lt.1 hu), max_eq_left (le_of_lt hl)]
  · rw [min_eq_left (not_lt.1 hu), max_eq_right (not_lt.1 hl)]

/-- Products of exact scalars are bounded products. -/
theorem productFrom_eq (start : Exact) (factors : List Exact) :
    Scalar.productFrom start factors = boundedProduct limit start factors := by
  induction factors generalizing start with
  | nil => rfl
  | cons f rest ih =>
    exact (ih _).trans (congrArg (boundedProduct limit · rest) (saturate_eq _))

/-- Sums of exact scalars are bounded sums. -/
theorem foldl_add_eq (start : Exact) (terms : List Exact) :
    terms.foldl (fun acc x => Scalar.saturate (acc + x)) start = boundedSum limit start terms := by
  induction terms generalizing start with
  | nil => rfl
  | cons x rest ih =>
    exact (ih _).trans (congrArg (boundedSum limit · rest) (saturate_eq _))

section Orders

variable {β : Type}

/-- The order of factors above or equal to zero counts exactly if their product is not steady. -/
theorem productFrom_one_perm_iff {e : β → Option Exact} (he : ∀ t f, e t = some f → (0 : Exact) ≤ f)
    (l : List β) :
    (∀ l', l.Perm l' →
      Scalar.productFrom 1 (l.filterMap e) = Scalar.productFrom 1 (l'.filterMap e)) ↔
      SteadyProduct limit 1 (l.filterMap e) := by
  refine Iff.trans (forall₂_congr fun l' _ => ?_) (steadyProduct_iff one_pos one_le_limit he l)
  rw [productFrom_eq, productFrom_eq]
  exact eq_comm

/-- From any finite start it counts exactly if they lead both away from it and back. -/
theorem productFrom_perm_iff {e : β → Option Exact} (he : ∀ t f, e t = some f → (0 : Exact) ≤ f)
    (l : List β) :
    (∀ start : Exact, Scalar.Finite start → ∀ l', l.Perm l' →
      Scalar.productFrom start (l.filterMap e) = Scalar.productFrom start (l'.filterMap e)) ↔
      OneSided (l.filterMap e) := by
  refine Iff.trans (forall_congr' fun start => ?_) (oneSided_iff limit_pos he l)
  rw [finite_iff, and_imp]
  refine forall₂_congr fun _ _ => forall₂_congr fun l' _ => ?_
  rw [productFrom_eq, productFrom_eq]
  exact eq_comm

theorem sum_perm_iff (e : β → Option Exact) (l : List β) :
    (∀ l', l.Perm l' → Scalar.sum (l.filterMap e) = Scalar.sum (l'.filterMap e)) ↔
      SteadySum limit (l.filterMap e) := by
  refine Iff.trans (forall₂_congr fun l' _ => ?_) (steadySum_iff limit_pos e l)
  rw [Scalar.sum, Scalar.sum, foldl_add_eq, foldl_add_eq]
  exact eq_comm

end Orders

end Exact

end Roster
