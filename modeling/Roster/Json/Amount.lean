import Roster.Json.Basic

/-!
# Amounts in documents

An amount is a number that is finite and not negative. A whole number beyond the finite scalars is
not even compared.
-/

namespace Roster.Json

/-- Why a value is no amount. -/
inductive AmountFlaw where
  | notNumber
  | outOfRange
  | beyondScalars
  deriving DecidableEq, Repr

variable {α : Type} [Scalar α]

/-- The number of a value that is an amount, and its scalar. -/
def amount? : Json α → Except AmountFlaw (Number α × α)
  | .number n =>
    match n.toScalar? with
    | none => .error .beyondScalars
    | some x => if Scalar.Finite x ∧ ¬ x < 0 then .ok (n, x) else .error .outOfRange
  | _ => .error .notNumber

/-- An amount is a number whose scalar is finite and not negative. -/
theorem amount?_eq_ok_iff {v : Json α} {n : Number α} {x : α} :
    v.amount? = .ok (n, x) ↔
      v = .number n ∧ n.toScalar? = some x ∧ Scalar.Finite x ∧ ¬ x < 0 := by
  cases v with
  | number m =>
    simp only [amount?]
    split
    · rename_i h
      simp only [reduceCtorEq, false_iff, not_and]
      intro e
      cases e
      simp [h]
    · rename_i y h
      split
      · rename_i hf
        constructor
        · intro e
          cases e
          exact ⟨rfl, h, hf⟩
        · rintro ⟨e, hx, -⟩
          cases e
          rw [h] at hx
          cases hx
          rfl
      · rename_i hf
        simp only [reduceCtorEq, false_iff, not_and]
        intro e hx
        cases e
        rw [h] at hx
        cases hx
        simpa using hf
  | _ => simp [amount?]

end Roster.Json
