import Roster.Proofs.Scalar.Laws
import Roster.Proofs.Tag.Grammar

/-!
# The numbers of tags

Factors of tags are finite and not below zero, and the values of crit tags are finite, whatever a
tag's text is.
-/

namespace Roster

open Scalar

variable {α : Type}

section Scalar

variable [Scalar α]

/-- An effect on incoming damage whose factor is an amount. -/
def Incoming.Sound : Incoming α → Prop
  | .relation .. => True
  | .factor _ x => Amount x

/-- An effect whose factor is an amount and whose bonus is finite. -/
def Effect.Sound : Effect α → Prop
  | .stat _ x | .statIfType _ _ x | .physicalBulk x | .specialBulk x | .defense x | .offense x
  | .offenseIfType _ x | .crit .damage x => Amount x
  | .incoming i => i.Sound
  | .crit .chance x | .crit .stage x => Finite x
  | .flag _ | .note _ => True

end Scalar

namespace Tag

variable [Numeral α]

theorem finite_of_number? {s : Text} {x : α} (h : number? s = some x) : Finite x := by
  unfold number? at h
  split at h
  · cases h
  · dsimp only at h
    split at h
    · exact Option.some.inj h ▸ ‹_›
    · cases h

variable [LawfulOrder α]

theorem amount_of_factor? {s : Text} {x : α} (h : factor? s = some x) : Amount x := by
  obtain ⟨y, hy, h⟩ := Option.bind_eq_some_iff.1 h
  split at h
  · cases h
  · rename_i hneg
    obtain rfl := Option.some.inj h
    exact amount_iff.2 ⟨finite_of_number? hy, hneg⟩

theorem sound_of_reads {parts : List Text} {e : Effect α} (h : Reads parts e) : e.Sound := by
  cases h with
  | stat _ hf | physicalBulk hf | specialBulk hf | defense hf | offense hf | offenseIfType _ hf
  | incomingFactor _ hf | statIfType _ _ hf => exact amount_of_factor? hf
  | @crit _ _ _ kind _ _ _ hx =>
    cases kind with
    | damage => exact amount_of_factor? hx
    | chance | stage => exact finite_of_number? hx
  | relation | flag | wonderGuard | evolution | species => trivial

/-- Whatever a tag's text is, the numbers of its effect are sound. -/
theorem sound_of_parse {tag : Text} {e : Effect α} (h : parse tag = some e) : e.Sound :=
  sound_of_reads (reads_of_parse h)

end Tag

end Roster
