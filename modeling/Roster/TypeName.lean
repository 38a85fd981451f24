import Roster.Text.Blank
import Roster.Text.Casing

/-!
# Names of elemental types

Type names are compared in their normal form: without blanks around and in lower case.
-/

namespace Roster.TypeName

/-- The form in which a type name is compared. -/
def normal (name : Text) : Text := Text.lower (Text.trim name)

/-- The normal forms of names, without the blank ones. -/
def normals (names : List Text) : List Text := (names.map normal).filter fun n => n ≠ ""

theorem mem_normals {names : List Text} {n : Text} :
    n ∈ normals names ↔ n ≠ "" ∧ ∃ name ∈ names, normal name = n := by
  simp only [normals, List.mem_filter, List.mem_map, decide_eq_true_eq]
  exact And.comm

end Roster.TypeName
