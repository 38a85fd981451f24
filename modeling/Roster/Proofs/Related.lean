import Mathlib.Data.List.Forall2

/-!
# Related lists

Two lists that are related element by element come to the same under functions that do so on related
elements.
-/

namespace Roster

variable {β γ δ : Type} {R : β → γ → Prop} {l : List β} {l' : List γ}

section Lists

variable (h : List.Forall₂ R l l')

include h

theorem filterMap_eq_of_forall₂ {f : β → Option δ} {g : γ → Option δ}
    (hfg : ∀ x y, R x y → f x = g y) : l.filterMap f = l'.filterMap g := by
  induction h with
  | nil => rfl
  | cons hx _ ih => rw [List.filterMap_cons, List.filterMap_cons, hfg _ _ hx, ih]

theorem map_eq_of_forall₂ {f : β → δ} {g : γ → δ} (hfg : ∀ x y, R x y → f x = g y) :
    l.map f = l'.map g := by
  induction h with
  | nil => rfl
  | cons hx _ ih => rw [List.map_cons, List.map_cons, hfg _ _ hx, ih]

theorem filterMap_eq_map_of_forall₂ {f : β → Option δ} {g : γ → δ}
    (hfg : ∀ x y, R x y → f x = some (g y)) : l.filterMap f = l'.map g :=
  (filterMap_eq_of_forall₂ h hfg).trans (congrFun List.filterMap_eq_map l')

theorem any_eq_of_forall₂ {p : β → Bool} {q : γ → Bool} (hpq : ∀ x y, R x y → p x = q y) :
    l.any p = l'.any q := by
  induction h with
  | nil => rfl
  | cons hx _ ih => rw [List.any_cons, List.any_cons, hpq _ _ hx, ih]

/-- What is found first among related elements is related. -/
theorem rel_find? {p : β → Bool} {q : γ → Bool} (hpq : ∀ x y, R x y → p x = q y) :
    Option.Rel R (l.find? p) (l'.find? q) := by
  induction h with
  | nil => exact .none
  | @cons x y l l' hx _ ih =>
    rw [List.find?_cons, List.find?_cons, ← hpq x y hx]
    cases p x with
    | true => exact .some hx
    | false => exact ih

end Lists

/-- What a list is mapped to has the values of its elements. -/
theorem exists_mem_of_mapM {f : β → Option γ} (h : l.mapM f = some l') {x : β} (hx : x ∈ l) :
    ∃ y ∈ l', f x = some y := by
  induction l generalizing l' with
  | nil => cases hx
  | cons x' rest ih =>
    rw [List.mapM_cons] at h
    obtain ⟨y, hy, h⟩ := Option.bind_eq_some_iff.1 h
    obtain ⟨ys, hys, h⟩ := Option.bind_eq_some_iff.1 h
    cases h
    rcases List.mem_cons.1 hx with rfl | hx
    · exact ⟨y, List.mem_cons_self, hy⟩
    · obtain ⟨y', hmem, hy'⟩ := ih hys hx
      exact ⟨y', List.mem_cons_of_mem y hmem, hy'⟩

/-- A list is mapped if each of its elements has a value. -/
theorem isSome_mapM_iff {f : β → Option γ} : (l.mapM f).isSome ↔ ∀ x ∈ l, (f x).isSome := by
  induction l with
  | nil => simp
  | cons x rest ih =>
    rw [List.mapM_cons, List.forall_mem_cons, ← ih]
    cases f x <;> cases rest.mapM f <;> simp

theorem map_eq_of_rel {x : Option β} {y : Option γ} (h : Option.Rel R x y) {f : β → δ} {g : γ → δ}
    (hfg : ∀ a b, R a b → f a = g b) : x.map f = y.map g := by
  cases h with
  | none => rfl
  | some h => exact congrArg some (hfg _ _ h)

end Roster
