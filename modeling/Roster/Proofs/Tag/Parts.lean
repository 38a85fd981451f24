import Mathlib.Data.List.DropRight
import Roster.Proofs.Bundle.Conditional
import Roster.Proofs.Bundle.Gathered

/-!
# Tags from their parts

Parts without colons that are joined by colons are cut apart again. Blanks around the tag only take
what is blank off the back of its last part, and no payload counts the blanks at its back.
-/

namespace Roster

namespace Text

section Lists

variable {β : Type}

theorem splitAt_joinWith [DecidableEq β] {sep : β} {parts : List (List β)} (hne : parts ≠ [])
    (h : ∀ part ∈ parts, sep ∉ part) : splitAt sep (joinWith sep parts) = parts := by
  induction parts with
  | nil => exact absurd rfl hne
  | cons part parts ih =>
    obtain ⟨hpart, hparts⟩ := List.forall_mem_cons.1 h
    cases parts with
    | nil => exact splitAt_of_notMem hpart
    | cons next parts =>
      rw [joinWith, splitAt_append _ hpart, ih (List.cons_ne_nil _ _) hparts]
      exact List.cons_ne_nil _ _

/-- What is cut off the back of joined parts is cut off the last one. -/
theorem trimEndBy_joinWith {p : β → Bool} {sep : β} (hsep : p sep = false) (parts : List (List β))
    (last : List β) :
    trimEndBy p (joinWith sep (parts ++ [last])) = joinWith sep (parts ++ [trimEndBy p last]) := by
  induction parts with
  | nil => rfl
  | cons part parts ih =>
    rw [List.cons_append, List.cons_append, joinWith, joinWith, trimEndBy_append_cons _ _ hsep, ih]
    · exact List.append_ne_nil_of_right_ne_nil _ (List.cons_ne_nil _ _)
    · exact List.append_ne_nil_of_right_ne_nil _ (List.cons_ne_nil _ _)

theorem mem_of_mem_trimEndBy {p : β → Bool} {s : List β} {c : β} (h : c ∈ trimEndBy p s) :
    c ∈ s := by
  rw [trimEndBy, List.mem_reverse] at h
  exact List.mem_reverse.1 ((List.dropWhile_suffix p).subset h)

/-- What is trimmed at both ends need not be trimmed at the back before. -/
theorem trimBy_trimEndBy (p : β → Bool) (s : List β) : trimBy p (trimEndBy p s) = trimBy p s := by
  have hs := List.takeWhile_append_dropWhile (p := p) (l := s)
  have hblank : ∀ c ∈ s.takeWhile p, p c = true := fun c => List.mem_takeWhile_imp
  cases hrest : s.dropWhile p with
  | nil =>
    have hall : ∀ c ∈ s, p c = true := List.dropWhile_eq_nil_iff.1 hrest
    have hnil : trimEndBy p s = [] := List.rdropWhile_eq_nil_iff.2 hall
    rw [hnil, trimBy, trimBy, trimStartBy, trimStartBy, hrest]
    rfl
  | cons c rest =>
    -- The first element that is not blank parts what is cut off the front from what is cut off the
    -- back.
    have hc : p c = false := by
      have := List.head?_dropWhile_not p s
      rwa [hrest, List.head?_cons] at this
    rw [hrest] at hs
    have hcut : trimEndBy p s = s.takeWhile p ++ c :: trimEndBy p rest := by
      rw [← trimEndBy_append_cons _ _ hc, hs]
    have hstart : trimStartBy p s = c :: rest := hrest
    rw [trimBy, trimBy, hstart, hcut, trimStartBy, List.dropWhile_append_of_pos hblank,
      List.dropWhile_cons_of_neg (by simp [hc]), ← List.nil_append (c :: rest),
      ← List.nil_append (c :: trimEndBy p rest), trimEndBy_append_cons _ _ hc,
      trimEndBy_append_cons _ _ hc]
    exact congrArg _ (congrArg _ (List.rdropWhile_idempotent p rest))

theorem trimBy_trimBy (p : β → Bool) (s : List β) : trimBy p (trimBy p s) = trimBy p s := by
  have hstart : trimStartBy p (trimStartBy p s) = trimStartBy p s := List.dropWhile_idempotent p s
  calc
    trimBy p (trimBy p s) = trimBy p (trimStartBy p s) := trimBy_trimEndBy p _
    _ = trimBy p s := by rw [trimBy, hstart, trimBy]

end Lists

end Text

namespace Tag

open Text

/-- The tag of parts with colons between them. -/
def joined (parts : List Text) : Text := ⟨joinWith (.char ':') (parts.map toList)⟩

/-- Around a joined tag only the blanks at the back of its last part are cut off. -/
theorem trim_joined {keyword : Text} {c : CodePoint} {cs : List CodePoint}
    (hkeyword : keyword.toList = c :: cs) (hc : c.satisfies isBlank = false) (middle : List Text)
    (last : Text) :
    trim (joined (keyword :: middle ++ [last])) = joined (keyword :: middle ++ [trimEnd last]) := by
  have hcolon : CodePoint.satisfies isBlank (.char ':') = false := by decide
  have hmap (last : Text) : (keyword :: middle ++ [last]).map toList =
      (keyword :: middle).map toList ++ [last.toList] := by
    rw [List.map_append, List.map_singleton]
  obtain ⟨rest, hrest⟩ : ∃ rest, joinWith (.char ':') ((keyword :: middle).map toList
      ++ [last.toList]) = c :: rest := by
    rw [List.map_cons, List.cons_append, hkeyword, joinWith]
    · exact ⟨_, rfl⟩
    · exact List.append_ne_nil_of_right_ne_nil _ (List.cons_ne_nil _ _)
  refine ext_toList ?_
  rw [toList_trim, joined, joined, hmap, hmap, trimmed, hrest, trimBy_cons _ hc, ← hrest,
    trimEndBy_joinWith hcolon]
  rfl

theorem split_joined {parts : List Text} (hne : parts ≠ [])
    (h : ∀ part ∈ parts, .char ':' ∉ part.toList) : split ':' (joined parts) = parts := by
  rw [joined, split, splitAt_joinWith (by simpa using hne) (List.forall_mem_map.2 h), List.map_map]
  exact List.map_id' _

/-- The parts of a joined tag are those that it is joined from, but for blanks at the back. -/
theorem split_trim_joined {keyword : Text} {c : CodePoint} {cs : List CodePoint}
    (hkeyword : keyword.toList = c :: cs) (hc : c.satisfies isBlank = false) (middle : List Text)
    (last : Text) (h : ∀ part ∈ keyword :: middle ++ [last], .char ':' ∉ part.toList) :
    split ':' (trim (joined (keyword :: middle ++ [last]))) =
      keyword :: middle ++ [trimEnd last] := by
  rw [trim_joined hkeyword hc]
  refine split_joined (by simp) fun part hpart => ?_
  rcases List.mem_append.1 hpart with hpart | hpart
  · exact h part (List.mem_append_left _ hpart)
  · rw [List.mem_singleton.1 hpart]
    exact fun hmem => h last (by simp) (mem_of_mem_trimEndBy hmem)

theorem colon_notMem_of_split {tag : Text} {parts : List Text}
    (h : Text.split ':' (Text.trim tag) = parts) : ∀ part ∈ parts, .char ':' ∉ part.toList := by
  intro part hpart
  rw [← h] at hpart
  obtain ⟨cs, hcs, rfl⟩ := List.mem_map.1 hpart
  exact Text.notMem_of_mem_splitAt hcs

theorem trim_trim (s : Text) : trim (trim s) = trim s := ext_toList (trimBy_trimBy _ _)

theorem trim_trimEnd (s : Text) : trim (trimEnd s) = trim s :=
  ext_toList (trimBy_trimEndBy _ _)

variable {α : Type} [Numeral α]

theorem factor?_trimEnd (payload : Text) :
    factor? (α := α) (trimEnd payload) = factor? payload := by
  rw [factor?, factor?, number?, number?, trim_trimEnd]

/-- The payload of a multiplier is its last part. -/
theorem mult?_trimEnd (middle : List Text) (last : Text) :
    mult? (α := α) (middle ++ [trimEnd last]) = mult? (middle ++ [last]) := by
  match middle with
  | [] => rfl
  | [target] => simp only [List.singleton_append, mult?, factor?_trimEnd]
  | [target, type] => simp only [List.cons_append, List.nil_append, mult?, factor?_trimEnd]
  | [target, stat, type] => simp only [List.cons_append, List.nil_append, mult?, factor?_trimEnd]
  | _ :: _ :: _ :: _ :: [] => rfl
  | _ :: _ :: _ :: _ :: _ :: _ => rfl

theorem parse_joined_mult (middle : List Text) (last : Text)
    (h : ∀ part ∈ middle ++ [last], .char ':' ∉ part.toList) :
    parse (α := α) (joined (("mult" : Text) :: middle ++ [last])) = mult? (middle ++ [last]) := by
  have hcolon : ∀ part ∈ ("mult" : Text) :: middle ++ [last], .char ':' ∉ part.toList :=
    List.forall_mem_cons.2 ⟨by decide, h⟩
  have hsplit : split ':' (trim (joined (("mult" : Text) :: middle ++ [last]))) =
      ("mult" : Text) :: (middle ++ [trimEnd last]) :=
    split_trim_joined rfl (by decide) middle last hcolon
  rw [parse_of_split hsplit, mult?_trimEnd]

theorem normal_trimEnd (name : Text) : TypeName.normal (trimEnd name) = TypeName.normal name := by
  rw [TypeName.normal, TypeName.normal, trim_trimEnd]

end Tag

end Roster
