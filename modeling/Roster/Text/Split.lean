import Roster.Text.Basic

/-!
# Splitting and joining

A text is cut at every occurrence of a separator; joining the parts with the separator gives the
text back, and no part holds the separator.
-/

namespace Roster.Text

variable {β : Type} [DecidableEq β]

/-- The parts of a list between the occurrences of a separator. -/
def splitAt (sep : β) : List β → List (List β)
  | [] => [[]]
  | c :: rest =>
    if c = sep then [] :: splitAt sep rest
    else
      match splitAt sep rest with
      | [] => [[c]]
      | part :: parts => (c :: part) :: parts

/-- Parts joined with a separator between them. -/
def joinWith (sep : β) : List (List β) → List β
  | [] => []
  | [part] => part
  | part :: parts => part ++ sep :: joinWith sep parts

/-- The parts of a text between the occurrences of a separator. -/
def split (sep : Char) (s : Text) : List Text := (splitAt (.char sep) s.toList).map Text.mk

/-- The lines of a text, ended by line feeds; a text that ends in one has an empty last line. -/
def lines (s : Text) : List Text := split '\n' s

/-- Texts joined by line feeds. -/
def unlines (parts : List Text) : Text := Text.intercalate "\n" parts

/-- Whether a list occurs in another without a gap. -/
def occursIn (needle : List β) : List β → Bool
  | [] => needle.isEmpty
  | c :: rest => needle.isPrefixOf (c :: rest) || occursIn needle rest

/-- A text with one of the given marks taken off its front: the first mark that stands there. -/
def dropMark : List Text → Text → Text
  | [], s => s
  | mark :: marks, s =>
    if mark.toList.isPrefixOf s.toList then ⟨s.toList.drop mark.length⟩ else dropMark marks s

theorem splitAt_ne_nil (sep : β) (s : List β) : splitAt sep s ≠ [] := by
  cases s with
  | nil => simp [splitAt]
  | cons c rest =>
    unfold splitAt
    split
    · simp
    · split <;> simp

/-- Cutting loses nothing. -/
theorem joinWith_splitAt (sep : β) (s : List β) : joinWith sep (splitAt sep s) = s := by
  induction s with
  | nil => rfl
  | cons c rest ih =>
    unfold splitAt
    split
    · rename_i h
      subst h
      match hs : splitAt c rest with
      | [] => exact absurd hs (splitAt_ne_nil c rest)
      | part :: parts => rw [hs] at ih; simp [joinWith, ih]
    · match hs : splitAt sep rest with
      | [] => exact absurd hs (splitAt_ne_nil sep rest)
      | [part] => rw [hs] at ih; simp only [joinWith] at ih ⊢; rw [ih]
      | part :: next :: parts =>
        rw [hs] at ih
        simp only [joinWith, List.cons_append] at ih ⊢
        rw [ih]

/-- No part holds the separator. -/
theorem notMem_of_mem_splitAt {sep : β} {s part : List β} (h : part ∈ splitAt sep s) :
    sep ∉ part := by
  induction s generalizing part with
  | nil => simp_all [splitAt]
  | cons c rest ih =>
    unfold splitAt at h
    split at h
    · rcases List.mem_cons.1 h with h | h
      · simp [h]
      · exact ih h
    · rename_i hc
      match hs : splitAt sep rest with
      | [] => exact absurd hs (splitAt_ne_nil sep rest)
      | first :: parts =>
        rw [hs] at h ih
        rcases List.mem_cons.1 h with h | h
        · subst h
          simp only [List.mem_cons, not_or]
          exact ⟨fun e => hc e.symm, ih (by simp)⟩
        · exact ih (by simp [h])

/-- A text without the separator is its only part. -/
theorem splitAt_of_notMem {sep : β} {s : List β} (h : sep ∉ s) : splitAt sep s = [s] := by
  induction s with
  | nil => rfl
  | cons c rest ih =>
    simp only [List.mem_cons, not_or] at h
    unfold splitAt
    rw [if_neg (fun e => h.1 e.symm), ih h.2]

/-- A part in front of a separator is cut off whole. -/
theorem splitAt_append {sep : β} {part : List β} (rest : List β) (h : sep ∉ part) :
    splitAt sep (part ++ sep :: rest) = part :: splitAt sep rest := by
  induction part with
  | nil => simp [splitAt]
  | cons c part ih =>
    simp only [List.mem_cons, not_or] at h
    rw [List.cons_append, splitAt, if_neg (fun e => h.1 e.symm), ih h.2]

end Roster.Text
