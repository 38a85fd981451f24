import Mathlib.Tactic.SplitIfs
import Roster.Text.Blank
import Roster.Text.Casing

/-!
# What case tables lead to

A table has one of three images for a character: a sequence, a letter that a run leads to, or the
character itself. No table holds a blank or leads to one, and no image is empty. So a text in title
case is blank, or empty, exactly if the text itself is.
-/

namespace Roster.Text

/-! ### Characters and tables -/

/-- What holds of each of the seven-bit characters by its number. -/
theorem of_ascii {P : Char → Prop} (h : ∀ n : Fin 128, P (Char.ofNat n)) :
    ∀ c : Char, c.toNat < 128 → P c := by
  intro c hc
  have := h ⟨c.toNat, hc⟩
  rwa [Char.ofNat_toNat] at this

/-- A number is that of its character, unless no character has it. -/
theorem toNat_ofNat (n : Nat) : (Char.ofNat n).toNat = n ∨ (Char.ofNat n).toNat = 0 := by
  by_cases h : n.isValidChar
  · rw [Char.ofNat, dif_pos h]
    exact .inl rfl
  · rw [Char.ofNat, dif_neg h]
    exact .inr rfl

theorem Ranges.exists_of_covers {n : Nat} {ranges : Ranges} (h : ranges.covers n = true) :
    ∃ range ∈ ranges, range.1 ≤ n ∧ n ≤ range.2 := by
  induction ranges with
  | nil => cases h
  | cons range rest ih =>
    unfold Ranges.covers at h
    split_ifs at h with hfirst
    rcases Bool.or_eq_true_iff.1 h with hlast | hrest
    · exact ⟨range, List.mem_cons_self, Nat.le_of_not_lt hfirst, of_decide_eq_true hlast⟩
    · obtain ⟨range', hmem, hn⟩ := ih hrest
      exact ⟨range', List.mem_cons_of_mem _ hmem, hn⟩

theorem Run.exists_of_image? {n m : Nat} {runs : List Run} (h : Run.image? n runs = some m) :
    ∃ r ∈ runs, r.first ≤ n ∧ n ≤ r.last ∧ m = r.image + (n - r.first) := by
  induction runs with
  | nil => cases h
  | cons r rest ih =>
    unfold Run.image? at h
    split_ifs at h with hfirst hlast
    · exact ⟨r, List.mem_cons_self, Nat.le_of_not_lt hfirst, hlast, (Option.some.inj h).symm⟩
    · obtain ⟨r', hr', hn⟩ := ih h
      exact ⟨r', List.mem_cons_of_mem _ hr', hn⟩

/-- What a table makes of a character. -/
theorem casingOf_cases (runs : List Run) (sequences : List (Nat × List Nat)) (c : Char) :
    (∃ image, (c.toNat, image) ∈ sequences ∧
        casingOf runs sequences c = image.map Char.ofNat) ∨
      (∃ r ∈ runs, r.first ≤ c.toNat ∧ c.toNat ≤ r.last ∧
        casingOf runs sequences c = [Char.ofNat (r.image + (c.toNat - r.first))]) ∨
      casingOf runs sequences c = [c] := by
  unfold casingOf
  split
  · rename_i image himage
    obtain ⟨before, behind, rfl, -⟩ := List.lookup_eq_some_iff.1 himage
    exact .inl ⟨image, List.mem_append_right _ List.mem_cons_self, rfl⟩
  · split
    · rename_i m hm
      obtain ⟨r, hr, hfirst, hlast, rfl⟩ := Run.exists_of_image? hm
      exact .inr (.inl ⟨r, hr, hfirst, hlast, rfl⟩)
    · exact .inr (.inr rfl)

/-! ### Blanks -/

/-- Whether a table neither holds a blank nor leads to one, nor to nothing. -/
structure FreeOfBlanks (runs : List Run) (sequences : List (Nat × List Nat)) : Prop where
  runs : ∀ r ∈ runs, ∀ blank ∈ blankRanges, (r.last < blank.1 ∨ blank.2 < r.first) ∧
    (r.image + (r.last - r.first) < blank.1 ∨ blank.2 < r.image)
  sequences : ∀ e ∈ sequences, e.2 ≠ [] ∧ blankRanges.covers e.1 = false ∧
    ∀ n ∈ e.2, blankRanges.covers n = false

theorem freeOfBlanks_lower : FreeOfBlanks lowerRuns lowerSequences where
  runs := by decide +kernel
  sequences := by decide

theorem freeOfBlanks_title : FreeOfBlanks titleRuns titleSequences where
  runs := by decide +kernel
  sequences := by decide +kernel

/-- An image of a character that is blank exactly if the character is. -/
structure KeepsBlank (c : Char) (image : List Char) : Prop where
  ne_nil : image ≠ []
  blank : ∀ d ∈ image, isBlank d = isBlank c

theorem isBlank_ofNat {n : Nat} (h : blankRanges.covers n = false) :
    isBlank (Char.ofNat n) = false := by
  unfold isBlank
  rcases toNat_ofNat n with hn | hn
  · rwa [hn]
  · rw [hn]
    decide

theorem covers_of_forall {n : Nat} (h : ∀ blank ∈ blankRanges, n < blank.1 ∨ blank.2 < n) :
    blankRanges.covers n = false := by
  refine Bool.eq_false_iff.2 fun hn => ?_
  obtain ⟨blank, hmem, hfirst, hlast⟩ := Ranges.exists_of_covers hn
  have := h blank hmem
  omega

theorem keepsBlank_singleton {c d : Char} (h : isBlank d = isBlank c) : KeepsBlank c [d] where
  ne_nil := List.cons_ne_nil _ _
  blank := List.forall_mem_singleton.2 h

theorem keepsBlank_casingOf {runs : List Run} {sequences : List (Nat × List Nat)}
    (h : FreeOfBlanks runs sequences) (c : Char) : KeepsBlank c (casingOf runs sequences c) := by
  obtain ⟨image, hmem, himage⟩ | ⟨r, hr, hfirst, hlast, himage⟩ | himage :=
    casingOf_cases runs sequences c
  · obtain ⟨hne, hblank, hall⟩ := h.sequences _ hmem
    have hc : isBlank c = false := hblank
    rw [himage]
    refine ⟨by simpa using hne, List.forall_mem_map.2 fun n hn => ?_⟩
    rw [hc, isBlank_ofNat (hall n hn)]
  · have hc : isBlank c = false := covers_of_forall fun blank hblank => by
      have := (h.runs r hr blank hblank).1
      omega
    have hm := covers_of_forall (n := r.image + (c.toNat - r.first)) fun blank hblank => by
      have := (h.runs r hr blank hblank).2
      omega
    rw [himage]
    exact keepsBlank_singleton ((isBlank_ofNat hm).trans hc.symm)
  · rw [himage]
    exact keepsBlank_singleton rfl

theorem keepsBlank_titleChar (c : Char) : KeepsBlank c (titleChar c) := by
  unfold titleChar
  split
  · rename_i hc
    have hblank : ∀ c : Char, c.toNat < 128 → isBlank c.toUpper = isBlank c :=
      of_ascii (by decide)
    exact keepsBlank_singleton (hblank c hc)
  · exact keepsBlank_casingOf freeOfBlanks_title c

theorem keepsBlank_lowerChar (c : Char) : KeepsBlank c (lowerChar c) := by
  unfold lowerChar
  split
  · rename_i hc
    have hblank : ∀ c : Char, c.toNat < 128 → isBlank c.toLower = isBlank c :=
      of_ascii (by decide)
    exact keepsBlank_singleton (hblank c hc)
  · exact keepsBlank_casingOf freeOfBlanks_lower c

theorem keepsBlank_lowerWithin (cased : Bool) (c : Char) (rest : List CodePoint) :
    KeepsBlank c (lowerWithin cased c rest) := by
  unfold lowerWithin
  split
  · rename_i hsigma
    subst hsigma
    exact keepsBlank_singleton (by split <;> decide)
  · exact keepsBlank_lowerChar c

theorem KeepsBlank.all_eq {c : Char} {image : List Char} (h : KeepsBlank c image) :
    (image.map CodePoint.char).all (CodePoint.satisfies isBlank) = isBlank c := by
  rw [List.all_map, Bool.eq_iff_iff, List.all_eq_true]
  constructor
  · intro hall
    obtain ⟨d, hd⟩ := List.exists_mem_of_ne_nil _ h.ne_nil
    rw [← h.blank d hd]
    exact hall d hd
  · exact fun hc d hd => (h.blank d hd).trans hc

/-! ### Title case -/

theorem all_blank_titleAfter (word cased : Bool) (s : List CodePoint) :
    (titleAfter word cased s).all (CodePoint.satisfies isBlank) =
      s.all (CodePoint.satisfies isBlank) := by
  -- Each character is written under what stands before it, so for every state of the walk.
  induction s generalizing word cased with
  | nil => rfl
  | cons c rest ih =>
    cases c with
    | half index => rfl
    | char c =>
      have hc : KeepsBlank c (if word then lowerWithin cased c rest else titleChar c) := by
        cases word with
        | true => exact keepsBlank_lowerWithin cased c rest
        | false => exact keepsBlank_titleChar c
      rw [titleAfter, List.all_append, hc.all_eq, ih, List.all_cons, CodePoint.satisfies_char]

theorem titleAfter_eq_nil_iff {word cased : Bool} {s : List CodePoint} :
    titleAfter word cased s = [] ↔ s = [] := by
  cases s with
  | nil => exact iff_of_true rfl rfl
  | cons c rest =>
    refine iff_of_false ?_ (List.cons_ne_nil _ _)
    cases c with
    | half index => exact List.cons_ne_nil _ _
    | char c =>
      refine List.append_ne_nil_of_left_ne_nil ?_ _
      rw [Ne, List.map_eq_nil_iff]
      cases word with
      | true => exact (keepsBlank_lowerWithin cased c rest).ne_nil
      | false => exact (keepsBlank_titleChar c).ne_nil

/-- A text in title case is blank exactly if the text is. -/
theorem isBlankText_title (s : Text) : isBlankText (title s) = isBlankText s :=
  all_blank_titleAfter false false s.toList

theorem title_eq_empty_iff {s : Text} : title s = "" ↔ s = "" := by
  constructor
  · intro h
    exact ext_toList (titleAfter_eq_nil_iff.1 (congrArg toList h))
  · rintro rfl
    rfl

end Roster.Text
