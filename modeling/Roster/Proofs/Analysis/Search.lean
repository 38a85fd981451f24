import Roster.Analysis
import Roster.Proofs.Text.Colon
import Roster.Proofs.Text.Sigma

/-!
# Searching the box

A search by a text alone shows the creatures that have it, without the blanks around, in one of
their names, whatever its case. One that has it literally is shown too, unless a capital sigma of
the text becomes another small one inside the name.
-/

namespace Roster

/-- A score without potentials of a creature whose name is that of its species. -/
def Score.plain {α : Type} [Scalar α] (name : Text) (type1 : Int) (type2 : Option Int) :
    Score α where
  boxId := 1
  name := name
  speciesName := name
  dexNumber := 1
  type1 := type1
  type2 := type2
  typeNames := []
  abilityName := none
  itemName := none
  tags := []
  potentials := ⟨0, 0, 0, 0, 0, 0, 0, true, ⟨0, 0, 0, 0, false⟩, 0, 0⟩
  ignored := []

namespace BoxFilter

variable {α : Type}

/-- Whether a text, without the blanks around it, stands literally in one of a score's names. -/
def literally (search : Text) (s : Score α) : Bool :=
  Text.occursIn (Text.trimmed search.toList) s.name.toList ||
    Text.occursIn (Text.trimmed search.toList) s.speciesName.toList

/-- A search by a text alone. -/
def searching (search : Text) : BoxFilter α := { search }

theorem fits_searching [Numeral α] (search : Text) (s : Score α) :
    (searching search).fits s = fitsSearch search s := by
  simp [fits, searching]

theorem fitsSearch_iff {search : Text} {s : Score α} :
    fitsSearch search s = true ↔
      Text.lowered (Text.trimmed search.toList) <:+: Text.lowered s.name.toList ∨
        Text.lowered (Text.trimmed search.toList) <:+: Text.lowered s.speciesName.toList := by
  unfold fitsSearch
  rw [Bool.or_eq_true, Bool.or_eq_true, List.isEmpty_iff, Text.occursIn_iff_infix,
    Text.occursIn_iff_infix, or_assoc]
  refine or_iff_right_of_imp fun hempty => Or.inl ?_
  rw [hempty]
  exact List.nil_infix

/-- A text whose sigmas are settled is found where it stands literally. -/
theorem fitsSearch_of_literally {search : Text} (h : Text.Settled (Text.trimmed search.toList))
    {s : Score α} (hs : literally search s = true) : fitsSearch search s = true := by
  rw [literally, Bool.or_eq_true, Text.occursIn_iff_infix, Text.occursIn_iff_infix] at hs
  exact fitsSearch_iff.2
    (hs.imp (Text.lowered_infix_of_settled h) (Text.lowered_infix_of_settled h))

variable [Numeral α]

/-- A search for a text whose sigmas are settled shows, in their order, all creatures that have it
literally in one of their names. -/
theorem literal_matches_shown {search : Text} (h : Text.Settled (Text.trimmed search.toList))
    (scores : List (Score α)) :
    (scores.filter (literally search)).Sublist ((searching search).apply scores) := by
  refine List.monotone_filter_right scores fun s hs => ?_
  rw [fits_searching]
  exact fitsSearch_of_literally h hs

/-- So does one for a text without capital sigmas. -/
theorem literal_matches_shown_of_notMem {search : Text} (h : .char 'Σ' ∉ search.toList)
    (scores : List (Score α)) :
    (scores.filter (literally search)).Sublist ((searching search).apply scores) :=
  have hblank : CodePoint.satisfies Text.isBlank (.char 'Σ') = false := by decide
  literal_matches_shown (Text.settled_of_notMem (mt (Text.mem_trimBy_iff hblank _).1 h)) scores

/-- A search shows, in their order, all creatures that have its text literally in one of their
names, whatever the box, exactly if every capital sigma of the text is settled. -/
theorem literal_matches_shown_iff (search : Text) :
    (∀ scores : List (Score α),
      (scores.filter (literally search)).Sublist ((searching search).apply scores)) ↔
      Text.Settled (Text.trimmed search.toList) := by
  refine ⟨fun h => Text.lowered_infix_iff.1 fun t ht => ?_, literal_matches_shown⟩
  let s : Score α := .plain ⟨t⟩ 1 none
  have hliteral : literally search s = true := by
    rw [literally, Bool.or_eq_true]
    exact Or.inl (Text.occursIn_iff_infix.2 ht)
  have hshown : s ∈ (searching search).apply [s] :=
    (h [s]).subset (List.mem_filter.2 ⟨List.mem_singleton_self s, hliteral⟩)
  have hfits := (List.mem_filter.1 hshown).2
  rw [fits_searching, fitsSearch_iff] at hfits
  exact hfits.elim id id

/-- A search that ends in a capital sigma does not show a creature whose name goes on with a letter
behind it. -/
theorem closing_sigma_hides_match :
    literally "ΟΔΥΣ" (.plain "ΟΔΥΣΣΕΑΣ" 1 none : Score Float) = true ∧
      (searching "ΟΔΥΣ" : BoxFilter Float).apply [.plain "ΟΔΥΣΣΕΑΣ" 1 none] = [] := by
  constructor
  · decide +kernel
  · rw [apply, List.filter_eq_nil_iff]
    intro s hs
    rw [List.mem_singleton.1 hs, fits_searching]
    decide +kernel

end BoxFilter

end Roster
