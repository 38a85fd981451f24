import Mathlib.Data.Nat.Digits.Defs
import Roster.Command.Request
import Roster.Proofs.Analysis.Search
import Roster.Proofs.Json.Writable
import Roster.Report

/-!
# The printed ranking

What is printed of a ranked box is a table of the first scores, numbered from one, with a line for
further ones where there are some. A table can be told from its lines: no row begins like the line
of further scores. Its rows and the further ones that it tells of are all scores unless the limit is
below zero. Then the last ones are left out, as many as the limit says, but the line adds them to
the whole number.
-/

namespace Roster

theorem Text.le_length_padStart (width : Nat) (s : Text) : width ≤ (padStart width s).length := by
  simp only [padStart, Text.length, toList_append, List.length_append, List.length_replicate]
  omega

namespace Report

/-- A table of a ranking: the scores in its rows, and the number of further ones that it tells of,
if it tells of any. -/
@[ext]
structure Table where
  shown : List (Score Float)
  more : Option Nat

/-- The line that tells of further scores. -/
def moreLine (n : Nat) : Text := s!"   ... and {n} more"

/-- The lines of scores, numbered from one. -/
def placedLines (scores : List (Score Float)) : List Text :=
  (scores.zipIdx 1).map fun (s, place) => rankingLine place s

/-- The lines of a table. -/
def Table.lines (t : Table) : List Text :=
  rankingHead :: placedLines t.shown ++ (t.more.map moreLine).toList

/-- What is printed of a ranked box: that it is empty, or a table of its first scores. -/
inductive Prints : List (Score Float) → Table → List Text → Prop where
  | empty : Prints [] ⟨[], none⟩ (heading "📦 BOX RANKING" ++ [("   Box is empty" : Text)])
  | table {scores : List (Score Float)} {t : Table} (nonempty : scores ≠ [])
    (front : t.shown <+: scores) : Prints scores t (heading "📦 BOX RANKING" ++ t.lines)

/-- Whether the rows of a table and the further scores that it tells of are as many as all. -/
def Table.AccountsFor (t : Table) (scores : List (Score Float)) : Prop :=
  t.shown.length + t.more.getD 0 = scores.length

/-! ### Lines -/

/-- Whether a line begins like that of further scores. -/
def beginsWithPoint (line : Text) : Bool := line.toList[3]? == some (.char '.')

theorem toList_moreLine (n : Nat) :
    (moreLine n).toList =
      "   ... and ".toList.map .char ++ (Text.decimalDigits n).map .char ++
        " more".toList.map .char := by
  change ("   ... and " ++ n.repr ++ " more").toList.map CodePoint.char = _
  simp only [String.toList_append, List.map_append, Text.decimalDigits]

theorem beginsWithPoint_moreLine (n : Nat) : beginsWithPoint (moreLine n) = true := by
  rw [beginsWithPoint, toList_moreLine]
  rfl

theorem moreLine_injective {m n : Nat} (h : moreLine m = moreLine n) : m = n := by
  have hlist := congrArg Text.toList h
  rw [toList_moreLine, toList_moreLine] at hlist
  have hdigits := List.append_cancel_left (List.append_cancel_right hlist)
  exact Text.decimalDigits_injective ((List.map_inj_right fun _ _ => CodePoint.char.inj).1 hdigits)

/-- A place in its column is written with spaces and digits. -/
theorem point_notMem_place (place : Nat) :
    .char '.' ∉ (Text.padStart 3 (toString place)).toList := by
  intro h
  rcases List.mem_append.1 h with h | h
  · cases (List.mem_replicate.1 h).2
  · obtain ⟨c, hc, he⟩ := List.mem_map.1 h
    have hdigit := Text.isDigit_of_mem_decimalDigits (n := place) hc
    rw [CodePoint.char.inj he] at hdigit
    exact absurd hdigit (by decide)

/-- A row begins with its place. -/
theorem beginsWithPoint_rankingLine (place : Nat) (s : Score Float) :
    beginsWithPoint (rankingLine place s) = false := by
  have hline : ∃ rest : List CodePoint, (rankingLine place s).toList =
      "   ".toList.map .char ++ ((Text.padStart 3 (toString place)).toList ++ rest) := by
    unfold rankingLine
    simp only [Text.toList_append, Text.toList_ofString, List.append_assoc]
    exact ⟨_, rfl⟩
  obtain ⟨rest, hline⟩ := hline
  have hpoint := point_notMem_place place
  have hlength := Text.le_length_padStart 3 (toString place)
  rw [beginsWithPoint, hline]
  unfold Text.length at hlength
  cases hplace : (Text.padStart 3 (toString place)).toList with
  | nil =>
    rw [hplace] at hlength
    cases hlength
  | cons c cs =>
    rw [hplace] at hpoint
    have hc : c ≠ .char '.' := fun he => hpoint (he ▸ List.mem_cons_self)
    exact beq_eq_false_iff_ne.2 fun he => hc (Option.some.inj he)

theorem beginsWithPoint_of_mem_placedLines {scores : List (Score Float)} {line : Text}
    (h : line ∈ placedLines scores) : beginsWithPoint line = false := by
  obtain ⟨⟨s, place⟩, -, rfl⟩ := List.mem_map.1 h
  exact beginsWithPoint_rankingLine place s

theorem length_placedLines (scores : List (Score Float)) :
    (placedLines scores).length = scores.length := by
  rw [placedLines, List.length_map, List.length_zipIdx]

/-- What a table shows can be told from its lines. -/
theorem Table.eq_of_lines {t t' : Table} (h : t.lines = t'.lines) :
    t.shown.length = t'.shown.length ∧ t.more = t'.more := by
  have hrows (t : Table) : (placedLines t.shown).filter beginsWithPoint = [] ∧
      (placedLines t.shown).filter (fun line => !beginsWithPoint line) = placedLines t.shown := by
    constructor
    · exact List.filter_eq_nil_iff.2 fun line hline => by
        simp [beginsWithPoint_of_mem_placedLines hline]
    · exact List.filter_eq_self.2 fun line hline => by
        simp [beginsWithPoint_of_mem_placedLines hline]
  have hmore (more : Option Nat) :
      (more.map moreLine).toList.filter beginsWithPoint = (more.map moreLine).toList ∧
        (more.map moreLine).toList.filter (fun line => !beginsWithPoint line) = [] := by
    cases more <;> simp [beginsWithPoint_moreLine]
  -- The rows are the lines that do not begin like that of further scores, and that line the other.
  have htail : placedLines t.shown ++ (t.more.map moreLine).toList =
      placedLines t'.shown ++ (t'.more.map moreLine).toList := (List.cons.inj h).2
  have hrow := congrArg (List.filter fun line => !beginsWithPoint line) htail
  have hlast := congrArg (List.filter beginsWithPoint) htail
  simp only [List.filter_append, hrows, hmore, List.append_nil, List.nil_append] at hrow hlast
  have hmoreLine : t.more.map moreLine = t'.more.map moreLine := by
    simpa using congrArg List.head? hlast
  refine ⟨?_, Option.map_injective (fun _ _ => moreLine_injective) hmoreLine⟩
  rw [← length_placedLines, hrow, length_placedLines]

/-! ### The table that is printed -/

/-- The table of scores up to a limit. -/
def tableOf (limit : Option Int) (scores : List (Score Float)) : Table where
  shown := scores.take (shownCount limit scores.length)
  more := (surplus? limit scores.length).bind fun n => (surplusLine? n).map fun _ => n.toNat

theorem surplus?_eq_some_iff {limit : Option Int} {count : Nat} {m : Int} :
    surplus? limit count = some m ↔
      ∃ n ∈ limit, count ≠ 0 ∧ n ≠ 0 ∧ n < count ∧ m = count - n := by
  unfold surplus?
  cases limit with
  | none => simp
  | some n =>
    dsimp only
    split
    · rename_i h
      simp [h, eq_comm]
    · rename_i h
      simp only [Option.mem_def, Option.some.injEq, exists_eq_left', reduceCtorEq, false_iff]
      exact fun hm => h ⟨hm.1, hm.2.1, hm.2.2.1⟩

/-- The line of a surplus is that of so many further scores. -/
theorem surplusLine?_eq {n : Int} (h : 0 < n) :
    surplusLine? n = (surplusLine? n).map fun _ => moreLine n.toNat := by
  obtain ⟨m, rfl⟩ := Int.eq_ofNat_of_zero_le (Int.le_of_lt h)
  unfold surplusLine? Decimal.wholeText?
  split
  · rfl
  · rfl

theorem tableOf_nil (limit : Option Int) : tableOf limit [] = ⟨[], none⟩ := by
  have hsurplus : surplus? limit 0 = none := by
    cases limit <;> simp [surplus?]
  simp [tableOf, hsurplus]

theorem prints_tableOf (limit : Option Int) (scores : List (Score Float)) :
    Prints scores (tableOf limit scores) (box limit scores) := by
  by_cases h : scores = []
  · subst h
    rw [tableOf_nil]
    exact .empty
  · have hmore : ((surplus? limit scores.length).bind surplusLine?) =
        (tableOf limit scores).more.map moreLine := by
      unfold tableOf
      cases hs : surplus? limit scores.length with
      | none => rfl
      | some m =>
        obtain ⟨n, -, -, -, hlt, rfl⟩ := surplus?_eq_some_iff.1 hs
        rw [Option.bind_some, Option.bind_some, Option.map_map]
        exact surplusLine?_eq (by omega)
    have hlines : box limit scores =
        heading "📦 BOX RANKING" ++ (tableOf limit scores).lines := by
      rw [box, ranking, if_neg (by simpa using h), hmore]
      rfl
    rw [hlines]
    exact .table h (List.take_prefix _ _)

/-- Of the same scores no two tables are printed in the same lines. -/
theorem Prints.unique {scores : List (Score Float)} {t t' : Table} {lines : List Text}
    (h : Prints scores t lines) (h' : Prints scores t' lines) : t = t' := by
  cases h with
  | empty =>
    generalize heading "📦 BOX RANKING" ++ [("   Box is empty" : Text)] = lines at h'
    cases h' with
    | empty => rfl
    | table hne _ => exact absurd rfl hne
  | table hne hfront =>
    generalize hlines : heading "📦 BOX RANKING" ++ t.lines = lines at h'
    cases h' with
    | empty => exact absurd rfl hne
    | table _ hfront' =>
      obtain ⟨hlength, hmore⟩ := Table.eq_of_lines (List.append_cancel_left hlines)
      have hshown : t.shown = t'.shown := by
        rw [List.prefix_iff_eq_take.1 hfront, hlength, ← List.prefix_iff_eq_take.1 hfront']
      exact Table.ext hshown hmore

/-! ### Further scores -/

/-- A number of at most as many digits as can be written is written. -/
theorem surplusLine?_isSome {n : Int} (h : n.natAbs < 10 ^ Decimal.wholeDigitLimit) :
    (surplusLine? n).isSome := by
  rw [surplusLine?, Option.isSome_map]
  exact Decimal.isSome_wholeText?_iff.2 h

theorem breaksOff_eq_false {limit : Option Int} {count : Nat} (hlimit : ∀ n ∈ limit, 0 ≤ n)
    (hcount : count < 10 ^ Decimal.wholeDigitLimit) : breaksOff limit count = false := by
  unfold breaksOff
  cases hs : surplus? limit count with
  | none => rfl
  | some m =>
    obtain ⟨n, hn, -, -, hlt, rfl⟩ := surplus?_eq_some_iff.1 hs
    have hnonneg := hlimit n hn
    rw [Option.any_some, Option.isNone_eq_false_iff]
    exact surplusLine?_isSome (by omega)

/-- With a surplus of a size, the table tells of so many further scores if they can be written. -/
theorem more_tableOf {limit : Option Int} {scores : List (Score Float)} {m : Int}
    (h : surplus? limit scores.length = some m) :
    (tableOf limit scores).more = (surplusLine? m).map fun _ => m.toNat := by
  rw [tableOf, h]
  rfl

/-- Up to a limit that is not below zero the rows and the surplus are all scores. -/
theorem length_shown_add_surplus {limit : Option Int} (h : ∀ n ∈ limit, 0 ≤ n)
    (scores : List (Score Float)) :
    (tableOf limit scores).shown.length + (surplus? limit scores.length).getD 0 =
      scores.length := by
  simp only [tableOf, List.length_take]
  cases limit with
  | none => simp [shownCount, surplus?]
  | some n =>
    have hn : 0 ≤ n := h n rfl
    unfold shownCount surplus?
    dsimp only
    split_ifs <;> simp only [Option.getD_some, Option.getD_none] <;> omega

theorem accountsFor_of_nonneg {limit : Option Int} (h : ∀ n ∈ limit, 0 ≤ n)
    {scores : List (Score Float)} :
    (tableOf limit scores).AccountsFor scores ↔ breaksOff limit scores.length = false := by
  have hall := length_shown_add_surplus h scores
  unfold Table.AccountsFor breaksOff
  cases hs : surplus? limit scores.length with
  | none =>
    rw [hs] at hall
    have hmore : (tableOf limit scores).more = none := by rw [tableOf, hs]; rfl
    rw [hmore]
    simpa using hall
  | some m =>
    rw [hs, Option.getD_some] at hall
    obtain ⟨n, -, -, -, hlt, rfl⟩ := surplus?_eq_some_iff.1 hs
    rw [more_tableOf hs, Option.any_some]
    cases surplusLine? (scores.length - n) with
    | none =>
      simp only [Option.map_none, Option.getD_none, Option.isNone_none, Bool.true_eq_false,
        iff_false]
      omega
    | some line =>
      simp only [Option.map_some, Option.getD_some, Option.isNone_some, iff_true]
      omega

/-- Up to a limit below zero they are not. -/
theorem not_accountsFor_of_neg {scores : List (Score Float)} (h : scores ≠ []) {n : Int}
    (hn : n < 0) : ¬ (tableOf (some n) scores).AccountsFor scores := by
  have hcount : scores.length ≠ 0 := by simpa using h
  have hsurplus : surplus? (some n) scores.length = some (scores.length - n) :=
    surplus?_eq_some_iff.2 ⟨n, rfl, hcount, by omega, by omega, rfl⟩
  have hshown : (tableOf (some n) scores).shown.length = scores.length - (-n).toNat := by
    simp only [tableOf, shownCount, List.length_take]
    rw [if_neg (by omega), if_neg (by omega)]
    omega
  unfold Table.AccountsFor
  rw [hshown, more_tableOf hsurplus]
  cases surplusLine? (scores.length - n) with
  | none =>
    rw [Option.map_none, Option.getD_none]
    omega
  | some line =>
    rw [Option.map_some, Option.getD_some]
    omega

/-- Of a box one table is printed, and it accounts for all scores exactly if there are none, or if
the limit is not below zero and the number of further scores is not too long to be written, which it
is only if there are at least `10 ^ 4300` scores. -/
theorem printed_table_accounts_iff (limit : Option Int) (scores : List (Score Float)) :
    ∃ t, (∀ t', Prints scores t' (box limit scores) ↔ t' = t) ∧
      (t.AccountsFor scores ↔
        scores = [] ∨ (∀ n ∈ limit, 0 ≤ n) ∧ breaksOff limit scores.length = false) ∧
      ((∀ n ∈ limit, 0 ≤ n) → breaksOff limit scores.length = true →
        10 ^ Decimal.wholeDigitLimit ≤ scores.length) := by
  refine ⟨tableOf limit scores, fun t' => ⟨fun h => h.unique (prints_tableOf limit scores), ?_⟩,
    ?_, fun hlimit hbreaks => ?_⟩
  · rintro rfl
    exact prints_tableOf limit scores
  · by_cases hscores : scores = []
    · subst hscores
      exact iff_of_true (by rw [tableOf_nil]; rfl) (Or.inl rfl)
    · rw [or_iff_right hscores]
      by_cases hlimit : ∀ n ∈ limit, 0 ≤ n
      · rw [accountsFor_of_nonneg hlimit, and_iff_right hlimit]
      · refine iff_of_false ?_ fun h => hlimit h.1
        push Not at hlimit
        obtain ⟨n, hn, hneg⟩ := hlimit
        obtain rfl := Option.mem_def.1 hn
        exact not_accountsFor_of_neg hscores hneg
  · by_contra hcount
    rw [breaksOff_eq_false hlimit (Nat.lt_of_not_le hcount)] at hbreaks
    cases hbreaks

/-- Words with a limit below zero. -/
def minusOneWords : List Text := ["game.json", "--top", "-1"]

def minusOneRequest : Command.Request Float :=
  ⟨"game.json", false, some (-1), none, none, false, []⟩

/-- The two creatures of a box. -/
def twoScores : List (Score Float) := [.plain "Ash" 1 none, .plain "Bay" 1 none]

/-- Of two creatures one is printed, and three more are told of. -/
theorem minus_one_miscounts :
    Command.parse minusOneWords = .request minusOneRequest ∧
      Prints twoScores ⟨[.plain "Ash" 1 none], some 3⟩ (box minusOneRequest.top twoScores) ∧
      ∀ t, Prints twoScores t (box minusOneRequest.top twoScores) → ¬ t.AccountsFor twoScores := by
  refine ⟨by decide +kernel, ?_, fun t ht => ?_⟩
  · have htable : tableOf minusOneRequest.top twoScores = ⟨[.plain "Ash" 1 none], some 3⟩ :=
      Table.ext rfl (by decide +kernel)
    rw [← htable]
    exact prints_tableOf minusOneRequest.top twoScores
  · rw [ht.unique (prints_tableOf minusOneRequest.top twoScores)]
    exact not_accountsFor_of_neg (List.cons_ne_nil _ _) (by decide)

end Report

end Roster
