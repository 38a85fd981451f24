import Mathlib.Data.Finset.Card
import Mathlib.Data.List.Nodup
import Mathlib.Logic.Relation
import Roster.Coverage
import Roster.Potentials

/-!
# The rows of a chart that count

Of the rows of a pair the last one counts. A creature sees of a chart the pairs of an own type and a
type of the roster: those that attack it, for what it takes in, and those that it attacks, for what
it gives. So rows may be put in another order, rows of the same pair in front of a later one left
out, and rows of all other pairs added and changed, and neither its scores nor its multipliers in a
team's matrix are others. These edits are all there is: where the rows that count are the same, the
one list can be edited into the other.
-/

namespace Roster

variable {α : Type}

/-- The pair of types that a row charts. -/
def ChartRow.pair (r : ChartRow α) : Int × Int := (r.attacking, r.defending)

namespace TypeChart

/-! ### The last row of a pair -/

/-- The last row of a pair. -/
def lastRow? (rows : List (ChartRow α)) (pair : Int × Int) : Option (ChartRow α) :=
  (rows.filter fun r => r.pair = pair).getLast?

theorem lastRow?_append (rows rows' : List (ChartRow α)) (pair : Int × Int) :
    lastRow? (rows ++ rows') pair = (lastRow? rows' pair).or (lastRow? rows pair) := by
  rw [lastRow?, List.filter_append, List.getLast?_append]
  rfl

theorem lastRow?_singleton (r : ChartRow α) (pair : Int × Int) :
    lastRow? [r] pair = if r.pair = pair then some r else none := by
  unfold lastRow?
  by_cases h : r.pair = pair <;> simp [h]

theorem lastRow?_cons (r : ChartRow α) (rows : List (ChartRow α)) (pair : Int × Int) :
    lastRow? (r :: rows) pair =
      (lastRow? rows pair).or (if r.pair = pair then some r else none) := by
  rw [← lastRow?_singleton]
  exact lastRow?_append [r] rows pair

theorem lastRow?_eq_none_iff {rows : List (ChartRow α)} {pair : Int × Int} :
    lastRow? rows pair = none ↔ ∀ r ∈ rows, r.pair ≠ pair := by
  simp [lastRow?]

theorem multiplier_eq_lastRow? [Scalar α] (rows : List (ChartRow α)) (attacking defending : Int) :
    (ofRows rows).multiplier attacking defending =
      ((lastRow? rows (attacking, defending)).map ChartRow.multiplier).getD 1 := by
  have hlast : lastRow? rows (attacking, defending) =
      rows.reverse.find? fun r => (r.attacking, r.defending) = (attacking, defending) := by
    rw [lastRow?, ← List.head?_filter, List.filter_reverse, List.head?_reverse]
    rfl
  rw [multiplier_ofRows, hlast]

/-- As many pairs are charted as the rows have. -/
theorem size_ofRows (rows : List (ChartRow α)) :
    (ofRows rows).size = (rows.map ChartRow.pair).toFinset.card := by
  have hnodup : (Keyed.keys (ofRows rows).entries).Nodup := Keyed.nodup_keys_ofList _
  have hkeys : (Keyed.keys (ofRows rows).entries).toFinset = (rows.map ChartRow.pair).toFinset := by
    ext pair
    rw [List.mem_toFinset, List.mem_toFinset, ofRows, Keyed.mem_keys_ofList, List.map_map]
    rfl
  rw [size, ← hkeys, List.toFinset_card_of_nodup hnodup, Keyed.keys, List.length_map]

/-! ### Edits -/

/-- Edits of rows that keep the last row of every pair that matters: two rows of different pairs
change places, a row in front of another one of its pair is left out, and a row of a pair that does
not matter is added or changed. -/
inductive Edit (matters : Int × Int → Prop) : List (ChartRow α) → List (ChartRow α) → Prop
  | reordered (before after : List (ChartRow α)) {r r' : ChartRow α} (h : r.pair ≠ r'.pair) :
      Edit matters (before ++ r :: r' :: after) (before ++ r' :: r :: after)
  | shadowed (before after : List (ChartRow α)) {r : ChartRow α}
      (h : ∃ r' ∈ after, r'.pair = r.pair) :
      Edit matters (before ++ r :: after) (before ++ after)
  | added (before after : List (ChartRow α)) {r : ChartRow α} (h : ¬ matters r.pair) :
      Edit matters (before ++ after) (before ++ r :: after)
  | changed (before after : List (ChartRow α)) {r r' : ChartRow α} (h : ¬ matters r.pair)
      (h' : ¬ matters r'.pair) : Edit matters (before ++ r :: after) (before ++ r' :: after)

/-- Rows that edits, done or undone, lead to from each other. -/
abbrev Edited (matters : Int × Int → Prop) : List (ChartRow α) → List (ChartRow α) → Prop :=
  Relation.EqvGen (Edit matters)

section Edits

variable {matters : Int × Int → Prop} {rows rows' : List (ChartRow α)} {pair : Int × Int}

/-- An edit keeps the last row of a pair that matters. -/
theorem Edit.lastRow?_eq (h : Edit matters rows rows') (hpair : matters pair) :
    lastRow? rows pair = lastRow? rows' pair := by
  have hother {r : ChartRow α} (hr : ¬ matters r.pair) : r.pair ≠ pair := fun he => hr (he ▸ hpair)
  cases h with
  | reordered before after h =>
    rename_i r r'
    simp only [lastRow?_append, lastRow?_cons]
    by_cases hr : r.pair = pair
    · simp only [if_neg fun hr' : r'.pair = pair => h (hr.trans hr'.symm), Option.or_none]
    · simp only [if_neg hr, Option.or_none]
  | shadowed before after h =>
    rename_i r
    obtain ⟨r', hr', heq⟩ := h
    simp only [lastRow?_append, lastRow?_cons]
    by_cases hr : r.pair = pair
    · have hsome : (lastRow? after pair).isSome := by
        rw [Option.isSome_iff_ne_none, Ne, lastRow?_eq_none_iff]
        exact fun hnone => hnone r' hr' (heq.trans hr)
      rw [Option.or_of_isSome hsome]
    · rw [if_neg hr, Option.or_none]
  | added before after h =>
    simp only [lastRow?_append, lastRow?_cons, if_neg (hother h), Option.or_none]
  | changed before after h h' =>
    simp only [lastRow?_append, lastRow?_cons, if_neg (hother h), if_neg (hother h')]

theorem Edited.lastRow?_eq (h : Edited matters rows rows') (hpair : matters pair) :
    lastRow? rows pair = lastRow? rows' pair := by
  induction h with
  | rel _ _ h => exact h.lastRow?_eq hpair
  | refl _ => rfl
  | symm _ _ _ ih => exact ih.symm
  | trans _ _ _ _ _ ih₁ ih₂ => exact ih₁.trans ih₂

/-- Behind a further row the same edits can be made. -/
theorem Edited.cons (r : ChartRow α) (h : Edited matters rows rows') :
    Edited matters (r :: rows) (r :: rows') := by
  induction h with
  | rel _ _ h =>
    refine .rel _ _ ?_
    cases h with
    | reordered before after h => exact .reordered (r :: before) after h
    | shadowed before after h => exact .shadowed (r :: before) after h
    | added before after h => exact .added (r :: before) after h
    | changed before after h h' => exact .changed (r :: before) after h h'
  | refl _ => exact .refl _
  | symm _ _ _ ih => exact ih.symm
  | trans _ _ _ _ _ ih₁ ih₂ => exact ih₁.trans _ _ _ ih₂

/-- Rows of pairs that are apart can be put in any order. -/
theorem edited_of_perm (hperm : rows.Perm rows')
    (hrows : rows.Pairwise fun r r' => r.pair ≠ r'.pair) : Edited matters rows rows' := by
  have hsymm : ∀ {r r' : ChartRow α}, r.pair ≠ r'.pair → r'.pair ≠ r.pair := Ne.symm
  induction hperm with
  | nil => exact .refl _
  | cons r _ ih => exact (ih (List.pairwise_cons.1 hrows).2).cons r
  | swap r r' rows =>
    have hne : r'.pair ≠ r.pair := (List.pairwise_cons.1 hrows).1 r List.mem_cons_self
    exact .rel _ _ (.reordered [] rows hne)
  | trans h _ ih₁ ih₂ => exact (ih₁ hrows).trans _ _ _ (ih₂ ((h.pairwise_iff hsymm).1 hrows))

open Classical in
/-- The rows that count: those that are the last ones of a pair that matters. -/
noncomputable def counting (matters : Int × Int → Prop) : List (ChartRow α) → List (ChartRow α)
  | [] => []
  | r :: rows =>
    if matters r.pair ∧ ∀ r' ∈ rows, r'.pair ≠ r.pair then r :: counting matters rows
    else counting matters rows

theorem counting_subset (matters : Int × Int → Prop) (rows : List (ChartRow α)) :
    counting matters rows ⊆ rows := by
  induction rows with
  | nil => exact List.Subset.refl _
  | cons r rows ih =>
    unfold counting
    split
    · exact List.cons_subset_cons r ih
    · exact List.subset_cons_of_subset r ih

theorem pairwise_counting (matters : Int × Int → Prop) (rows : List (ChartRow α)) :
    (counting matters rows).Pairwise fun r r' => r.pair ≠ r'.pair := by
  induction rows with
  | nil => exact .nil
  | cons r rows ih =>
    unfold counting
    split
    · rename_i h
      exact List.pairwise_cons.2 ⟨fun r' hr' => (h.2 r' (counting_subset _ _ hr')).symm, ih⟩
    · exact ih

theorem mem_counting {r : ChartRow α} :
    r ∈ counting matters rows ↔ matters r.pair ∧ lastRow? rows r.pair = some r := by
  induction rows with
  | nil => simp [counting, lastRow?]
  | cons r' rows ih =>
    rw [lastRow?_cons]
    unfold counting
    by_cases hpair : r'.pair = r.pair
    · rw [if_pos hpair, hpair]
      by_cases hlast : ∀ r'' ∈ rows, r''.pair ≠ r.pair
      · rw [lastRow?_eq_none_iff.2 hlast] at ih ⊢
        have hnot : r ∉ counting matters rows := fun hmem => by simp [ih] at hmem
        by_cases hm : matters r.pair
        · rw [if_pos ⟨hm, hlast⟩, List.mem_cons, or_iff_left hnot, eq_comm]
          simp [hm]
        · simp [hm, hnot]
      · have hsome : (lastRow? rows r.pair).isSome := by
          rw [Option.isSome_iff_ne_none, Ne, lastRow?_eq_none_iff]
          exact hlast
        rw [if_neg fun h => hlast h.2, Option.or_of_isSome hsome]
        exact ih
    · have hne : r ≠ r' := fun he => hpair (he ▸ rfl)
      rw [if_neg hpair, Option.or_none]
      split
      · rw [List.mem_cons, or_iff_right hne]
        exact ih
      · exact ih

/-- All other rows can be left out. -/
theorem edited_counting (matters : Int × Int → Prop) (rows : List (ChartRow α)) :
    Edited matters rows (counting matters rows) := by
  induction rows with
  | nil => exact .refl _
  | cons r rows ih =>
    unfold counting
    split
    · exact ih.cons r
    · rename_i h
      refine Relation.EqvGen.trans _ _ _ ?_ ih
      by_cases hm : matters r.pair
      · have hshadow : ∃ r' ∈ rows, r'.pair = r.pair := by simpa using fun hlast => h ⟨hm, hlast⟩
        exact .rel _ _ (.shadowed [] rows hshadow)
      · exact .symm _ _ (.rel _ _ (.added [] rows hm))

/-- Edits lead from rows to all rows of which the same count. -/
theorem edited_iff :
    Edited matters rows rows' ↔
      ∀ pair, matters pair → lastRow? rows pair = lastRow? rows' pair := by
  refine ⟨fun h pair => h.lastRow?_eq, fun h => ?_⟩
  have hnodup (rows : List (ChartRow α)) : (counting matters rows).Nodup :=
    (pairwise_counting matters rows).imp fun hne he => hne (congrArg _ he)
  have hperm : (counting matters rows).Perm (counting matters rows') := by
    refine (List.perm_ext_iff_of_nodup (hnodup rows) (hnodup rows')).2 fun r => ?_
    rw [mem_counting, mem_counting]
    exact and_congr_right fun hr => by rw [h _ hr]
  exact (edited_counting matters rows).trans _ _ _
    ((edited_of_perm hperm (pairwise_counting matters rows)).trans _ _ _
      (edited_counting matters rows').symm)

/-- Edits that keep the last rows of some pairs keep those of fewer. -/
theorem Edited.mono {matters' : Int × Int → Prop} (h : Edited matters rows rows')
    (hmatters : ∀ pair, matters' pair → matters pair) : Edited matters' rows rows' :=
  edited_iff.2 fun _ hpair => h.lastRow?_eq (hmatters _ hpair)

end Edits

/-! ### What a creature sees of a chart -/

/-- Whether a pair is of a type of a roster that attacks and an own type of a creature. -/
def AttacksOn (types : List TypeInfo) (type1 : Int) (type2 : Option Int)
    (pair : Int × Int) : Prop :=
  ∃ t ∈ types, ∃ own ∈ type1 :: type2.toList, pair = (t.id, own)

/-- Whether a pair is of an own type of a creature that attacks and a type of a roster. -/
def AttacksBy (types : List TypeInfo) (type1 : Int) (type2 : Option Int)
    (pair : Int × Int) : Prop :=
  ∃ t ∈ types, ∃ own ∈ type1 :: type2.toList, pair = (own, t.id)

/-- Whether a pair is of a type of a roster and an own type of a creature, either of them
attacking. -/
def Concerns (types : List TypeInfo) (type1 : Int) (type2 : Option Int) (pair : Int × Int) : Prop :=
  AttacksOn types type1 type2 pair ∨ AttacksBy types type1 type2 pair

variable [Scalar α] {chart chart' : TypeChart α} {attacking defending type1 : Int}
  {type2 : Option Int}

theorem against_congr (h : ∀ own ∈ type1 :: type2.toList,
    chart.multiplier attacking own = chart'.multiplier attacking own) :
    chart.against attacking type1 type2 = chart'.against attacking type1 type2 := by
  cases type2 with
  | none => exact h type1 List.mem_cons_self
  | some type2 =>
    exact congrArg₂ (· * ·) (h type1 List.mem_cons_self)
      (h type2 (List.mem_cons_of_mem _ List.mem_cons_self))

theorem bestOffense_congr (h : ∀ own ∈ type1 :: type2.toList,
    chart.multiplier own defending = chart'.multiplier own defending) :
    chart.bestOffense defending type1 type2 = chart'.bestOffense defending type1 type2 := by
  cases type2 with
  | none => exact h type1 List.mem_cons_self
  | some type2 =>
    exact congrArg₂ Scalar.larger (h type1 List.mem_cons_self)
      (h type2 (List.mem_cons_of_mem _ List.mem_cons_self))

end TypeChart

/-! ### Scores and cells -/

namespace Potentials

variable [Scalar α] {chart chart' : TypeChart α} {types : List TypeInfo} {type1 : Int}
  {type2 : Option Int}

/-- What a creature takes in comes from the multipliers of the types that attack it. -/
theorem typeDefenseOf_congr
    (h : ∀ t ∈ types, chart.against t.id type1 type2 = chart'.against t.id type1 type2)
    (bundle : Bundle α) :
    typeDefenseOf bundle type1 type2 types chart =
      typeDefenseOf bundle type1 type2 types chart' := by
  have hfrom : types.map (incomingFrom bundle type1 type2 chart) =
      types.map (incomingFrom bundle type1 type2 chart') :=
    List.map_congr_left fun t ht => by rw [incomingFrom, incomingFrom, h t ht]
  rw [typeDefenseOf, typeDefenseOf, meanIncoming, meanIncoming, hfrom]

variable (h : ∀ t ∈ types, chart.bestOffense t.id type1 type2 = chart'.bestOffense t.id type1 type2)

include h in
/-- What it gives comes from the multipliers of the types that it attacks. -/
theorem stabOf_congr : stabOf type1 type2 types chart = stabOf type1 type2 types chart' := by
  have hsum (c : TypeChart α) :
      types.foldl (fun sum t => sum + stabPowerOf (c.bestOffense t.id type1 type2)) 0 =
        (types.map fun t => c.bestOffense t.id type1 type2).foldl
          (fun sum x => sum + stabPowerOf x) 0 := by
    rw [List.foldl_map]
  rw [stabOf, stabOf, hsum, hsum, List.map_congr_left h]

include h in
theorem fault?_congr (stats : Stats α) (bundle : Bundle α) :
    fault? stats bundle type1 type2 types chart = fault? stats bundle type1 type2 types chart' := by
  have hpower : (∃ t ∈ types, HasNoStabPower (chart.bestOffense t.id type1 type2)) ↔
      ∃ t ∈ types, HasNoStabPower (chart'.bestOffense t.id type1 type2) :=
    exists_congr fun t => and_congr_right fun ht => by rw [h t ht]
  simp only [fault?, hpower]

end Potentials

section Rows

variable [Numeral α] {rows rows' : List (ChartRow α)} {types : List TypeInfo} {type1 : Int}
  {type2 : Option Int}

theorem multiplier_eq_of_edited {matters : Int × Int → Prop} {attacking defending : Int}
    (h : TypeChart.Edited matters rows rows') (hpair : matters (attacking, defending)) :
    (TypeChart.ofRows rows).multiplier attacking defending =
      (TypeChart.ofRows rows').multiplier attacking defending := by
  rw [TypeChart.multiplier_eq_lastRow?, TypeChart.multiplier_eq_lastRow?, h.lastRow?_eq hpair]

theorem against_eq_of_edited
    (h : TypeChart.Edited (TypeChart.AttacksOn types type1 type2) rows rows') :
    ∀ t ∈ types, (TypeChart.ofRows rows).against t.id type1 type2 =
      (TypeChart.ofRows rows').against t.id type1 type2 :=
  fun t ht => TypeChart.against_congr fun own hown =>
    multiplier_eq_of_edited h ⟨t, ht, own, hown, rfl⟩

theorem bestOffense_eq_of_edited
    (h : TypeChart.Edited (TypeChart.AttacksBy types type1 type2) rows rows') :
    ∀ t ∈ types, (TypeChart.ofRows rows).bestOffense t.id type1 type2 =
      (TypeChart.ofRows rows').bestOffense t.id type1 type2 :=
  fun t ht => TypeChart.bestOffense_congr fun own hown =>
    multiplier_eq_of_edited h ⟨t, ht, own, hown, rfl⟩

theorem potentials_eq_of_edited
    (h : TypeChart.Edited (TypeChart.Concerns types type1 type2) rows rows')
    (stats : Stats (Number α)) (tags : List Text) (settings : Settings (Number α)) :
    potentials stats tags type1 type2 types (.ofRows rows) settings =
      potentials stats tags type1 type2 types (.ofRows rows') settings := by
  have hon := against_eq_of_edited (h.mono fun _ => Or.inl)
  have hby := bestOffense_eq_of_edited (h.mono fun _ => Or.inr)
  unfold potentials
  simp only [Potentials.fault?_congr hby, Potentials.ofBundle, Potentials.typeDefenseOf_congr hon,
    Potentials.stabOf_congr hby]

end Rows

namespace Coverage

/-- The column of a slot: its multiplier in every row. -/
def column (matrix : List (MatrixRow α)) (slot : Nat) : List (Option α) :=
  matrix.map fun row => row.multipliers[slot]?.join

/-- A member's column holds its multipliers against the types. -/
theorem column_matrix [Numeral α] {slots : List (Option TeamMember)} {slot : Nat} {m : TeamMember}
    (h : slots[slot]? = some (some m)) (types : List TypeInfo) (chart : TypeChart α) :
    column (matrix slots types chart) slot = types.map fun t => some (multiplier chart t m) := by
  unfold column matrix
  rw [List.map_map]
  refine List.map_congr_left fun t _ => ?_
  simp only [Function.comp_apply, matrixRow, List.getElem?_map, h, Option.map_some,
    Option.join_some]

theorem multiplier_congr [Numeral α] {chart chart' : TypeChart α} {t : TypeInfo} {m : TeamMember}
    (h : chart.against t.id m.type1 m.type2 = chart'.against t.id m.type1 m.type2) :
    multiplier chart t m = multiplier chart' t m := by
  rw [multiplier, multiplier, h]

end Coverage

/-- On a chart the last row of a pair counts, or one if there is none, and there are as many entries
as pairs. Edits lead from rows to all those whose last rows are the same for the pairs that matter.
As long as these are all pairs of a roster's type and an own type, a creature has the same scores;
for what it takes in and its column in the matrix of any team it is enough that they are those in
which the roster's type attacks, for what it gives those in which its own type does. -/
theorem rows_that_count [Numeral α] (rows rows' : List (ChartRow α)) (types : List TypeInfo)
    (type1 : Int) (type2 : Option Int) :
    (∀ attacking defending, (TypeChart.ofRows rows).multiplier attacking defending =
      ((TypeChart.lastRow? rows (attacking, defending)).map ChartRow.multiplier).getD 1) ∧
    (TypeChart.ofRows rows).size = (rows.map ChartRow.pair).toFinset.card ∧
    (∀ matters, TypeChart.Edited matters rows rows' ↔
      ∀ pair, matters pair → TypeChart.lastRow? rows pair = TypeChart.lastRow? rows' pair) ∧
    (TypeChart.Edited (TypeChart.Concerns types type1 type2) rows rows' →
      ∀ (stats : Stats (Number α)) (tags : List Text) (settings : Settings (Number α)),
        potentials stats tags type1 type2 types (.ofRows rows) settings =
          potentials stats tags type1 type2 types (.ofRows rows') settings) ∧
    (TypeChart.Edited (TypeChart.AttacksOn types type1 type2) rows rows' →
      (∀ bundle : Bundle α, Potentials.typeDefenseOf bundle type1 type2 types (.ofRows rows) =
        Potentials.typeDefenseOf bundle type1 type2 types (.ofRows rows')) ∧
      ∀ (slots : List (Option TeamMember)) (slot : Nat) (tags : List Text),
        slots[slot]? = some (some ⟨type1, type2, tags⟩) →
          Coverage.column (Coverage.matrix slots types (.ofRows rows)) slot =
            Coverage.column (Coverage.matrix slots types (.ofRows rows')) slot) ∧
    (TypeChart.Edited (TypeChart.AttacksBy types type1 type2) rows rows' →
      Potentials.stabOf type1 type2 types (.ofRows rows) =
        Potentials.stabOf type1 type2 types (.ofRows rows')) := by
  refine ⟨TypeChart.multiplier_eq_lastRow? rows, TypeChart.size_ofRows rows,
    fun _ => TypeChart.edited_iff, potentials_eq_of_edited, fun h => ?_,
    fun h => Potentials.stabOf_congr (bestOffense_eq_of_edited h)⟩
  have hon := against_eq_of_edited h
  refine ⟨Potentials.typeDefenseOf_congr hon, fun slots slot tags hslot => ?_⟩
  rw [Coverage.column_matrix hslot, Coverage.column_matrix hslot]
  exact List.map_congr_left fun t ht => congrArg some (Coverage.multiplier_congr (hon t ht))

/-- Rows with a shadowed one and one of a type that is not in the roster, and rows without the two,
in another order, with another foreign one. -/
def shadowingRows : List (ChartRow Float) := [⟨1, 2, 2.0⟩, ⟨2, 1, 3.0⟩, ⟨2, 2, 0.5⟩, ⟨1, 2, 0.5⟩]

def plainRows : List (ChartRow Float) := [⟨1, 2, 0.5⟩, ⟨3, 1, 0⟩, ⟨2, 1, 3.0⟩]

/-- Attacked by the roster's type the creature takes half of the damage by either rows, and not
three times as much, as it would give. -/
theorem rows_that_count_shadowing :
    let types : List TypeInfo := [⟨1, "Fire", none, false⟩]
    let slots : List (Option TeamMember) := [none, some ⟨2, none, []⟩]
    TypeChart.Edited (TypeChart.Concerns types 2 none) shadowingRows plainRows ∧
      potentials (.const (.whole 50)) ["resist:fire"] 2 none types (.ofRows shadowingRows)
          Settings.default.written =
        potentials (.const (.whole 50)) ["resist:fire"] 2 none types (.ofRows plainRows)
          Settings.default.written ∧
      Coverage.column (Coverage.matrix slots types (.ofRows shadowingRows)) 1 =
        Coverage.column (Coverage.matrix slots types (.ofRows plainRows)) 1 ∧
      Coverage.column (Coverage.matrix slots types (.ofRows plainRows)) 1 = [some 0.5] := by
  intro types slots
  obtain ⟨-, -, hedited, hscores, hcells, -⟩ := rows_that_count shadowingRows plainRows types 2 none
  have hrows : TypeChart.Edited (TypeChart.Concerns types 2 none) shadowingRows plainRows := by
    refine (hedited _).2 ?_
    simp only [TypeChart.Concerns, TypeChart.AttacksOn, TypeChart.AttacksBy, types,
      List.mem_singleton, Option.toList_none, exists_eq_left]
    rintro pair (rfl | rfl)
    · decide +kernel
    · decide +kernel
  refine ⟨hrows, hscores hrows _ _ _, ?_, by decide +kernel⟩
  exact (hcells (hrows.mono fun _ => Or.inl)).2 slots 1 [] rfl

end Roster
