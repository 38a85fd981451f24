import Roster.Proofs.Analysis.Total
import Roster.Proofs.Game.Box
import Roster.Proofs.Potentials.Sides

/-!
# The ranking of a box

Creatures are ranked by three keys, the last of them their id. All ranks are numbers, so that the
order is total and the ranking sorted, whatever was scored. A creature's score does not depend on
the rest of the box; hence neither does its standing against another one.
-/

namespace Roster

open Scalar

/-! ### Sorted lists -/

section Sorted

variable {β : Type} {le : β → β → Bool} (trans : ∀ a b c, le a b → le b c → le a c)
  (total : ∀ a b, le a b || le b a)

include trans total in
/-- What is put in front of a list comes to stand, when it is sorted, before all that it does not go
behind. -/
theorem mergeSort_cons_eq (a : β) (l : List β) :
    (a :: l).mergeSort le =
      ((l.mergeSort le).filter fun b => !le a b) ++ a :: (l.mergeSort le).filter (le a) := by
  obtain ⟨l₁, l₂, hcons, hl, hbefore⟩ := List.mergeSort_cons trans total a l
  have hsorted := List.pairwise_mergeSort trans total (a :: l)
  rw [hcons] at hsorted
  have hafter : ∀ b ∈ l₂, le a b = true :=
    (List.pairwise_cons.1 (List.pairwise_append.1 hsorted).2.1).1
  have h₁ : l₁.filter (fun b => !le a b) = l₁ := List.filter_eq_self.2 hbefore
  have h₁' : l₁.filter (le a) = [] := List.filter_eq_nil_iff.2 fun b hb => by
    simpa using hbefore b hb
  have h₂ : l₂.filter (fun b => !le a b) = [] := List.filter_eq_nil_iff.2 fun b hb => by
    simp [hafter b hb]
  have h₂' : l₂.filter (le a) = l₂ := List.filter_eq_self.2 hafter
  rw [hcons, hl, List.filter_append, List.filter_append, h₁, h₁', h₂, h₂', List.append_nil,
    List.nil_append]

include trans total in
/-- Some elements of a list stand, when they are sorted, as they stand in the sorted list. -/
theorem mergeSort_sublist_mergeSort {l l' : List β} (h : l'.Sublist l) :
    (l'.mergeSort le).Sublist (l.mergeSort le) := by
  induction h with
  | slnil => exact List.Sublist.refl _
  | cons a _ ih =>
    obtain ⟨l₁, l₂, hcons, hl, -⟩ := List.mergeSort_cons trans total a _
    rw [hcons]
    rw [hl] at ih
    exact ih.trans ((List.sublist_cons_self a l₂).append_left l₁)
  | cons_cons a _ ih =>
    rw [mergeSort_cons_eq trans total, mergeSort_cons_eq trans total]
    exact (ih.filter _).append ((ih.filter _).cons_cons a)

include trans total in
/-- Sorting what a condition picks out is picking it out of what is sorted. -/
theorem mergeSort_filter (p : β → Bool) (l : List β) :
    (l.filter p).mergeSort le = (l.mergeSort le).filter p := by
  have hpicked : ((l.filter p).mergeSort le).filter p = (l.filter p).mergeSort le := by
    refine List.filter_eq_self.2 fun b hb => ?_
    exact List.of_mem_filter ((List.mergeSort_perm _ le).mem_iff.1 hb)
  have hsub : ((l.filter p).mergeSort le).Sublist ((l.mergeSort le).filter p) := by
    rw [← hpicked]
    exact (mergeSort_sublist_mergeSort trans total List.filter_sublist).filter p
  refine hsub.eq_of_length ?_
  rw [(List.mergeSort_perm _ le).length_eq, ((List.mergeSort_perm l le).filter p).length_eq]

end Sorted

/-- Some elements of a list whose keys are apart are those with certain keys. -/
theorem sublist_eq_filter {β κ : Type} [DecidableEq κ] {key : β → κ} {l l' : List β}
    (h : l'.Sublist l) (hn : (l.map key).Nodup) :
    l' = l.filter fun x => l'.any fun y => key y == key x := by
  induction h with
  | slnil => rfl
  | @cons l' l a hl ih =>
    rw [List.map_cons, List.nodup_cons] at hn
    have ha : ¬ l'.any fun y => key y == key a := by
      intro hany
      obtain ⟨y, hy, hkey⟩ := List.any_eq_true.1 hany
      exact hn.1 (List.mem_map.2 ⟨y, hl.mem hy, eq_of_beq hkey⟩)
    rw [List.filter_cons, if_neg ha]
    exact ih hn.2
  | @cons_cons l' l a hl ih =>
    rw [List.map_cons, List.nodup_cons] at hn
    have ha : (a :: l').any fun y => key y == key a := by simp
    rw [List.filter_cons, if_pos ha]
    refine congrArg (a :: ·) ((ih hn.2).trans (List.filter_congr fun x hx => ?_))
    have hne : (key a == key x) = false := beq_false_of_ne fun he =>
      hn.1 (List.mem_map.2 ⟨x, hx, he.symm⟩)
    rw [List.any_cons, hne, Bool.false_or]

/-! ### The order of scores -/

namespace Score

variable {α : Type} [Scalar α]

/-- Whether a score may stand in front of another one: its rank is no lower, at one rank its dex
number is no higher, and with one dex number its box id is no higher. -/
def InFront (s t : Score α) : Prop :=
  t.potentials.rank ≤ s.potentials.rank ∧
    (s.potentials.rank ≤ t.potentials.rank →
      s.dexNumber ≤ t.dexNumber ∧ (s.dexNumber = t.dexNumber → s.boxId ≤ t.boxId))

/-- A score whose rank is a number. -/
abbrev Numbered (α : Type) [Scalar α] : Type :=
  { s : Score α // s.potentials.rank ≤ s.potentials.rank }

variable [LawfulOrder α]

theorem InFront.trans {s t u : Score α} (hst : s.InFront t) (htu : t.InFront u) : s.InFront u := by
  refine ⟨LawfulOrder.le_trans htu.1 hst.1, fun hsu => ?_⟩
  obtain ⟨hdex, hid⟩ := hst.2 (LawfulOrder.le_trans hsu htu.1)
  obtain ⟨hdex', hid'⟩ := htu.2 (LawfulOrder.le_trans hst.1 hsu)
  omega

theorem inFront_total (s t : Numbered α) : s.1.InFront t.1 ∨ t.1.InFront s.1 := by
  by_cases hst : s.1.potentials.rank ≤ t.1.potentials.rank
  · by_cases hts : t.1.potentials.rank ≤ s.1.potentials.rank
    · have hkeys : (s.1.dexNumber ≤ t.1.dexNumber ∧
          (s.1.dexNumber = t.1.dexNumber → s.1.boxId ≤ t.1.boxId)) ∨
          (t.1.dexNumber ≤ s.1.dexNumber ∧
            (t.1.dexNumber = s.1.dexNumber → t.1.boxId ≤ s.1.boxId)) := by omega
      exact hkeys.imp (fun h => ⟨hts, fun _ => h⟩) fun h => ⟨hst, fun _ => h⟩
    · exact Or.inr ⟨hst, fun h => absurd h hts⟩
  · have hts := (LawfulOrder.le_total s.2 t.2).resolve_left hst
    exact Or.inl ⟨hts, fun h => absurd h hst⟩

/-- Where ranks are numbers, scores are compared by the three keys. -/
theorem before_iff (s t : Numbered α) : before s.1 t.1 = true ↔ s.1.InFront t.1 := by
  unfold before InFront
  by_cases hts : t.1.potentials.rank ≤ s.1.potentials.rank
  · by_cases hst : s.1.potentials.rank ≤ t.1.potentials.rank
    · rw [if_neg (not_lt_of_le hst), if_neg (not_lt_of_le hts)]
      split
      · simp only [decide_eq_true_eq, hts, hst, true_and, forall_const]
        omega
      · simp only [decide_eq_true_eq, hts, hst, true_and, forall_const]
        omega
    · rw [if_pos (LawfulOrder.lt_iff.2 ⟨hts, hst⟩)]
      exact iff_of_true rfl ⟨hts, fun h => absurd h hst⟩
  · have hst := (LawfulOrder.le_total s.2 t.2).resolve_right hts
    rw [if_neg (not_lt_of_le hst), if_pos (LawfulOrder.lt_iff.2 ⟨hst, hts⟩)]
    exact iff_of_false Bool.false_ne_true fun h => hts h.1

theorem before_trans (s t u : Numbered α) :
    before s.1 t.1 → before t.1 u.1 → before s.1 u.1 := by
  simp only [before_iff]
  exact InFront.trans

theorem before_total (s t : Numbered α) : before s.1 t.1 || before t.1 s.1 := by
  rw [Bool.or_eq_true, before_iff, before_iff]
  exact inFront_total s t

/-! ### Rankings -/

variable {scores scores' : List (Score α)}

omit [LawfulOrder α] in
theorem ranking_map (l : List (Numbered α)) :
    ranking (l.map Subtype.val) = (l.mergeSort fun s t => before s.1 t.1).map Subtype.val := by
  unfold ranking
  exact (List.map_mergeSort (f := Subtype.val) (s := before) fun _ _ _ _ => rfl).symm

variable (h : ∀ s ∈ scores, s.potentials.rank ≤ s.potentials.rank)

include h in
/-- A ranking is sorted by the three keys. -/
theorem pairwise_ranking : (ranking scores).Pairwise InFront := by
  lift scores to List (Numbered α) using h
  rw [ranking_map, List.pairwise_map]
  exact (List.pairwise_mergeSort before_trans before_total scores).imp fun hst =>
    (before_iff _ _).1 hst

include h in
/-- Scores that stand in order already keep it, those that tie in all among them. -/
theorem sublist_ranking {kept : List (Score α)} (hk : kept.Sublist scores)
    (hp : kept.Pairwise InFront) : kept.Sublist (ranking scores) := by
  lift scores to List (Numbered α) using h
  obtain ⟨kept, hkept, rfl⟩ := List.sublist_map_iff.1 hk
  rw [ranking_map]
  refine (List.sublist_mergeSort before_trans before_total ?_ hkept).map _
  exact (List.pairwise_map.1 hp).imp fun hst => (before_iff _ _).2 hst

include h in
/-- Some of the scores are ranked among themselves as they are among all. -/
theorem ranking_sublist_ranking (hs : scores'.Sublist scores) :
    (ranking scores').Sublist (ranking scores) := by
  lift scores to List (Numbered α) using h
  obtain ⟨scores', hscores, rfl⟩ := List.sublist_map_iff.1 hs
  rw [ranking_map, ranking_map]
  exact (mergeSort_sublist_mergeSort before_trans before_total hscores).map _

include h in
/-- Scores of different creatures are ranked alike in whatever order they come. -/
theorem ranking_eq_of_perm (hp : scores'.Perm scores) (hn : (scores.map Score.boxId).Nodup) :
    ranking scores' = ranking scores := by
  have h' : ∀ s ∈ scores', s.potentials.rank ≤ s.potentials.rank :=
    fun s hs => h s (hp.mem_iff.1 hs)
  refine List.Perm.eq_of_pairwise (fun s t hs ht hst hts => ?_) (pairwise_ranking h')
    (pairwise_ranking h) ((ranking_perm scores').trans (hp.trans (ranking_perm scores).symm))
  have hs := hp.mem_iff.1 ((ranking_perm scores').mem_iff.1 hs)
  have ht := (ranking_perm scores).mem_iff.1 ht
  obtain ⟨hdex, hid⟩ := hst.2 hts.1
  obtain ⟨hdex', hid'⟩ := hts.2 hst.1
  exact List.inj_on_of_nodup_map hn hs ht (by omega)

include h in
/-- Scores that are left out leave the ranking as it is but for themselves. -/
theorem ranking_eq_filter (hs : scores'.Sublist scores) (hn : (scores.map Score.boxId).Nodup) :
    ranking scores' = (ranking scores).filter fun s => scores'.any fun t => t.boxId == s.boxId := by
  have hn' : ((ranking scores).map Score.boxId).Nodup :=
    ((ranking_perm scores).map Score.boxId).nodup_iff.2 hn
  refine (sublist_eq_filter (ranking_sublist_ranking h hs) hn').trans
    (List.filter_congr fun s _ => ?_)
  exact (ranking_perm scores').any_eq

end Score

/-! ### The scores of a box -/

namespace Analyzer

variable {α : Type} [Numeral α] {a : Analyzer α} {g : Game α}

/-- The score of a box entry, if it can be scored. -/
def score? (a : Analyzer α) (g : Game α) (e : BoxEntry) : Option (Score α) :=
  (a.score g e).toOption

theorem score?_eq_some_iff {e : BoxEntry} {s : Score α} :
    a.score? g e = some s ↔ a.score g e = .ok s :=
  toOption_eq_some

theorem forall₂_score {entries : List BoxEntry} (h : ∀ e ∈ entries, ∃ s, a.score g e = .ok s) :
    List.Forall₂ (fun e s => a.score g e = .ok s) entries (entries.filterMap (a.score? g)) := by
  induction entries with
  | nil => exact .nil
  | cons e rest ih =>
    obtain ⟨⟨s, hs⟩, hrest⟩ := List.forall_mem_cons.1 h
    rw [List.filterMap_cons_some (score?_eq_some_iff.2 hs)]
    exact .cons hs (ih hrest)

theorem scoreAll_eq_ok {entries : List BoxEntry} {scores : List (Score α)}
    (h : List.Forall₂ (fun e s => a.score g e = .ok s) entries scores) :
    (a.scoreAll g entries).1 = .ok scores := by
  induction h with
  | nil => rfl
  | cons hs _ ih =>
    unfold scoreAll
    simp only [hs, ih]
    rfl

/-- Entries that are scored have their scores one by one. -/
theorem forall₂_of_scoreAll {entries : List BoxEntry} {scores : List (Score α)}
    (h : (a.scoreAll g entries).1 = .ok scores) :
    List.Forall₂ (fun e s => a.score g e = .ok s) entries scores := by
  induction entries generalizing scores with
  | nil =>
    cases h
    exact .nil
  | cons e rest ih =>
    unfold scoreAll at h
    cases hs : a.score g e with
    | error fault =>
      simp only [hs] at h
      cases h
    | ok s =>
      simp only [hs] at h
      obtain ⟨more, hmore, rfl⟩ := map_eq_ok.1 h
      exact .cons hs (ih hmore)

/-- A box of which every creature is scored is ranked. -/
theorem box_eq_ok_ranking (h : ∀ e ∈ g.box, ∃ s, a.score g e = .ok s) :
    (a.box g).1 = .ok (Score.ranking (g.box.filterMap (a.score? g))) :=
  box_eq_ok (scoreAll_eq_ok (forall₂_score h))

/-- A box that is ranked is scored to the end. -/
theorem exists_ranking_of_box {scores : List (Score α)} (h : (a.box g).1 = .ok scores) :
    ∃ unranked, (a.scoreAll g g.box).1 = .ok unranked ∧ Score.ranking unranked = scores := by
  unfold box at h
  split at h
  · cases h
  · rename_i unranked notices hall
    exact ⟨unranked, by rw [hall], Except.ok.inj h⟩

/-- A creature that is scored has the scores of its form and tags, and the names of its types. -/
theorem exists_potentials_of_score {e : BoxEntry} {s : Score α} (h : a.score g e = .ok s) :
    ∃ species p, Keyed.get? e.speciesId g.species = some species ∧
      a.potentialsOf g e species = .ok p ∧
      let form := species.formUnder (Keyed.get? species.id g.changes)
      ∃ names, typeNames? g form.type1 form.type2 = some names ∧
        a.scoreWith g e species p names = s := by
  unfold score at h
  split at h
  · cases h
  · rename_i species hs
    split at h
    · cases h
    · rename_i p hp
      dsimp only at h
      split at h
      · cases h
      · rename_i names hnames
        exact ⟨species, p, hs, hp, names, hnames, Except.ok.inj h⟩

/-- The scores are made of the stats of the creature's form and of the bundle that its tags give to
a holder of its types. -/
theorem exists_ofBundle_of_score {e : BoxEntry} {s : Score α} (h : a.score g e = .ok s) :
    ∃ species stats t, Keyed.get? e.speciesId g.species = some species ∧
      Potentials.scalarStats? (species.formUnder (Keyed.get? species.id g.changes)).stats =
        some stats ∧
      Potentials.scalarSettings? a.settings = some t ∧
      s.potentials =
        .ofBundle stats (Bundle.resolve s.tags (holderTypeNames s.type1 s.type2 a.types)) s.type1
          s.type2 a.types a.chart t := by
  obtain ⟨species, p, hs, hp, names, -, rfl⟩ := exists_potentials_of_score h
  obtain ⟨stats, t, hstats, -, ht, hbundle⟩ := (potentials_eq_ok_iff _ _ _).1 hp
  exact ⟨species, stats, t, hs, hstats, ht, hbundle.symm⟩

theorem boxId_of_score {e : BoxEntry} {s : Score α} (h : a.score g e = .ok s) : s.boxId = e.id := by
  obtain ⟨species, p, -, -, names, -, rfl⟩ := exists_potentials_of_score h
  rfl

/-- Ranks are brought back into the finite range, so that they are numbers. -/
theorem rank_le_self_of_score [LawfulOrder α] {e : BoxEntry} {s : Score α}
    (h : a.score g e = .ok s) : s.potentials.rank ≤ s.potentials.rank := by
  obtain ⟨species, stats, t, -, -, -, hp⟩ := exists_ofBundle_of_score h
  rw [hp]
  exact (finite_saturate _).le_self

theorem map_boxId_filterMap {entries : List BoxEntry}
    (h : ∀ e ∈ entries, ∃ s, a.score g e = .ok s) :
    (entries.filterMap (a.score? g)).map Score.boxId = entries.map BoxEntry.id := by
  induction entries with
  | nil => rfl
  | cons e rest ih =>
    obtain ⟨⟨s, hs⟩, hrest⟩ := List.forall_mem_cons.1 h
    rw [List.filterMap_cons_some (score?_eq_some_iff.2 hs), List.map_cons, List.map_cons,
      boxId_of_score hs, ih hrest]

end Analyzer

/-! ### Games that are read -/

namespace Game

variable {α : Type} [Numeral α]

/-- The ranking of a game's box under a change of its settings. -/
def ranking (c : SettingsChange α) (g : Game α) : Except ScoreError (List (Score α)) :=
  ((Analyzer.ofGame g (g.settings.change c).written).box g).1

/-- A creature is scored alike whatever else is in the box and whoever is in the team. -/
theorem ranking_with_box {c : SettingsChange α} {g : Game α} {box : List BoxEntry}
    (team : List (Option Int))
    (h : ∀ e ∈ box, ∃ s, (Analyzer.ofGame g (g.settings.change c).written).score g e = .ok s) :
    ranking c { g with box, team } = .ok (Score.ranking
      (box.filterMap ((Analyzer.ofGame g (g.settings.change c).written).score? g))) :=
  Analyzer.box_eq_ok_ranking (g := { g with box, team }) h

/-- The box of a game that is read is ranked: all its creatures, sorted by the three keys, those
that tie in all as in the document. With ids that are apart, the order of the document does not
count; and creatures that are left out leave the ranking as it is but for themselves. The document
can be shown, as any that a text holds can (`Json.isWritable_of_ofText`). -/
theorem ranking_of_read [LawfulScalar α] [LawfulWeights α] {given : Option Text} {v : Json α}
    {g : Game α} (hv : v.isWritable) (h : (read given v).result = .ok g) (c : SettingsChange α) :
    ∃ scores ranked,
      List.Forall₂
        (fun e s => (Analyzer.ofGame g (g.settings.change c).written).score g e = .ok s)
        g.box scores ∧
      ranking c g = .ok ranked ∧ ranked.Perm scores ∧ ranked.Pairwise Score.InFront ∧
      (∀ kept : List (Score α), kept.Sublist scores → kept.Pairwise Score.InFront →
        kept.Sublist ranked) ∧
      ∀ r items items', v = .object r → Json.member "box" r = .array items →
        ((g.box.map BoxEntry.id).Nodup → items'.Perm items →
          ∃ g', (read given (.object (withBox items' r))).result = .ok g' ∧
            g'.box.Perm g.box ∧ ranking c g' = .ok ranked) ∧
        (items'.Sublist items →
          ∃ g' ranked', (read given (.object (withBox items' r))).result = .ok g' ∧
            g'.box.Sublist g.box ∧ ranking c g' = .ok ranked' ∧ ranked'.Sublist ranked ∧
            ((g.box.map BoxEntry.id).Nodup →
              ranked' = ranked.filter fun s => g'.box.any fun e => e.id == s.boxId)) := by
  have hg := wellFormed_of_read h
  have ht := Potentials.scalarSettings?_written (g.settings.change c)
  have hscore : ∀ e ∈ g.box,
      ∃ s, (Analyzer.ofGame g (g.settings.change c).written).score g e = .ok s := fun e he =>
    Analyzer.exists_score hg ht he (showsTypes_of_read hv h e)
  have hforall := Analyzer.forall₂_score hscore
  have hids := Analyzer.map_boxId_filterMap hscore
  have hnumber : ∀ s ∈ g.box.filterMap ((Analyzer.ofGame g (g.settings.change c).written).score? g),
      s.potentials.rank ≤ s.potentials.rank := by
    intro s hs
    obtain ⟨e, -, he⟩ := List.mem_filterMap.1 hs
    exact Analyzer.rank_le_self_of_score (Analyzer.score?_eq_some_iff.1 he)
  refine ⟨_, _, hforall, Analyzer.box_eq_ok_ranking hscore, Score.ranking_perm _,
    Score.pairwise_ranking hnumber, fun kept hk hp => Score.sublist_ranking hnumber hk hp, ?_⟩
  rintro r items items' rfl hbox
  constructor
  · intro hn hitems
    obtain ⟨box, team, hread, hperm⟩ := read_withBox_of_perm h hbox hitems
    refine ⟨_, hread, hperm, ?_⟩
    rw [ranking_with_box team fun e he => hscore e (hperm.mem_iff.1 he),
      Score.ranking_eq_of_perm hnumber (hperm.filterMap _) (hids ▸ hn)]
  · intro hitems
    obtain ⟨box, team, hread, hsub⟩ := read_withBox_of_sublist h hbox hitems
    have hscore' := fun e he => hscore e (hsub.mem he)
    refine ⟨_, _, hread, hsub, ranking_with_box team hscore',
      Score.ranking_sublist_ranking hnumber (hsub.filterMap _), fun hn => ?_⟩
    rw [Score.ranking_eq_filter hnumber (hsub.filterMap _) (hids ▸ hn)]
    refine List.filter_congr fun s _ => ?_
    have hany := congrArg (List.any · (· == s.boxId)) (Analyzer.map_boxId_filterMap hscore')
    simpa only [List.any_map, Function.comp_def] using hany

/-- A creature of the only species in the box of a document. -/
def boxItem (id : Int) : Json Float :=
  .record [("id", .number (.whole id)), ("species_id", .number (.whole 1))]

/-- A document with two creatures that differ in their ids alone. -/
def pairMembers : Record Float :=
  [("types", .array [.record [("id", .number (.whole 1)), ("name", .string "Plain")]]),
    ("species", .array [.record
      ([("id", .number (.whole 1)), ("name", .string "Lone"), ("type1_id", .number (.whole 1))]
        ++ Stat.all.map fun stat => (stat.key, .number (.whole 80)))]),
    ("box", .array [boxItem 2, boxItem 1])]

theorem read_pairMembers :
    ∃ g, (read none (.object pairMembers)).result = .ok g ∧ g.box.map BoxEntry.id = [2, 1] := by
  have h : (read none (.object pairMembers)).result.toOption.map (fun g => g.box.map BoxEntry.id) =
      some [2, 1] := by
    decide +kernel
  obtain ⟨g, hg, hbox⟩ := Option.map_eq_some_iff.1 h
  exact ⟨g, toOption_eq_some.1 hg, hbox⟩

/-- The one with the lower id comes first, wherever it stands and whether the other one is there. -/
theorem ranking_of_read_pair :
    ∃ g ranked, (read none (.object pairMembers)).result = .ok g ∧ ranking {} g = .ok ranked ∧
      ranked.Pairwise Score.InFront ∧
      (∃ g', (read none (.object (withBox [boxItem 1, boxItem 2] pairMembers))).result = .ok g' ∧
        ranking {} g' = .ok ranked) ∧
      ∃ g' ranked', (read none (.object (withBox [boxItem 1] pairMembers))).result = .ok g' ∧
        ranking {} g' = .ok ranked' ∧
        ranked' = ranked.filter fun s => g'.box.any fun e => e.id == s.boxId := by
  obtain ⟨g, hg, hids⟩ := read_pairMembers
  have hn : (g.box.map BoxEntry.id).Nodup := by
    rw [hids]
    decide
  obtain ⟨scores, ranked, -, hranked, -, hsorted, -, hbox⟩ :=
    ranking_of_read (by decide +kernel) hg {}
  obtain ⟨g', hread, -, hranked'⟩ :=
    (hbox _ _ [boxItem 1, boxItem 2] rfl rfl).1 hn (List.Perm.swap ..)
  obtain ⟨g'', ranked'', hread', -, hranked'', -, hfilter⟩ :=
    (hbox _ _ [boxItem 1] rfl rfl).2 (List.sublist_cons_self ..)
  exact ⟨g, ranked, hg, hranked, hsorted, ⟨g', hread, hranked'⟩, g'', ranked'', hread', hranked'',
    hfilter hn⟩

end Game

end Roster
