import Roster.Analysis
import Roster.Proofs.Double.Laws
import Roster.Proofs.Game.Writable
import Roster.Proofs.Potentials.Checked

/-!
# Analysis of well-formed games

A well-formed game is analysed to the end: every creature of its box has scores, which are finite
and not below zero, and so has every slot of its team that is not empty. Checked operations refuse
nothing on the way.
-/

namespace Roster

open Scalar

variable {α : Type}

/-! ### Scores of one creature -/

namespace Potentials

theorem exists_ofFnM {β : Type} {f : Stat → Option β} {P : β → Prop}
    (h : ∀ stat, ∃ x, f stat = some x ∧ P x) :
    ∃ s, Stats.ofFnM f = some s ∧ ∀ stat, P (s.get stat) := by
  choose x hx hP using h
  refine ⟨.ofFn x, ofFnM_eq_some_iff.2 fun stat => ?_, fun stat => ?_⟩
  · rw [Stats.get_ofFn]
    exact hx stat
  · rw [Stats.get_ofFn]
    exact hP stat

/-- Amounts as they are written are amounts as scalars. -/
theorem exists_scalarStats? [Scalar α] {stats : Stats (Number α)}
    (h : ∀ stat, (stats.get stat).Amount) :
    ∃ s, scalarStats? stats = some s ∧ ∀ stat, Amount (s.get stat) :=
  exists_ofFnM h

/-- Settings that are scalars already are left as they are. -/
@[simp] theorem scalarSettings?_written [Scalar α] (s : Settings α) :
    scalarSettings? s.written = some s := by
  obtain ⟨preset, damage, chance, abilities, items⟩ := s
  cases chance <;> rfl

theorem exists_scalarSettings? [Scalar α] {settings : Settings (Number α)}
    (h : settings.critDamage.Amount) :
    ∃ s, scalarSettings? settings = some s ∧ Amount s.critDamage := by
  obtain ⟨x, hx, ha⟩ := h
  refine ⟨{ settings with
    critDamage := x, critChance := settings.critChance.bind Number.toScalar? }, ?_, ha⟩
  unfold scalarSettings?
  rw [hx]
  rfl

variable [Scalar α] [LawfulScalar α]

/-- Amounts have all the roots and powers that their scores need. -/
theorem fault?_eq_none {stats : Stats α} (hs : ∀ stat, Amount (stats.get stat))
    {bundle : Bundle α} (hb : bundle.Sound) (type1 : Int) (type2 : Option Int)
    (types : List TypeInfo) {chart : TypeChart α} (hc : chart.Sound) :
    fault? stats bundle type1 type2 types chart = none := by
  have hstat := amount_adjusted hs hb
  have hbulk (stat : Stat) :
      ¬ bulkProduct (adjusted stats bundle).hp ((adjusted stats bundle).get stat) < 0 :=
    (amount_bulkProduct hstat stat).not_neg
  unfold fault?
  dsimp only
  rw [if_neg, if_neg]
  · rintro ⟨t, -, hneg, -⟩
    exact hc.not_neg_bestOffense t.id type1 type2 hneg
  · rintro (h | h)
    · exact hbulk .defense h
    · exact hbulk .specialDefense h

end Potentials

section Potentials

variable [Numeral α] [LawfulScalar α]

/-- Amounts have scores. -/
theorem exists_potentials {stats : Stats (Number α)} (hs : ∀ stat, (stats.get stat).Amount)
    (tags : List Text) (type1 : Int) (type2 : Option Int) (types : List TypeInfo)
    {chart : TypeChart α} (hc : chart.Sound) {settings : Settings (Number α)} {t : Settings α}
    (ht : Potentials.scalarSettings? settings = some t) :
    ∃ s, Potentials.scalarStats? stats = some s ∧ (∀ stat, Amount (s.get stat)) ∧
      potentials stats tags type1 type2 types chart settings =
        .ok (.ofBundle s (Bundle.resolve tags (holderTypeNames type1 type2 types)) type1 type2 types
          chart t) := by
  obtain ⟨s, hs, hsa⟩ := Potentials.exists_scalarStats? hs
  refine ⟨s, hs, hsa, ?_⟩
  have hfault := Potentials.fault?_eq_none hsa
    (Bundle.sound_resolve tags (holderTypeNames type1 type2 types)) type1 type2 types hc
  unfold potentials
  simp only [hs, hfault, ht]

end Potentials

/-! ### Games -/

/-- What is scored under a key, or the refusal of a key that leads nowhere. -/
def Checked.lookup {β : Type} (key : Int) (all : Keyed Int β) : Except Checked.Fault β :=
  match Keyed.get? key all with
  | none => .error .noEntry
  | some x => .ok x

/-- A scalar that a whole number may be too large for. -/
def Checked.scalar {β : Type} : Option β → Except Checked.Fault β
  | none => .error .overflow
  | some x => .ok x

/-- The potentials of a box entry, with checked operations. -/
def Checked.potentialsOf [Numeral α] (a : Analyzer α) (g : Game α) (e : BoxEntry) :
    Except Checked.Fault (Potentials α) := do
  let s ← Checked.lookup e.speciesId g.species
  let form := s.formUnder (Keyed.get? s.id g.changes)
  let bundle := Bundle.resolve (a.tags g e s) (holderTypeNames form.type1 form.type2 a.types)
  let stats ← Checked.scalar (Potentials.scalarStats? form.stats)
  let settings ← Checked.scalar (Potentials.scalarSettings? a.settings)
  Checked.ofBundle stats bundle form.type1 form.type2 a.types a.chart settings

namespace Game.WellFormed

variable [Scalar α] {g : Game α}

theorem form_stats (h : g.WellFormed) {id : Int} {s : Species α}
    (hs : Keyed.get? id g.species = some s) (stat : Stat) :
    ((s.formUnder (Keyed.get? s.id g.changes)).stats.get stat).Amount := by
  have hstat := h.stats _ (Keyed.mem_of_get? hs) stat
  cases hc : Keyed.get? s.id g.changes with
  | none => exact hstat
  | some c =>
    unfold Species.formUnder
    rw [Stats.get_ofFn]
    cases hn : c.stats.get stat with
    | none => exact hstat
    | some n => exact h.changes _ (Keyed.mem_of_get? hc) stat n hn

theorem chart_sound (h : g.WellFormed) : (TypeChart.ofRows g.chart).Sound :=
  TypeChart.sound_ofRows h.chart

end Game.WellFormed

namespace Analyzer

section Entries

variable [Numeral α] {a : Analyzer α} {g : Game α}

omit [Numeral α] in
theorem isSome_typeNames?_iff {type1 : Int} {type2 : Option Int} :
    (typeNames? g type1 type2).isSome ↔
      ∀ id ∈ type1 :: type2.toList, (Decimal.wholeText? id).isSome := by
  rw [typeNames?, isSome_mapM_iff]
  refine forall₂_congr fun id _ => ?_
  rw [typeName?, Option.isSome_map]

/-- A creature with potentials is scored with the names of its types, or these cannot be shown. -/
theorem score_cases {e : BoxEntry} {species : Species α} {p : Potentials α}
    (hs : Keyed.get? e.speciesId g.species = some species)
    (hp : a.potentialsOf g e species = .ok p) :
    (g.ShowsTypes e ∧ ∃ names, a.score g e = .ok (a.scoreWith g e species p names)) ∨
      (¬ g.ShowsTypes e ∧ a.score g e = .error .typeTooLong) := by
  have hshows : g.ShowsTypes e ↔
      (typeNames? g (species.formUnder (Keyed.get? species.id g.changes)).type1
        (species.formUnder (Keyed.get? species.id g.changes)).type2).isSome := by
    rw [isSome_typeNames?_iff, Game.ShowsTypes, hs]
    exact ⟨fun h => h species rfl, fun h _ hspecies => Option.some.inj hspecies ▸ h⟩
  rw [hshows]
  unfold score
  simp only [hs, hp]
  cases typeNames? g (species.formUnder (Keyed.get? species.id g.changes)).type1
      (species.formUnder (Keyed.get? species.id g.changes)).type2 with
  | none => exact .inr ⟨Bool.false_ne_true, rfl⟩
  | some names => exact .inl ⟨rfl, names, rfl⟩

theorem exists_scoreAll {entries : List BoxEntry} (h : ∀ e ∈ entries, ∃ s, a.score g e = .ok s) :
    ∃ scores, (a.scoreAll g entries).1 = .ok scores := by
  induction entries with
  | nil => exact ⟨[], rfl⟩
  | cons e rest ih =>
    obtain ⟨⟨s, hs⟩, hrest⟩ := List.forall_mem_cons.1 h
    obtain ⟨scores, hscores⟩ := ih hrest
    refine ⟨s :: scores, ?_⟩
    unfold scoreAll
    simp only [hs, hscores]
    rfl

/-- A box that is scored to the end is ranked. -/
theorem box_eq_ok {scores : List (Score α)} (h : (a.scoreAll g g.box).1 = .ok scores) :
    (a.box g).1 = .ok (Score.ranking scores) := by
  unfold box
  split
  · rename_i error notices he
    rw [he] at h
    cases h
  · rename_i scores' notices hs
    rw [hs] at h
    cases h
    rfl

theorem exists_scoreSlots (h : ∀ e ∈ g.box, ∃ s, a.score g e = .ok s)
    (slots : List (Option Int)) : ∃ scores, (a.scoreSlots g slots).1 = .ok scores := by
  induction slots with
  | nil => exact ⟨[], rfl⟩
  | cons slot rest ih =>
    obtain ⟨scores, hscores⟩ := ih
    unfold scoreSlots
    cases he : slot.bind g.boxEntry? with
    | none =>
      refine ⟨none :: scores, ?_⟩
      simp only [hscores]
      rfl
    | some e =>
      obtain ⟨id, -, hid⟩ := Option.bind_eq_some_iff.1 he
      obtain ⟨s, hs⟩ := h e (List.mem_of_find?_eq_some hid)
      refine ⟨some s :: scores, ?_⟩
      simp only [hs, hscores]
      rfl

/-! What cannot be scored ends the analysis with its error. -/

theorem failsOnlyWith_scoreAll {P : ScoreError → Prop} {entries : List BoxEntry}
    (h : ∀ e ∈ entries, FailsOnlyWith P (a.score g e)) :
    FailsOnlyWith P (a.scoreAll g entries).1 := by
  induction entries with
  | nil => exact failsOnlyWith_ok _
  | cons e rest ih =>
    obtain ⟨he, hrest⟩ := List.forall_mem_cons.1 h
    unfold scoreAll
    cases hs : a.score g e with
    | error error => exact failsOnlyWith_error.2 (he error hs)
    | ok s => exact (ih hrest).map _

theorem failsOnlyWith_box {P : ScoreError → Prop}
    (h : ∀ e ∈ g.box, FailsOnlyWith P (a.score g e)) : FailsOnlyWith P (a.box g).1 := by
  have hall := failsOnlyWith_scoreAll h
  unfold box
  split
  · rename_i error notices he
    rw [he] at hall
    exact hall
  · exact failsOnlyWith_ok _

theorem failsOnlyWith_scoreSlots {P : ScoreError → Prop}
    (h : ∀ e ∈ g.box, FailsOnlyWith P (a.score g e)) (slots : List (Option Int)) :
    FailsOnlyWith P (a.scoreSlots g slots).1 := by
  induction slots with
  | nil => exact failsOnlyWith_ok _
  | cons slot rest ih =>
    unfold scoreSlots
    split
    · exact ih.map _
    · rename_i e he
      obtain ⟨id, -, hid⟩ := Option.bind_eq_some_iff.1 he
      have hscore := h e (List.mem_of_find?_eq_some hid)
      dsimp only
      split
      · rename_i error hs
        exact failsOnlyWith_error.2 (hscore error hs)
      · exact ih.map _

theorem failsOnlyWith_team {P : ScoreError → Prop}
    (h : ∀ e ∈ g.box, FailsOnlyWith P (a.score g e)) : FailsOnlyWith P (a.team g).1 :=
  (failsOnlyWith_scoreSlots h g.team).map _

end Entries

variable [Numeral α] [LawfulScalar α] {g : Game α} {settings : Settings (Number α)} {t : Settings α}

/-- Every creature of a well-formed game has potentials. -/
theorem exists_potentialsOf (hg : g.WellFormed)
    (ht : Potentials.scalarSettings? settings = some t) {e : BoxEntry} {species : Species α}
    (hs : Keyed.get? e.speciesId g.species = some species) :
    let a := ofGame g settings
    let form := species.formUnder (Keyed.get? species.id g.changes)
    ∃ s, Potentials.scalarStats? form.stats = some s ∧ (∀ stat, Amount (s.get stat)) ∧
      a.potentialsOf g e species = .ok (.ofBundle s
        (Bundle.resolve (a.tags g e species) (holderTypeNames form.type1 form.type2 a.types))
        form.type1 form.type2 a.types a.chart t) :=
  exists_potentials (hg.form_stats hs) _ _ _ _ hg.chart_sound ht

/-- A creature of a well-formed game is scored, or its types cannot be shown. -/
theorem score_of_wellFormed (hg : g.WellFormed)
    (ht : Potentials.scalarSettings? settings = some t) {e : BoxEntry} (he : e ∈ g.box) :
    (g.ShowsTypes e ∧ ∃ s, (ofGame g settings).score g e = .ok s) ∨
      (¬ g.ShowsTypes e ∧ (ofGame g settings).score g e = .error .typeTooLong) := by
  obtain ⟨species, hs⟩ := Option.isSome_iff_exists.1 (hg.box e he)
  obtain ⟨s, -, -, hp⟩ := exists_potentialsOf hg ht hs
  obtain ⟨hshows, names, hscore⟩ | hnot := score_cases hs hp
  · exact .inl ⟨hshows, _, hscore⟩
  · exact .inr hnot

theorem failsOnlyWith_score (hg : g.WellFormed)
    (ht : Potentials.scalarSettings? settings = some t) :
    ∀ e ∈ g.box, FailsOnlyWith (· = .typeTooLong) ((ofGame g settings).score g e) := by
  intro e he
  obtain ⟨-, s, hscore⟩ | ⟨-, hscore⟩ := score_of_wellFormed hg ht he
  · rw [hscore]
    exact failsOnlyWith_ok s
  · rw [hscore]
    exact failsOnlyWith_error.2 rfl

theorem exists_score (hg : g.WellFormed) (ht : Potentials.scalarSettings? settings = some t)
    {e : BoxEntry} (he : e ∈ g.box) (hshows : g.ShowsTypes e) :
    ∃ s, (ofGame g settings).score g e = .ok s := by
  obtain ⟨-, hscore⟩ | ⟨hnot, -⟩ := score_of_wellFormed hg ht he
  · exact hscore
  · exact absurd hshows hnot

section Shown

variable (hshows : ∀ e ∈ g.box, g.ShowsTypes e)

include hshows

/-- The box of a well-formed game is ranked if the types of its creatures can be shown. -/
theorem exists_box (hg : g.WellFormed) (ht : Potentials.scalarSettings? settings = some t) :
    ∃ scores, ((ofGame g settings).box g).1 = .ok scores := by
  obtain ⟨scores, hs⟩ := exists_scoreAll fun e he => exists_score hg ht he (hshows e he)
  exact ⟨_, box_eq_ok hs⟩

/-- So is its team scored. -/
theorem exists_team (hg : g.WellFormed) (ht : Potentials.scalarSettings? settings = some t) :
    ∃ report, ((ofGame g settings).team g).1 = .ok report := by
  obtain ⟨slots, hs⟩ :=
    exists_scoreSlots (fun e he => exists_score hg ht he (hshows e he)) g.team
  refine ⟨(ofGame g settings).report slots, ?_⟩
  unfold team
  simp only [hs]
  rfl

end Shown

end Analyzer

/-! ### Games that are read -/

namespace Game

section Solo

variable {α : Type}

/-- The document of a game with a single creature, which is in the team. -/
def soloDocument : Json α :=
  .record
    [("name", .string "Solo"),
      ("types", .array [.record [("id", .number (.whole 1)), ("name", .string "Plain")]]),
      ("species", .array [.record
        ([("id", .number (.whole 1)), ("name", .string "Lone"), ("type1_id", .number (.whole 1))]
          ++ Stat.all.map fun stat => (stat.key, .number (.whole 80)))]),
      ("box", .array [.record [("id", .number (.whole 1)), ("species_id", .number (.whole 1))]]),
      ("team", .array [.number (.whole 1)])]

def soloEntry : BoxEntry := ⟨1, 1, none, none, none, none⟩

/-- The game of that document. -/
def solo [Scalar α] : Game α where
  name := "Solo"
  types := [⟨1, "Plain", none, false⟩]
  chart := []
  species := [(1, ⟨1, "Lone", 1, none, .const (.whole 80), 1, []⟩)]
  abilities := []
  items := []
  changes := []
  box := [soloEntry]
  team := [some 1, none, none, none, none, none]
  settings := .default

theorem read_soloDocument :
    (read none (soloDocument (α := Double fun x _ => x))).result = .ok solo := by
  have h : (read none (soloDocument (α := Double fun x _ => x))).result.toOption = some solo := by
    decide +kernel
  revert h
  cases (read none (soloDocument (α := Double fun x _ => x))).result with
  | error flaw =>
    intro h
    cases h
  | ok g =>
    intro h
    rw [Option.some.inj h]

end Solo

variable {pow : Float → Float → Float} {given : Option Text} {v : Json (Double pow)}
  {g : Game (Double pow)}

/-- Whatever its tags are, a creature of a game that is read has a bundle and scores that are finite
and not below zero. -/
theorem sound_potentials_of_read (hpow : Double.LawfulPow pow) (h : (read given v).result = .ok g)
    {e : BoxEntry} (he : e ∈ g.box) (tags holder : List Text)
    {settings : Settings (Number (Double pow))} (hd : settings.critDamage.Amount) :
    (Bundle.resolve (α := Double pow) tags holder).Sound ∧
      ∃ species, Keyed.get? e.speciesId g.species = some species ∧
        let form := species.formUnder (Keyed.get? species.id g.changes)
        ∃ p, potentials form.stats tags form.type1 form.type2 g.visible (.ofRows g.chart) settings =
          .ok p ∧ p.Sound := by
  have := Double.lawfulPower hpow
  have hg := wellFormed_of_read h
  refine ⟨Bundle.sound_resolve tags holder, ?_⟩
  obtain ⟨species, hs⟩ := Option.isSome_iff_exists.1 (hg.box e he)
  refine ⟨species, hs, ?_⟩
  obtain ⟨t, ht, hta⟩ := Potentials.exists_scalarSettings? hd
  obtain ⟨s, -, hsa, hp⟩ := exists_potentials (hg.form_stats hs) tags _ _ _ hg.chart_sound ht
  exact ⟨_, hp, Potentials.sound_ofBundle hsa (Bundle.sound_resolve _ _) _ _ _ hg.chart_sound hta⟩

theorem sound_potentials_of_read_solo :
    let g := solo (α := Double fun x _ => x)
    let tags : List Text := ["mult:hp:1e308", "mult:hp:1e308"]
    (Bundle.resolve (α := Double fun x _ => x) tags []).Sound ∧
      ∃ species, Keyed.get? soloEntry.speciesId g.species = some species ∧
        let form := species.formUnder (Keyed.get? species.id g.changes)
        ∃ p, potentials form.stats tags form.type1 form.type2 g.visible (.ofRows g.chart)
          g.settings.written = .ok p ∧ p.Sound := by
  refine sound_potentials_of_read Double.lawfulPow_fst read_soloDocument (e := soloEntry) ?_ _ _ ?_
  · exact List.mem_singleton.2 rfl
  · exact ⟨_, rfl, Settings.sound_default.critDamage⟩

end Game

end Roster
