import Roster.Proofs.Game.Reading
import Roster.Proofs.Potentials.Bounds

/-!
# Well-formed games

What holds of every game that is read, whatever the document says: its references lead somewhere,
and all its numbers are finite and not below zero.
-/

namespace Roster

open Scalar

variable {α : Type}

/-- A number as it is written whose scalar is an amount. -/
def Number.Amount [Scalar α] (n : Number α) : Prop := ∃ x, n.toScalar? = some x ∧ Scalar.Amount x

/-- Settings whose numbers are amounts. -/
structure Settings.Sound [Scalar α] (s : Settings α) : Prop where
  critDamage : Amount s.critDamage
  critChance : ∀ x ∈ s.critChance, Amount x

/-- A game that can be analysed. -/
structure Game.WellFormed [Scalar α] (g : Game α) : Prop where
  types : g.types ≠ []
  team_length : g.team.length = teamSize
  /-- A slot is empty or holds the id of a box entry. -/
  team : ∀ slot ∈ g.team, ∀ id ∈ slot, ∃ e ∈ g.box, e.id = id
  /-- A box entry is of a species of the game. -/
  box : ∀ e ∈ g.box, (Keyed.get? e.speciesId g.species).isSome
  stats : ∀ e ∈ g.species, ∀ stat, (e.2.stats.get stat).Amount
  changes : ∀ e ∈ g.changes, ∀ stat, ∀ n ∈ e.2.stats.get stat, n.Amount
  chart : ∀ r ∈ g.chart, Amount r.multiplier
  settings : g.settings.Sound

/-! ### Settings -/

namespace Settings

variable [Scalar α] [LawfulScalar α]

theorem amount_of_amount? {v : Json α} {n : Number α} {x : α} (h : v.amount? = .ok (n, x)) :
    n.toScalar? = some x ∧ Amount x := by
  obtain ⟨-, hn, hf⟩ := Json.amount?_eq_ok_iff.1 h
  exact ⟨hn, amount_iff.2 hf⟩

theorem amount_of_readAmount {key : String} {v : Json α} {x : α} (h : readAmount key v = .ok x) :
    Amount x := by
  unfold readAmount at h
  split at h
  · cases h
    exact (amount_of_amount? ‹_›).2
  all_goals cases h

variable [LawfulWeights α]

omit [LawfulScalar α] in
theorem sound_default : (default : Settings α).Sound where
  critDamage := LawfulWeights.critDamage
  critChance := fun _ h => by cases h

theorem sound_of_ofMembers {members : Json.Members α} {s : Settings α}
    (h : ofMembers members = .ok s) : s.Sound := by
  unfold ofMembers at h
  obtain ⟨preset, -, h⟩ := bind_eq_ok.1 h
  obtain ⟨damage, hd, h⟩ := bind_eq_ok.1 h
  obtain ⟨chance, hc, h⟩ := bind_eq_ok.1 h
  obtain ⟨abilities, -, h⟩ := bind_eq_ok.1 h
  obtain ⟨items, -, h⟩ := bind_eq_ok.1 h
  cases h
  constructor
  · unfold readMember at hd
    split at hd
    · cases hd
      exact sound_default.critDamage
    · exact amount_of_readAmount hd
  · unfold readMember at hc
    split at hc
    · cases hc
      exact sound_default.critChance
    · dsimp only at hc
      split at hc
      · cases hc
        exact sound_default.critChance
      · obtain ⟨x, hx, rfl⟩ := map_eq_ok.1 hc
        rintro y hy
        cases hy
        exact amount_of_readAmount hx

/-- Settings that are read are sound. -/
theorem sound_of_ofJson {v : Json α} {s : Settings α} (h : ofJson v = .ok s) : s.Sound := by
  unfold ofJson at h
  split at h
  · cases h
    exact sound_default
  · exact sound_of_ofMembers h
  · cases h

end Settings

namespace Game

/-! ### Records -/

section Records

variable [Numeral α] [LawfulScalar α]

theorem amount_of_amountField {site : Site} {key : String} {r : Record α} {n : Number α} {x : α}
    (h : amountField site key r = .ok (n, x)) : n.toScalar? = some x ∧ Amount x := by
  unfold amountField at h
  dsimp only at h
  split at h
  · cases h
    exact Settings.amount_of_amount? ‹_›
  all_goals cases h

theorem amount_of_readChartRow {site : Site} {v : Json α} {row : ChartRow α}
    (h : readChartRow site v = .ok row) : Amount row.multiplier := by
  unfold readChartRow at h
  obtain ⟨r, -, h⟩ := bind_eq_ok.1 h
  obtain ⟨attacking, -, h⟩ := bind_eq_ok.1 h
  obtain ⟨defending, -, h⟩ := bind_eq_ok.1 h
  obtain ⟨amount, ha, h⟩ := bind_eq_ok.1 h
  cases h
  exact (amount_of_amountField ha).2

theorem amount_of_readSpecies {site : Site} {v : Json α} {s : Species α}
    (h : readSpecies site v = .ok s) (stat : Stat) : (s.stats.get stat).Amount := by
  unfold readSpecies at h
  obtain ⟨r, -, h⟩ := bind_eq_ok.1 h
  obtain ⟨id, -, h⟩ := bind_eq_ok.1 h
  obtain ⟨name, -, h⟩ := bind_eq_ok.1 h
  obtain ⟨type1, -, h⟩ := bind_eq_ok.1 h
  obtain ⟨type2, -, h⟩ := bind_eq_ok.1 h
  obtain ⟨stats, hs, h⟩ := bind_eq_ok.1 h
  obtain ⟨dexNumber, -, h⟩ := bind_eq_ok.1 h
  obtain ⟨tags, -, h⟩ := bind_eq_ok.1 h
  cases h
  obtain ⟨source, -, hs⟩ := bind_eq_ok.1 hs
  obtain ⟨⟨n, x⟩, hn, hx⟩ := map_eq_ok.1 (Stats.ofFnM_eq_ok hs stat)
  exact ⟨x, hx ▸ amount_of_amountField hn⟩

theorem amount_of_readChange {site : Site} {v : Json α} {c : SpeciesChange α}
    (h : readChange site v = .ok c) (stat : Stat) : ∀ n ∈ c.stats.get stat, n.Amount := by
  unfold readChange at h
  obtain ⟨r, -, h⟩ := bind_eq_ok.1 h
  obtain ⟨stats, hs, h⟩ := bind_eq_ok.1 h
  obtain ⟨speciesId, -, h⟩ := bind_eq_ok.1 h
  obtain ⟨type1, -, h⟩ := bind_eq_ok.1 h
  obtain ⟨type2, -, h⟩ := bind_eq_ok.1 h
  cases h
  have hs := Stats.ofFnM_eq_ok hs stat
  intro n hn
  split at hs
  · rw [← Except.ok.inj hs] at hn
    cases hn
  · obtain ⟨⟨m, x⟩, hm, hx⟩ := map_eq_ok.1 hs
    rw [← hx] at hn
    cases hn
    exact ⟨x, amount_of_amountField hm⟩

end Records

/-! ### Sections -/

section Sections

variable [Numeral α] {r : Record α}

omit [Numeral α] in
theorem mem_readItems {β : Type} {key : String} {reader : Site → Json α → Except (Flaw α) β}
    {items : List (Json α)} {xs : List β} (h : readItems key reader items = .ok xs) {x : β}
    (hx : x ∈ xs) : ∃ site, ∃ v ∈ items, reader site v = .ok x := by
  unfold readItems at h
  split at h
  · rename_i ys hys
    cases h
    have hmem : x ∈ (readUntilFlaw (fun index => reader ⟨key, index⟩) 0 items).1 := by
      rw [hys]
      exact hx
    obtain ⟨place, v, hmem, hv⟩ := mem_readUntilFlaw hmem
    exact ⟨_, v, hmem, hv⟩
  · cases h

theorem readTypes_ne_nil {types : List TypeInfo} (h : readTypes r = .ok types) : types ≠ [] := by
  unfold readTypes at h
  obtain ⟨items, -, h⟩ := bind_eq_ok.1 h
  obtain ⟨types', -, h⟩ := bind_eq_ok.1 h
  split at h
  · cases h
  · cases h
    intro hn
    exact absurd (List.isEmpty_iff.2 hn) ‹_›

theorem mem_readTypes {types : List TypeInfo} (h : readTypes r = .ok types) {t : TypeInfo}
    (ht : t ∈ types) : ∃ (site : Site) (v : Json α), readType site v = .ok t := by
  unfold readTypes at h
  obtain ⟨items, -, h⟩ := bind_eq_ok.1 h
  obtain ⟨types', htypes, h⟩ := bind_eq_ok.1 h
  split at h
  · cases h
  · obtain rfl := Except.ok.inj h
    obtain ⟨site, v, -, hv⟩ := mem_readItems htypes ht
    exact ⟨site, v, hv⟩

/-- The species and changes of a roll are those of its items, some of them perhaps overwritten. -/
theorem mem_readRoll {roll : Roll α} (h : readRoll r = .ok roll) :
    (∀ e ∈ roll.species, ∃ (site : Site) (v : Json α), readSpecies site v = .ok e.2) ∧
      ∀ e ∈ roll.changes, ∃ (site : Site) (v : Json α), readChange site v = .ok e.2 := by
  unfold readRoll at h
  obtain ⟨speciesItems, -, h⟩ := bind_eq_ok.1 h
  obtain ⟨species, hs, h⟩ := bind_eq_ok.1 h
  obtain ⟨abilityItems, -, h⟩ := bind_eq_ok.1 h
  obtain ⟨abilities, -, h⟩ := bind_eq_ok.1 h
  obtain ⟨itemItems, -, h⟩ := bind_eq_ok.1 h
  obtain ⟨items, -, h⟩ := bind_eq_ok.1 h
  obtain ⟨changeItems, -, h⟩ := bind_eq_ok.1 h
  obtain ⟨changes, hc, h⟩ := bind_eq_ok.1 h
  cases h
  constructor
  · intro e he
    obtain ⟨s, hs', rfl⟩ := List.mem_map.1 (Keyed.mem_ofList he)
    obtain ⟨site, v, -, hv⟩ := mem_readItems hs hs'
    exact ⟨site, v, hv⟩
  · intro e he
    obtain ⟨c, hc', rfl⟩ := List.mem_map.1 (Keyed.mem_ofList he)
    obtain ⟨site, v, -, hv⟩ := mem_readItems hc hc'
    exact ⟨site, v, hv⟩

variable [LawfulScalar α]

theorem amount_of_readChart {chart : List (ChartRow α)} (h : readChart r = .ok chart)
    {row : ChartRow α} (hr : row ∈ chart) : Amount row.multiplier := by
  unfold readChart at h
  obtain ⟨items, -, h⟩ := bind_eq_ok.1 h
  obtain ⟨site, v, -, hv⟩ := mem_readItems h hr
  exact amount_of_readChartRow hv

theorem amount_of_readRoll {roll : Roll α} (h : readRoll r = .ok roll) :
    (∀ e ∈ roll.species, ∀ stat, (e.2.stats.get stat).Amount) ∧
      ∀ e ∈ roll.changes, ∀ stat, ∀ n ∈ e.2.stats.get stat, n.Amount := by
  obtain ⟨hspecies, hchanges⟩ := mem_readRoll h
  constructor
  · intro e he
    obtain ⟨site, v, hv⟩ := hspecies e he
    exact amount_of_readSpecies hv
  · intro e he
    obtain ⟨site, v, hv⟩ := hchanges e he
    exact amount_of_readChange hv

end Sections

/-! ### References -/

theorem mem_settleSlots {box : List BoxEntry} {slots : List (Option Int)} {slot : Option Int}
    (h : slot ∈ settleSlots box slots) {id : Int} (hid : id ∈ slot) : ∃ e ∈ box, e.id = id := by
  obtain ⟨slot', -, rfl⟩ := List.mem_map.1 h
  split at hid
  · rename_i hh
    obtain rfl : slot' = some id := hid
    obtain ⟨e, he, hid⟩ := List.any_eq_true.1 hh
    exact ⟨e, he, beq_iff_eq.1 hid⟩
  · cases hid

theorem mem_fillTeam {slots : List (Option Int)} {slot : Option Int} (h : slot ∈ fillTeam slots)
    {id : Int} (hid : id ∈ slot) : slot ∈ slots := by
  rcases List.mem_append.1 h with h | h
  · exact h
  · rw [List.eq_of_mem_replicate h] at hid
    cases hid

theorem length_readUntilFlaw_le {β : Type} {reader : Nat → Json α → Except (Flaw α) β}
    (items : List (Json α)) (index : Nat) :
    (readUntilFlaw reader index items).1.length ≤ items.length := by
  induction items generalizing index with
  | nil => exact Nat.le_refl _
  | cons v rest ih =>
    cases hv : reader index v with
    | error flaw =>
      rw [readUntilFlaw_of_error hv]
      exact Nat.zero_le _
    | ok x =>
      rw [readUntilFlaw_of_ok hv]
      exact Nat.succ_le_succ (ih (index + 1))

theorem length_teamItems_le [Numeral α] {r : Record α} {items : List (Json α)}
    (h : teamItems r = .ok items) : items.length ≤ teamSize := by
  unfold teamItems at h
  split at h
  · cases h
    exact Nat.zero_le _
  · split at h
    · cases h
    · cases h
      omega
  · cases h

/-! ### The game -/

variable [Numeral α] [LawfulScalar α] [LawfulWeights α]

theorem wellFormed_of_readBoxAndTeam {r : Record α} {given : Option Text} {types : List TypeInfo}
    {chart : List (ChartRow α)} {roll : Roll α} {g : Game α} (ht : readTypes r = .ok types)
    (hc : readChart r = .ok chart) (hr : readRoll r = .ok roll)
    (h : (readBoxAndTeam r given types chart roll).result = .ok g) : g.WellFormed := by
  unfold readBoxAndTeam at h
  split at h
  · cases h
  · dsimp only at h
    split at h
    · cases h
    · split at h
      · cases h
      · rename_i items hi
        split at h
        · cases h
        · split at h
          · cases h
          · rename_i settings hs
            cases h
            obtain ⟨hstats, hchanges⟩ := amount_of_readRoll hr
            have hlen : (readUntilFlaw (readSlot (α := α)) 0 items).1.length ≤ teamSize :=
              Nat.le_trans (length_readUntilFlaw_le items 0) (length_teamItems_le hi)
            exact {
              types := readTypes_ne_nil ht
              team_length := length_fillTeam (by rwa [settleSlots, List.length_map])
              team := fun slot hm id hid => mem_settleSlots (mem_fillTeam hm hid) hid
              box := fun e he => (List.mem_filter.1 he).2
              stats := hstats
              changes := hchanges
              chart := fun row hrow => amount_of_readChart hc hrow
              settings := Settings.sound_of_ofJson hs }

/-- Every game that is read is well-formed. -/
theorem wellFormed_of_read {given : Option Text} {v : Json α} {g : Game α}
    (h : (read given v).result = .ok g) : g.WellFormed := by
  unfold read at h
  split at h
  · split at h
    · cases h
    · rename_i types ht
      split at h
      · cases h
      · rename_i chart hc
        dsimp only at h
        split at h
        · cases h
        · rename_i roll hr
          exact wellFormed_of_readBoxAndTeam ht hc hr h
  · cases h

end Game

end Roster
