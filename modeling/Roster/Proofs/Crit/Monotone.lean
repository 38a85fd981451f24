import Roster.Proofs.Bundle.Order
import Roster.Proofs.Crit.Expectation
import Roster.Proofs.Double.Ordered

/-!
# Crit tags that raise

A crit tag whose bonus is not below zero, or whose factor is not below one, never lowers what it is
for, wherever it is put in among other tags and whatever they are: sums and products rise through
the rest of the tags although each step is rounded and kept in the finite range. The stage rises
with its bonus, and the base chance with the stage, since no table falls. What is expected then
follows the side of one that the damage is on.
-/

namespace Roster.Crit

open Scalar

/-! ### Modifiers -/

/-- Modifiers that are no higher than others. -/
structure AtMost {α : Type} [Scalar α] (m m' : CritModifiers α) : Prop where
  chance : m.chanceBonus ≤ m'.chanceBonus
  damage : m.damageFactor ≤ m'.damageFactor
  stage : m.stageBonus ≤ m'.stageBonus

/-- A tag whose crit bonuses are not below zero and whose crit factors are not below one. -/
structure Raises (α : Type) [Numeral α] (tag : Text) : Prop where
  bonus (tally : Tally) (x : α) : tally.ofTag? tag = some x → 0 ≤ x
  factor (holder : List Text) (x : α) : Slot.critDamage.ofTag? holder tag = some x → 1 ≤ x

section Modifiers

variable {α : Type} [Numeral α] [OrderedScalar α]

theorem finite_of_ofTag? {tally : Tally} {tag : Text} {x : α} (h : tally.ofTag? tag = some x) :
    Finite x := by
  obtain ⟨e, he, hx⟩ := Option.bind_eq_some_iff.1 h
  have hsound := Tag.sound_of_parse he
  cases e with
  | crit kind y =>
    cases tally <;> cases kind <;> cases hx
    · exact hsound
    · exact hsound
  | _ => cases tally <;> cases hx

/-- With a tag that raises the modifiers are no lower. -/
theorem atMost_insert {tag : Text} (h : Raises α tag) (before after holder : List Text) :
    AtMost (Bundle.resolve (before ++ after) holder : Bundle α).crit
      (Bundle.resolve (before ++ tag :: after) holder).crit := by
  have htotal (tally : Tally) : (Bundle.resolve (before ++ after) holder : Bundle α).total tally ≤
      (Bundle.resolve (before ++ tag :: after) holder).total tally := by
    rw [Bundle.total_resolve, Bundle.total_resolve]
    exact sum_filterMap_insert (fun _ _ => finite_of_ofTag?) (h.bonus tally) before after
  refine ⟨htotal .critChance, ?_, htotal .critStage⟩
  change (Bundle.resolve (before ++ after) holder : Bundle α).product .critDamage ≤
    (Bundle.resolve (before ++ tag :: after) holder).product .critDamage
  rw [Bundle.product_resolve, Bundle.product_resolve]
  exact product_filterMap_insert (fun _ _ => Slot.amount_of_ofTag?) (h.factor holder) before after

end Modifiers

/-! ### Kinds of crit tags -/

section Kinds

variable {α : Type} [Numeral α] {tag : Text} {x : α} (before after holder : List Text)

theorem raises_of_bonus {kind : CritKind} (htag : Tag.parse tag = some (.crit kind x))
    (hkind : kind ≠ .damage) (h : 0 ≤ x) : Raises α tag where
  bonus tally y hy := by
    rw [Tally.ofTag?, htag] at hy
    cases tally <;> cases kind <;> cases hy
    · exact h
    · exact h
  factor holder y hy := by
    rw [Slot.ofTag?, htag] at hy
    cases kind with
    | damage => exact absurd rfl hkind
    | _ => cases hy

theorem raises_of_factor (htag : Tag.parse tag = some (.crit .damage x)) (h : 1 ≤ x) :
    Raises α tag where
  bonus tally y hy := by
    rw [Tally.ofTag?, htag] at hy
    cases tally <;> cases hy
  factor holder y hy := by
    rw [Slot.ofTag?, htag] at hy
    cases hy
    exact h

/-- A bonus tag leaves the damage factor as it is. -/
theorem damageFactor_insert {kind : CritKind} (htag : Tag.parse tag = some (.crit kind x))
    (hkind : kind ≠ .damage) :
    (Bundle.resolve (before ++ tag :: after) holder : Bundle α).crit.damageFactor =
      (Bundle.resolve (before ++ after) holder).crit.damageFactor := by
  have hnone : Slot.critDamage.ofTag? (α := α) holder tag = none := by
    rw [Slot.ofTag?, htag]
    cases kind with
    | damage => exact absurd rfl hkind
    | _ => rfl
  change (Bundle.resolve (before ++ tag :: after) holder : Bundle α).product .critDamage =
    (Bundle.resolve (before ++ after) holder).product .critDamage
  rw [Bundle.product_resolve, Bundle.product_resolve, filterMap_insert hnone]

/-- A factor tag leaves the bonuses as they are. -/
theorem total_insert (htag : Tag.parse tag = some (.crit .damage x)) (tally : Tally) :
    (Bundle.resolve (before ++ tag :: after) holder : Bundle α).total tally =
      (Bundle.resolve (before ++ after) holder).total tally := by
  have hnone : tally.ofTag? (α := α) tag = none := by
    rw [Tally.ofTag?, htag]
    cases tally <;> rfl
  rw [Bundle.total_resolve, Bundle.total_resolve, filterMap_insert hnone]

end Kinds

/-! ### Expectations -/

/-- A table that has an entry, of finite chances none of which is below an earlier one. -/
structure Ascending {α : Type} [Scalar α] (table : List α) : Prop where
  ne_nil : table ≠ []
  finite : ∀ x ∈ table, Finite x
  sorted : table.Pairwise (· ≤ ·)

section Expectation

variable {α : Type} [Scalar α]

theorem stageOf_mono [LawfulOrder α] {bonus bonus' : α} (h : bonus ≤ bonus') (last : Nat) :
    stageOf bonus last ≤ stageOf bonus' last :=
  List.countP_mono_left fun _ _ hreached =>
    decide_eq_true (LawfulOrder.le_trans (of_decide_eq_true hreached) h)

/-- The stage and the chance are found from the bonuses. -/
theorem stage_chance_eq {presets : Keyed Text (List α)} {preset : Text} {m m' : CritModifiers α}
    (hstage : m'.stageBonus = m.stageBonus) (hchance : m'.chanceBonus = m.chanceBonus)
    (baseDamage : α) (fallback : Option α) :
    let info := expectation presets m preset baseDamage fallback
    let info' := expectation presets m' preset baseDamage fallback
    info'.stage = info.stage ∧ info'.chance = info.chance := by
  unfold expectation
  dsimp only
  rw [hstage, hchance]
  exact ⟨rfl, rfl⟩

/-- Later entries are no lower. -/
theorem Ascending.le_of_le [LawfulOrder α] {table : List α} (h : Ascending table) {i j : Nat}
    {x y : α} (hx : table[i]? = some x) (hy : table[j]? = some y) (hle : i ≤ j) : x ≤ y := by
  obtain ⟨hi, rfl⟩ := List.getElem?_eq_some_iff.1 hx
  obtain ⟨hj, rfl⟩ := List.getElem?_eq_some_iff.1 hy
  rcases hle.eq_or_lt with rfl | hlt
  · exact (h.finite _ (List.getElem_mem hi)).le_self
  · exact List.pairwise_iff_getElem.1 h.sorted i j hi hj hlt

variable [OrderedScalar α] {presets : Keyed Text (List α)} {preset : Text} {m m' : CritModifiers α}

section Bonuses

variable (htable : Ascending (tableOf presets preset)) (hm : Finite m.chanceBonus)
  (hm' : Finite m'.chanceBonus) (h : AtMost m m')

include htable hm hm' h

/-- No lower bonuses lead to no lower chance. -/
theorem chance_mono (baseDamage : α) (fallback : Option α) :
    (expectation presets m preset baseDamage fallback).chance ≤
      (expectation presets m' preset baseDamage fallback).chance := by
  obtain ⟨x, hx, hchance⟩ :=
    (within_expectation presets m preset baseDamage fallback).entry htable.ne_nil
  obtain ⟨y, hy, hchance'⟩ :=
    (within_expectation presets m' preset baseDamage fallback).entry htable.ne_nil
  rw [hchance, hchance']
  refine clamp_mono (OrderedScalar.add_le_add ?_ ?_ hm hm' ?_ h.chance)
  · exact htable.finite x (List.mem_of_getElem? hx)
  · exact htable.finite y (List.mem_of_getElem? hy)
  · exact htable.le_of_le hx hy (stageOf_mono h.stage _)

/-- Under bonuses that are no lower the expectation moves to the side of one that an unchanged
damage is on. -/
theorem weighed_chance_mono {damage : α} (hdamage : Amount damage) (baseDamage : α)
    (fallback : Option α) :
    let info := expectation presets m preset baseDamage fallback
    let info' := expectation presets m' preset baseDamage fallback
    (1 ≤ damage → weighed info.chance damage ≤ weighed info'.chance damage) ∧
      (damage ≤ 1 → weighed info'.chance damage ≤ weighed info.chance damage) := by
  intro info info'
  have hchance : info.chance ≤ info'.chance := chance_mono htable hm hm' h baseDamage fallback
  have hnonneg : 0 ≤ info.chance := (clamp_zero_one _).1
  have hle : info'.chance ≤ 1 := (clamp_zero_one _).2
  exact ⟨weighed_mono_share hnonneg hle hchance hdamage,
    weighed_antitone_share hnonneg hle hchance hdamage⟩

end Bonuses

section Factor

variable {baseDamage : α} (hbase : 0 ≤ baseDamage) (hm : Amount m.damageFactor)

include hbase hm

theorem amount_damage (preset : Text) (fallback : Option α) :
    Amount (expectation presets m preset baseDamage fallback).damage :=
  amount_saturate (LawfulScalar.not_neg_mul (not_lt_of_le hbase) hm.not_neg)

/-- No lower a factor leads to no lower damage. -/
theorem damage_mono (hm' : Amount m'.damageFactor) (h : AtMost m m') (fallback : Option α) :
    (expectation presets m preset baseDamage fallback).damage ≤
      (expectation presets m' preset baseDamage fallback).damage :=
  OrderedScalar.saturate_mul_le hbase hm hm' h.damage

end Factor

end Expectation

/-- The built-in tables of doubles ascend, so that of any name does. -/
theorem ascending_tableOf_presets (preset : Text) :
    Ascending (tableOf (presets : Keyed Text (List Float)) preset) := by
  have hdefault : (∀ x ∈ (defaultTable : List Float), Finite x) ∧
      (defaultTable : List Float).Pairwise (· ≤ ·) := by decide +kernel
  have hpresets : ∀ e ∈ (presets : Keyed Text (List Float)),
      e.2 ≠ [] ∧ (∀ x ∈ e.2, Finite x) ∧ e.2.Pairwise (· ≤ ·) := by decide +kernel
  refine holds_tableOf ⟨List.cons_ne_nil _ _, hdefault.1, hdefault.2⟩ (fun e he => ?_) preset
  obtain ⟨hne, hfinite, hsorted⟩ := hpresets e he
  exact ⟨hne, hfinite, hsorted⟩

/-- A crit tag put in at any place among other tags, where a double for the damage that is not below
zero counts, be it infinite, and the built-in table of any name, an unknown one included. A bonus on
the stage or on the chance that is not below zero lowers neither of them and leaves the damage, and
the expectation moves to the side of one that the damage is on. A damage factor that is not below
one lowers neither the damage nor the expectation, and leaves the stage and the chance. -/
theorem expectation_insert (before after holder : List Text) (tag preset : Text)
    (baseDamage : Float) (fallback : Option Float) (hbase : 0 ≤ baseDamage) :
    let infoOf (tags : List Text) : Info Float :=
      expectation presets (Bundle.resolve tags holder).crit preset baseDamage fallback
    let info := infoOf (before ++ after)
    let raised := infoOf (before ++ tag :: after)
    (∀ kind ≠ CritKind.damage, ∀ x : Float, Tag.parse tag = some (.crit kind x) → 0 ≤ x →
        info.stage ≤ raised.stage ∧ info.chance ≤ raised.chance ∧ raised.damage = info.damage ∧
          (1 ≤ info.damage → info.expected ≤ raised.expected) ∧
          (info.damage ≤ 1 → raised.expected ≤ info.expected)) ∧
      ∀ x : Float, Tag.parse tag = some (.crit .damage x) → 1 ≤ x →
        info.damage ≤ raised.damage ∧ info.expected ≤ raised.expected ∧
          raised.stage = info.stage ∧ raised.chance = info.chance := by
  intro infoOf info raised
  have hsound (tags : List Text) := Bundle.sound_resolve (α := Float) tags holder
  have hdamage (tags : List Text) : Amount (infoOf tags).damage :=
    amount_damage hbase (hsound tags).critDamage preset fallback
  constructor
  · intro kind hkind x htag hx
    have h := atMost_insert (raises_of_bonus htag hkind hx) before after holder
    have hkept : raised.damage = info.damage :=
      congrArg (fun factor => saturate (baseDamage * factor))
        (damageFactor_insert before after holder htag hkind)
    obtain ⟨habove, hbelow⟩ := weighed_chance_mono (ascending_tableOf_presets preset)
      (hsound _).critChance (hsound _).critChance h (hdamage (before ++ after)) baseDamage fallback
    have hexpected : raised.expected = weighed raised.chance info.damage := by
      rw [← hkept]
      rfl
    refine ⟨stageOf_mono h.stage _, ?_, hkept, ?_, ?_⟩
    · exact chance_mono (ascending_tableOf_presets preset) (hsound _).critChance
        (hsound _).critChance h baseDamage fallback
    · rw [hexpected]
      exact habove
    · rw [hexpected]
      exact hbelow
  · intro x htag hx
    have h := atMost_insert (raises_of_factor htag hx) before after holder
    have hle : info.damage ≤ raised.damage :=
      damage_mono hbase (hsound _).critDamage (hsound _).critDamage h fallback
    have htotal := total_insert before after holder htag
    obtain ⟨hstage, hchance⟩ : raised.stage = info.stage ∧ raised.chance = info.chance :=
      stage_chance_eq (htotal .critStage) (htotal .critChance) baseDamage fallback
    refine ⟨hle, ?_, hstage, hchance⟩
    change weighed info.chance info.damage ≤ weighed raised.chance raised.damage
    rw [hchance]
    exact weighed_mono_value (clamp_zero_one _).1 (clamp_zero_one _).2 (hdamage _) (hdamage _) hle

/-- Among a bonus below zero and one above a stage bonus raises the stage and the chance, and a
damage factor of two the damage. -/
theorem expectation_insert_between :
    let infoOf (tags : List Text) : Info Float :=
      expectation presets (Bundle.resolve tags []).crit "gen6" 2 none
    let info := infoOf ["crit:stage:-1", "crit:chance:+0.25"]
    let staged := infoOf ["crit:stage:-1", "crit:stage:+2", "crit:chance:+0.25"]
    let doubled := infoOf ["crit:stage:-1", "crit:damage:x2", "crit:chance:+0.25"]
    (info.stage = 0 ∧ staged.stage = 1 ∧ info.chance ≤ staged.chance ∧
        info.expected ≤ staged.expected) ∧
      info.damage = 2 ∧ doubled.damage = 4 ∧ info.expected ≤ doubled.expected := by
  intro infoOf info staged doubled
  have hinsert (tag : Text) :=
    expectation_insert ["crit:stage:-1"] ["crit:chance:+0.25"] [] tag "gen6" 2 none
      (by decide +kernel)
  obtain ⟨-, hchance, -, hexpected, -⟩ := (hinsert "crit:stage:+2").1 .stage (by decide) 2
    (by decide +kernel) (by decide +kernel)
  obtain ⟨-, hdoubled, -, -⟩ := (hinsert "crit:damage:x2").2 2 (by decide +kernel)
    (by decide +kernel)
  refine ⟨⟨?_, ?_, hchance, hexpected ?_⟩, ?_, ?_, hdoubled⟩ <;> decide +kernel

end Roster.Crit
