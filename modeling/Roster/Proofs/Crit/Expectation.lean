import Mathlib.Algebra.Order.Floor.Ring
import Roster.Crit
import Roster.Proofs.Bundle.Sides
import Roster.Proofs.Double.Laws
import Roster.Proofs.Scalar.Exact

/-!
# Stages, chances and expectations of crits

The stage is found by counting the stages that a bonus reaches. That is the whole part of the bonus
brought into the table, in exact arithmetic and, in tables of any length whose places doubles can
tell apart, in doubles. In exact arithmetic what is expected of hits lies between a hit that is not
critical and one that is. Tags for other things than crits, and whose holder they are resolved for,
do not count.
-/

namespace Roster.Crit

open Scalar

/-! ### Stages -/

theorem countP_range_lt (n last : Nat) :
    (List.range last).countP (fun k => decide (k < n)) = min n last := by
  induction last with
  | zero => simp
  | succ last ih =>
    rw [List.range_succ, List.countP_append, ih]
    by_cases h : last < n
    · simp only [List.countP_singleton, h, decide_true, if_true]
      omega
    · simp only [List.countP_singleton, h, decide_false, Bool.false_eq_true, if_false]
      omega

/-- A bonus that compares with the stages as a real number does reaches the whole part of that,
brought into the table. -/
theorem stageOf_eq_floor {α : Type} [Scalar α] {bonus : α} {last : Nat} {x : ℝ}
    (h : ∀ k < last, (ofNat (k + 1) : α) ≤ bonus ↔ ((k + 1 : ℕ) : ℝ) ≤ x) :
    (stageOf bonus last : ℤ) = max 0 (min ⌊x⌋ last) := by
  have hcount : stageOf bonus last = min ⌊x⌋.toNat last := by
    rw [← countP_range_lt]
    refine List.countP_congr fun k hk => ?_
    have hfloor : ((k + 1 : ℕ) : ℝ) ≤ x ↔ ((k + 1 : ℕ) : ℤ) ≤ ⌊x⌋ := by
      rw [Int.le_floor, Int.cast_natCast]
    rw [decide_eq_true_iff, decide_eq_true_iff, h k (List.mem_range.1 hk), hfloor]
    omega
  omega

theorem stageOf_exact (bonus : Exact) (last : Nat) :
    (stageOf bonus last : ℤ) = max 0 (min (Int.floor (α := ℝ) bonus) last) :=
  stageOf_eq_floor fun k _ => by
    rw [← Int.cast_natCast (R := ℝ)]
    exact Iff.rfl

/-- The double of a stage is at most one of a value if the stage is at most that value in units. -/
theorem ofNat_le_iff {x : Float} {a : ℤ} (h : Double.HasValue x a) {n : Nat} (hn : n ≤ 2 ^ 53) :
    (ofNat n : Float) ≤ x ↔ (n : ℝ) ≤ a / Double.unit := by
  have hunit : (0 : ℝ) < Double.unit := Int.cast_pos.2 Double.unit_pos
  have hvalue : Double.value (ofNat n : Float) = some (n * Double.unit) :=
    (Double.hasValue_ofInt hn).value
  rw [le_div_iff₀ hunit, Double.le_iff]
  constructor
  · rintro ⟨b, c, hb, hc, hle⟩
    obtain rfl := Option.some.inj (hvalue.symm.trans hb)
    obtain rfl := Option.some.inj (h.value.symm.trans hc)
    exact_mod_cast hle
  · exact fun hle => ⟨_, a, hvalue, h.value, by exact_mod_cast hle⟩

theorem stageOf_double {bonus : Float} {a : ℤ} (h : Double.HasValue bonus a) {last : Nat}
    (hlast : last ≤ 2 ^ 53) :
    (stageOf bonus last : ℤ) = max 0 (min ⌊(a : ℝ) / Double.unit⌋ last) :=
  stageOf_eq_floor fun k hk => ofNat_le_iff h (by omega)

/-! ### Expectations -/

section Info

variable {α : Type} [Scalar α]

/-- What modifiers find in a table: a chance between zero and one, which is that of the stage's
entry and the bonus unless the table is empty. -/
structure Info.Within (info : Info α) (table : List α) (chanceBonus : α) : Prop where
  entry : table ≠ [] → ∃ base, table[info.stage]? = some base ∧
    info.chance = clamp (base + chanceBonus) 0 1
  chance_nonneg : 0 ≤ info.chance
  chance_le_one : info.chance ≤ 1

theorem within_expectation [LawfulOrder α] (presets : Keyed Text (List α)) (m : CritModifiers α)
    (preset : Text) (baseDamage : α) (fallback : Option α) :
    (expectation presets m preset baseDamage fallback).Within (tableOf presets preset)
      m.chanceBonus := by
  refine ⟨fun hne => ?_, (clamp_zero_one _).1, (clamp_zero_one _).2⟩
  have hentry := List.getElem?_eq_getElem (stageOf_lt_length m.stageBonus hne)
  refine ⟨_, hentry, ?_⟩
  unfold expectation
  dsimp only
  rw [hentry, Option.getD_some]

end Info

/-- What is expected, at a chance, of hits that are worth one and of critical ones that are worth
`damage`. -/
structure Interpolates (chance damage expected : ℝ) : Prop where
  formula : expected = 1 + chance * (damage - 1)
  nonneg : 0 ≤ expected
  lower : min 1 damage ≤ expected
  upper : expected ≤ max 1 damage
  certain : chance = 1 → expected = damage
  never : chance = 0 → expected = 1

section Interpolation

variable {c d : ℝ} (hc₀ : 0 ≤ c) (hc₁ : c ≤ 1)

include hc₀ hc₁ in
theorem interpolation_mem : min 1 d ≤ 1 + c * (d - 1) ∧ 1 + c * (d - 1) ≤ max 1 d := by
  rcases le_total 1 d with hd | hd
  · have hshare₀ : 0 ≤ c * (d - 1) := mul_nonneg hc₀ (sub_nonneg.2 hd)
    have hshare₁ : c * (d - 1) ≤ d - 1 := mul_le_of_le_one_left (sub_nonneg.2 hd) hc₁
    rw [min_eq_left hd, max_eq_right hd]
    constructor <;> linarith
  · have hshare₀ : c * (d - 1) ≤ 0 := mul_nonpos_of_nonneg_of_nonpos hc₀ (sub_nonpos.2 hd)
    have hshare₁ : d - 1 ≤ c * (d - 1) := le_mul_of_le_one_left (sub_nonpos.2 hd) hc₁
    rw [min_eq_right hd, max_eq_left hd]
    constructor <;> linarith

include hc₀ hc₁ in
/-- Between one and a damage within the bound nothing has to be brought back. -/
theorem interpolates_bounded {g : ℝ} (hg : 1 ≤ g) (hd₀ : 0 ≤ d) (hd : d ≤ g) :
    Interpolates c d (Saturation.bounded g (1 + c * (d - 1))) := by
  obtain ⟨hlower, hupper⟩ := interpolation_mem (d := d) hc₀ hc₁
  have hnonneg : 0 ≤ 1 + c * (d - 1) := (le_min zero_le_one hd₀).trans hlower
  have hformula : Saturation.bounded g (1 + c * (d - 1)) = 1 + c * (d - 1) :=
    Saturation.bounded_of_mem (by linarith) (hupper.trans (max_le hg hd))
  rw [hformula]
  refine ⟨rfl, hnonneg, hlower, hupper, fun hone => ?_, fun hzero => ?_⟩
  · rw [hone]
    ring
  · rw [hzero]
    ring

end Interpolation

/-- In exact arithmetic the expectation interpolates. -/
theorem interpolates_expectation (presets : Keyed Text (List Exact)) {m : CritModifiers Exact}
    (preset : Text) {baseDamage : Exact} (fallback : Option Exact) (hm : 0 ≤ m.damageFactor)
    (hd : 0 ≤ baseDamage) :
    let info := expectation presets m preset baseDamage fallback
    Interpolates info.chance info.damage info.expected := by
  intro info
  have hlimit := Exact.limit_pos.le
  have hchance : 0 ≤ info.chance ∧ info.chance ≤ 1 := clamp_zero_one _
  have hdamage : info.damage = Saturation.bounded Exact.limit (baseDamage * m.damageFactor) :=
    Exact.saturate_eq _
  have hnonneg : (0 : ℝ) ≤ info.damage := by
    rw [hdamage]
    exact Saturation.bounded_nonneg hlimit (mul_nonneg (α := ℝ) hd hm)
  have hle : info.damage ≤ Exact.limit := by
    rw [hdamage]
    exact Saturation.bounded_le hlimit _
  have hexpected : info.expected =
      Saturation.bounded Exact.limit (1 + info.chance * (info.damage - 1) : Exact) :=
    Exact.saturate_eq _
  rw [hexpected]
  exact interpolates_bounded hchance.1 hchance.2 Exact.one_le_limit hnonneg hle

/-! ### Sources -/

section Sources

variable {α : Type} [Numeral α]

/-- A crit tag gives its factor whoever holds it. -/
theorem ofTag?_critDamage (holder : List Text) (tag : Text) :
    Slot.critDamage.ofTag? (α := α) holder tag = Slot.critDamage.ofTag? [] tag := by
  unfold Slot.ofTag?
  cases Tag.parse (α := α) tag with
  | none => rfl
  | some e =>
    cases e with
    | crit kind value => cases kind <;> rfl
    | _ => rfl

/-- The crit modifiers of tags are the same for all holders. -/
theorem crit_resolve (tags holder : List Text) :
    (Bundle.resolve tags holder : Bundle α).crit = (Bundle.resolve tags []).crit := by
  refine Bundle.crit_eq (fun tally => ?_) ?_ ?_
  · rw [Bundle.total_resolve, Bundle.total_resolve]
  · rw [Bundle.product_resolve, Bundle.product_resolve, funext (ofTag?_critDamage holder)]
  · rw [Bundle.applied_resolve, Bundle.applied_resolve]

end Sources

/-- Whatever the table and the modifiers are, the stage is a place of the table unless it is empty,
and the chance lies between zero and one. The stage is the whole part of the stage bonus brought
into the table, in doubles as long as they can count its places. Under a damage factor that is not
below zero, as resolved tags have it, the expectation of doubles is finite and not below zero, and
in exact arithmetic it lies between a hit that is not critical and one that is. Tags, whoever they
are resolved for, their bundle and its modifiers lead to the same. -/
theorem expectation_laws :
    (∀ {α : Type} [Numeral α] [LawfulOrder α] (presets : Keyed Text (List α))
        (m : CritModifiers α) (preset : Text) (baseDamage : α) (fallback : Option α),
      (expectation presets m preset baseDamage fallback).Within (tableOf presets preset)
        m.chanceBonus) ∧
      (∀ (presets : Keyed Text (List Exact)) (m : CritModifiers Exact) (preset : Text)
          (baseDamage : Exact) (fallback : Option Exact), 0 ≤ m.damageFactor → 0 ≤ baseDamage →
        let info := expectation presets m preset baseDamage fallback
        (info.stage : ℤ) = max 0 (min (Int.floor (α := ℝ) m.stageBonus)
            ((tableOf presets preset).length - 1 : ℕ)) ∧
          Interpolates info.chance info.damage info.expected) ∧
      (∀ (presets : Keyed Text (List Float)) (m : CritModifiers Float) (preset : Text)
          (baseDamage : Float) (fallback : Option Float), Finite m.stageBonus →
        0 ≤ m.damageFactor → 0 ≤ baseDamage →
        let info := expectation presets m preset baseDamage fallback
        info.Sound ∧ ∃ bonus, Double.HasValue m.stageBonus bonus ∧
          ((tableOf presets preset).length ≤ 2 ^ 53 →
            (info.stage : ℤ) = max 0 (min ⌊(bonus : ℝ) / Double.unit⌋
              ((tableOf presets preset).length - 1 : ℕ)))) ∧
      (∀ tags holder : List Text,
        let m := (Bundle.resolve tags holder : Bundle Float).crit
        Finite m.chanceBonus ∧ Amount m.damageFactor ∧ Finite m.stageBonus) ∧
      ∀ {α : Type} [Numeral α] (presets : Keyed Text (List α)) (preset : Text) (baseDamage : α)
          (fallback : Option α) (tags holder : List Text),
        let bundle := Bundle.resolve tags holder
        let info (source : Source α) := expectationOf presets source preset baseDamage fallback
        info (.bundle bundle) = info (.tags tags) ∧
          info (.modifiers bundle.crit) = info (.tags tags) := by
  refine ⟨fun presets m preset baseDamage fallback => ?_, ?_, ?_, fun tags holder => ?_, ?_⟩
  · exact within_expectation presets m preset baseDamage fallback
  · intro presets m preset baseDamage fallback hm hd
    exact ⟨stageOf_exact _ _, interpolates_expectation presets preset fallback hm hd⟩
  · intro presets m preset baseDamage fallback hfinite hm hd
    obtain ⟨bonus, hbonus⟩ := Double.finite_iff.1 hfinite
    refine ⟨sound_expectation presets preset fallback (not_lt_of_le hm) (not_lt_of_le hd), bonus,
      hbonus, fun hlength => ?_⟩
    exact stageOf_double hbonus (by omega)
  · have hsound := Bundle.sound_resolve (α := Float) tags holder
    exact ⟨hsound.critChance, hsound.critDamage, hsound.critStage⟩
  · intro α _ presets preset baseDamage fallback tags holder bundle info
    have hcrit : bundle.crit = (Bundle.resolve tags [] : Bundle α).crit := crit_resolve tags holder
    exact ⟨congrArg (fun m => expectation presets m preset baseDamage fallback) hcrit,
      congrArg (fun m => expectation presets m preset baseDamage fallback) hcrit⟩

/-- A table of three places. -/
def threeStages {α : Type} [Scalar α] : Keyed Text (List α) := [("three", [0.25, 0.5, 1])]

/-- Modifiers of a stage bonus between one and two. -/
def almostTwo {α : Type} [Scalar α] : CritModifiers α := ⟨0, 1, 1.75, true⟩

/-- A bonus of one and three quarters leads to the second place of three. -/
theorem expectation_laws_three :
    let info := expectation threeStages almostTwo "three" (1.5 : Float) none
    let ideal := expectation threeStages almostTwo "three" (1.5 : Exact) none
    (info.stage = 1 ∧ info.Sound ∧ ∃ bonus, Double.HasValue 1.75 bonus ∧
        (info.stage : ℤ) = max 0 (min ⌊(bonus : ℝ) / Double.unit⌋ (3 - 1 : ℕ))) ∧
      (ideal.stage : ℤ) = max 0 (min (Int.floor (α := ℝ) 1.75) (3 - 1 : ℕ)) ∧
        Interpolates ideal.chance ideal.damage ideal.expected := by
  intro info ideal
  obtain ⟨-, hexact, hdouble, -, -⟩ := expectation_laws
  constructor
  · obtain ⟨hsound, bonus, hbonus, hstage⟩ := hdouble threeStages almostTwo "three" 1.5 none
      (by decide +kernel) (by decide +kernel) (by decide +kernel)
    exact ⟨by decide +kernel, hsound, bonus, hbonus, hstage (show 3 ≤ 2 ^ 53 by norm_num)⟩
  · exact hexact threeStages almostTwo "three" 1.5 none (show (0 : ℝ) ≤ 1 by norm_num)
      (show (0 : ℝ) ≤ 1.5 by norm_num)

end Roster.Crit
