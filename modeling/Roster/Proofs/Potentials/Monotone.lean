import Roster.Proofs.Bundle.Raised
import Roster.Proofs.Potentials.Sides

/-!
# Scores rise with stats and factors

In exact arithmetic no side and no rank falls where a stat or the factor of a multiplier is raised.
The sides rise step by step with what they are made of. The rank does not: the larger side raised,
the two are less even, and the share that this takes has to be set against what the weighted sum
gains.
-/

namespace Roster

/-! ### The rank of two sides -/

/-- How even two numbers are: the smaller over the larger, one if both are zero. -/
noncomputable def evenness (a b : ℝ) : ℝ := if max a b = 0 then 1 else min a b / max a b

/-- A weighted sum of two numbers, of which up to 12 % are taken off for being uneven. -/
noncomputable def evened (w v a b : ℝ) : ℝ := (w * a + v * b) * (0.88 + 0.12 * evenness a b)

section Evened

variable {w v a a' b b' : ℝ}

theorem evenness_of_le (hb : 0 < b) (h : a ≤ b) : evenness a b = a / b := by
  rw [evenness, max_eq_right h, min_eq_left h, if_neg hb.ne']

theorem evenness_of_ge (ha : 0 < a) (h : b ≤ a) : evenness a b = b / a := by
  rw [evenness, max_eq_left h, min_eq_right h, if_neg ha.ne']

theorem evenness_comm (a b : ℝ) : evenness a b = evenness b a := by
  rw [evenness, evenness, max_comm, min_comm]

theorem evened_comm (w v a b : ℝ) : evened w v a b = evened v w b a := by
  rw [evened, evened, evenness_comm, add_comm]

theorem evened_zero (w v : ℝ) : evened w v 0 0 = 0 := by
  simp [evened]

theorem evenness_nonneg (ha : 0 ≤ a) (hb : 0 ≤ b) : 0 ≤ evenness a b := by
  unfold evenness
  split
  · exact zero_le_one
  · exact div_nonneg (le_min ha hb) (le_max_of_le_left ha)

theorem evened_nonneg (hw : 0 ≤ w) (hv : 0 ≤ v) (ha : 0 ≤ a) (hb : 0 ≤ b) :
    0 ≤ evened w v a b := by
  have := evenness_nonneg ha hb
  unfold evened
  positivity

/-- Up to the other side, a side that is raised makes the two more even. -/
theorem evened_lt_of_le (hw : 0 < w) (hv : 0 ≤ v) (ha : 0 ≤ a) (h : a < a') (hb : a' ≤ b) :
    evened w v a b < evened w v a' b := by
  have hpos : 0 < b := ha.trans_lt (h.trans_le hb)
  have heven : evenness a b ≤ evenness a' b := by
    rw [evenness_of_le hpos (h.le.trans hb), evenness_of_le hpos hb]
    exact div_le_div_of_nonneg_right h.le hpos.le
  have hsum : w * a + v * b < w * a' + v * b :=
    add_lt_add_left (mul_lt_mul_of_pos_left h hw) _
  have hshare : 0 < 0.88 + 0.12 * evenness a b := by
    have := evenness_nonneg ha hpos.le
    positivity
  unfold evened
  calc
    (w * a + v * b) * (0.88 + 0.12 * evenness a b)
      < (w * a' + v * b) * (0.88 + 0.12 * evenness a b) := mul_lt_mul_of_pos_right hsum hshare
    _ ≤ (w * a' + v * b) * (0.88 + 0.12 * evenness a' b) := by
      have hsum' : 0 ≤ w * a' + v * b :=
        add_nonneg (mul_nonneg hw.le (ha.trans h.le)) (mul_nonneg hv hpos.le)
      gcongr

/-- Beyond the other side, what it makes them less even is made up for by its weight. -/
theorem evened_lt_of_ge (hw : 0 < w) (hv : 0 ≤ v) (hwv : v * 0.12 ≤ w * 0.88) (hb : 0 ≤ b)
    (hba : b ≤ a) (h : a < a') : evened w v a b < evened w v a' b := by
  have hpos' : 0 < a' := (hb.trans hba).trans_lt h
  rcases (hb.trans hba).eq_or_lt with rfl | hpos
  · obtain rfl := le_antisymm hba hb
    rw [evened_zero, evened, evenness_of_ge hpos' hpos'.le]
    positivity
  · have hgain : evened w v a' b - evened w v a b =
        (a' - a) * (w * 0.88 - v * 0.12 * (b / a * (b / a'))) := by
      unfold evened
      rw [evenness_of_ge hpos hba, evenness_of_ge hpos' (hba.trans h.le)]
      field_simp
      ring
    have hshare : b / a * (b / a') < 1 :=
      mul_lt_one_of_nonneg_of_lt_one_right ((div_le_one hpos).2 hba) (div_nonneg hb hpos'.le)
        ((div_lt_one hpos').2 (hba.trans_lt h))
    have hloss : v * 0.12 * (b / a * (b / a')) < w * 0.88 :=
      calc
        v * 0.12 * (b / a * (b / a')) ≤ w * 0.88 * (b / a * (b / a')) := by gcongr
        _ < w * 0.88 := mul_lt_of_lt_one_right (by positivity) hshare
    have := mul_pos (sub_pos.2 h) (sub_pos.2 hloss)
    linarith

/-- A side that is raised passes the other one at most once. -/
theorem evened_lt_left (hw : 0 < w) (hv : 0 ≤ v) (hwv : v * 0.12 ≤ w * 0.88) (ha : 0 ≤ a)
    (h : a < a') (hb : 0 ≤ b) : evened w v a b < evened w v a' b := by
  rcases le_total a' b with hab | hba
  · exact evened_lt_of_le hw hv ha h hab
  · rcases lt_or_ge a b with hab' | hba'
    · rcases hba.eq_or_lt with rfl | hlt
      · exact evened_lt_of_le hw hv ha hab' le_rfl
      · exact (evened_lt_of_le hw hv ha hab' le_rfl).trans
          (evened_lt_of_ge hw hv hwv hb le_rfl hlt)
    · exact evened_lt_of_ge hw hv hwv hb hba' h

theorem evened_lt_right (hw : 0 ≤ w) (hv : 0 < v) (hvw : w * 0.12 ≤ v * 0.88) (ha : 0 ≤ a)
    (hb : 0 ≤ b) (h : b < b') : evened w v a b < evened w v a b' := by
  rw [evened_comm w v a b, evened_comm w v a b']
  exact evened_lt_left hv hw hvw hb h ha

theorem evened_rises (hw : 0 < w) (hv : 0 < v) (hwv : v * 0.12 ≤ w * 0.88)
    (hvw : w * 0.12 ≤ v * 0.88) (ha : Rises a a') (hb : Rises b b') :
    Rises (evened w v a b) (evened w v a' b') := by
  refine ⟨evened_nonneg hw.le hv.le ha.nonneg hb.nonneg, ?_⟩
  calc
    evened w v a b ≤ evened w v a' b := by
      rcases ha.le.eq_or_lt with rfl | hlt
      · exact le_rfl
      · exact (evened_lt_left hw hv.le hwv ha.nonneg hlt hb.nonneg).le
    _ ≤ evened w v a' b' := by
      rcases hb.le.eq_or_lt with rfl | hlt
      · exact le_rfl
      · exact (evened_lt_right hw.le hv hvw ha.nonneg' hb.nonneg hlt).le

end Evened

namespace Potentials

/-- Scores whose sides and rank are not above those of others. -/
structure AtMost {α : Type} [Scalar α] (p p' : Potentials α) : Prop where
  offense : p.offense ≤ p'.offense
  defense : p.defense ≤ p'.defense
  rank : p.rank ≤ p'.rank

variable {root : ℝ → ℝ}

open Rooted

/-! ### Formulas -/

section Formulas

variable {a a' b b' c c' : Rooted root}

theorem rises_larger (ha : Rises a a') (hb : Rises b b') :
    Rises (Scalar.larger a b) (Scalar.larger a' b') := by
  rw [larger_eq, larger_eq]
  exact ha.max hb

theorem rises_blend (ha : Rises a a') (hb : Rises b b') : Rises (blend a b) (blend a' b') := by
  have htop : (0 : ℝ) ≤ 0.75 := by norm_num
  have hmean : (0 : ℝ) ≤ 0.25 := by norm_num
  have htwo : (0 : ℝ) ≤ 2.0 := by norm_num
  exact rises_saturate (((Rises.same htop).mul (rises_larger ha hb)).add
    ((Rises.same hmean).mul ((ha.add hb).div htwo)))

theorem rises_bulkProduct (ha : Rises a a') (hb : Rises b b') :
    Rises (bulkProduct a b) (bulkProduct a' b') :=
  rises_product (.cons ha (.cons hb .nil))

theorem rises_bulk (hroot : LawfulRoot root) (ha : Rises a a') (hb : Rises b b')
    (hc : Rises c c') : Rises (bulk a b c) (bulk a' b' c') :=
  rises_product (.cons (rises_sqrt hroot (rises_bulkProduct ha hb)) (.cons hc .nil))

theorem rises_baseOffense (ha : Rises a a') (hb : Rises b b') :
    Rises (baseOffense a b) (baseOffense a' b') := by
  have hattack : (0 : ℝ) ≤ 1 - 0.6 := by norm_num
  have hspeed : (0 : ℝ) ≤ 0.6 := by norm_num
  exact rises_saturate (((Rises.same hattack).mul ha).add ((Rises.same hspeed).mul hb))

theorem blend_le_limit (a b : Rooted root) : blend a b ≤ Exact.limit :=
  (saturate_eq _).trans_le (Saturation.bounded_le Exact.limit_pos.le _)

theorem balance_eq (a b : Rooted root) : balance a b = evenness a b := by
  unfold balance evenness
  rw [larger_eq, smaller_eq]
  by_cases h : max (α := ℝ) a b = 0
  · rw [if_pos ((isZero_iff _).2 h), if_pos h]
    rfl
  · rw [if_neg (mt (isZero_iff _).1 h), if_neg h]
    rfl

/-- The weighted sum of two sides stays in the range, its weights being shares of one. -/
theorem rawRank_eq (ha : 0 ≤ a) (hal : a ≤ Exact.limit) (hb : 0 ≤ b) (hbl : b ≤ Exact.limit) :
    rawRank a b = 0.56 * a + 0.44 * b := by
  have hmem {x y g : ℝ} (hx : 0 ≤ x) (hxg : x ≤ g) (hy : 0 ≤ y) (hyg : y ≤ g) :
      -g ≤ 0.56 * x + 0.44 * y ∧ 0.56 * x + 0.44 * y ≤ g := by
    constructor <;> linarith
  obtain ⟨hlow, hhigh⟩ := hmem ha hal hb hbl
  exact (saturate_eq _).trans (Saturation.bounded_of_mem hlow hhigh)

theorem rankOf_eq (ha : 0 ≤ a) (hal : a ≤ Exact.limit) (hb : 0 ≤ b) (hbl : b ≤ Exact.limit) :
    rankOf a b = Saturation.bounded Exact.limit (evened 0.56 0.44 a b) := by
  unfold rankOf
  rw [rawRank_eq ha hal hb hbl, balance_eq]
  exact saturate_eq _

theorem rises_rankOf (ha : Rises a a') (hal : a' ≤ Exact.limit) (hb : Rises b b')
    (hbl : b' ≤ Exact.limit) : Rises (rankOf a b) (rankOf a' b') := by
  rw [rankOf_eq ha.nonneg (LawfulOrder.le_trans ha.le hal) hb.nonneg
      (LawfulOrder.le_trans hb.le hbl),
    rankOf_eq (Rises.nonneg' ha) hal (Rises.nonneg' hb) hbl]
  refine (evened_rises ?_ ?_ ?_ ?_ ha hb).bounded Exact.limit_pos.le <;> norm_num

end Formulas

/-! ### What stays the same -/

section Same

variable (type1 : Int) (type2 : Option Int) (types : List TypeInfo)
  (chart : TypeChart (Rooted root))

theorem nonneg_typeDefenseOf (hroot : LawfulRoot root) (bundle : Bundle (Rooted root)) :
    (0 : ℝ) ≤ typeDefenseOf bundle type1 type2 types chart := by
  have hfloor : (0 : ℝ) ≤ incomingFloor (meanIncoming bundle type1 type2 types chart) := by
    unfold incomingFloor
    split
    · exact Scalar.le_of_lt ‹_›
    · exact show (0 : ℝ) ≤ 1e-6 by norm_num
  exact Real.rpow_nonneg (one_div_nonneg.2 (hroot.nonneg hfloor)) _

theorem nonneg_stabPowerOf (multiplier : Rooted root) : (0 : ℝ) ≤ stabPowerOf multiplier := by
  unfold stabPowerOf
  split
  · exact Real.rpow_nonneg (neg_nonneg.2 (Scalar.le_of_lt ‹_›)) _
  · exact Real.rpow_nonneg (not_lt.1 ‹_›) _

theorem nonneg_stabOf : (0 : ℝ) ≤ stabOf type1 type2 types chart := by
  have hsum : ∀ (types : List TypeInfo) (start : ℝ), 0 ≤ start →
      (0 : ℝ) ≤ types.foldl (fun (sum : Rooted root) t =>
        sum + stabPowerOf (chart.bestOffense t.id type1 type2)) start := by
    intro types
    induction types with
    | nil => exact fun _ h => h
    | cons t types ih => exact fun start h => ih _ (add_nonneg h (nonneg_stabPowerOf _))
  have hmean : (0 : ℝ) ≤ meanOver types.length (types.foldl (fun (sum : Rooted root) t =>
      sum + stabPowerOf (chart.bestOffense t.id type1 type2)) 0) :=
    div_nonneg (hsum types 0 le_rfl) (Int.cast_nonneg (Int.natCast_nonneg _))
  exact (rises_saturate (.same (Real.rpow_nonneg (Real.rpow_nonneg hmean _) _))).nonneg

/-- A hit that may be critical is worth no less than nothing. -/
theorem nonneg_expected (presets : Keyed Text (List (Rooted root)))
    {modifiers : CritModifiers (Rooted root)} (preset : Text) {damage : Rooted root}
    (fallback : Option (Rooted root)) (hm : 0 ≤ modifiers.damageFactor) (hd : 0 ≤ damage) :
    (0 : ℝ) ≤ (Crit.expectation presets modifiers preset damage fallback).expected := by
  have hworth {c d : ℝ} (hlow : 0 ≤ c) (hhigh : c ≤ 1) (hd : 0 ≤ d) : 0 ≤ 1 + c * (d - 1) := by
    have := mul_nonneg hlow hd
    linarith
  have hchance : 0 ≤ (Crit.expectation presets modifiers preset damage fallback).chance ∧
      (Crit.expectation presets modifiers preset damage fallback).chance ≤ 1 :=
    Scalar.clamp_zero_one _
  have hdamage : (0 : ℝ) ≤ (Crit.expectation presets modifiers preset damage fallback).damage :=
    (rises_saturate (.same (mul_nonneg hd hm))).nonneg
  exact (rises_saturate (.same (hworth hchance.1 hchance.2 hdamage))).nonneg

end Same

/-! ### Scores -/

section Scores

variable {stats stats' : Stats (Rooted root)} {b b' : Bundle (Rooted root)}
  (hstats : ∀ stat, Rises (stats.get stat) (stats'.get stat)) (hb : b.Raised b')

include hstats hb in
theorem rises_adjusted (stat : Stat) :
    Rises ((adjusted stats b).get stat) ((adjusted stats' b').get stat) := by
  unfold adjusted
  rw [Stats.get_ofFn, Stats.get_ofFn]
  exact rises_saturate ((hstats stat).mul (hb.product (.stat stat)))

variable (type1 : Int) (type2 : Option Int) (types : List TypeInfo)
  (chart : TypeChart (Rooted root)) (settings : Settings (Rooted root))

include hstats hb in
/-- The scores of raised stats and a raised bundle are no lower. -/
theorem atMost_ofBundle (hroot : LawfulRoot root) (hd : 0 ≤ settings.critDamage) :
    (ofBundle stats b type1 type2 types chart settings).AtMost
      (ofBundle stats' b' type1 type2 types chart settings) := by
  have hstat := rises_adjusted hstats hb
  have hstab : Rises (stabOf type1 type2 types chart) (stabOf type1 type2 types chart) :=
    .same (nonneg_stabOf type1 type2 types chart)
  have hcrit : Rises
      (Crit.expectation Crit.presets b.crit settings.critPreset settings.critDamage
        settings.critChance).expected
      (Crit.expectation Crit.presets b'.crit settings.critPreset settings.critDamage
        settings.critChance).expected := by
    rw [← hb.crit]
    exact .same (nonneg_expected Crit.presets settings.critPreset settings.critChance
      (hb.product .critDamage).nonneg hd)
  have htype : Rises (typeDefenseOf b type1 type2 types chart)
      (typeDefenseOf b' type1 type2 types chart) := by
    rw [← typeDefenseOf_eq_of_same type1 type2 chart (hb.incoming _) fun t ht =>
      List.mem_map.2 ⟨t, ht, rfl⟩]
    exact .same (nonneg_typeDefenseOf type1 type2 types chart hroot b)
  have hoffensive (stat : Stat) : List.Forall₂ Rises
      [baseOffense ((adjusted stats b).get stat) (adjusted stats b).speed, _, _, b.offense,
        b.offenseByType]
      [baseOffense ((adjusted stats' b').get stat) (adjusted stats' b').speed, _, _, b'.offense,
        b'.offenseByType] :=
    .cons (rises_baseOffense (hstat stat) (hstat .speed)) (.cons hstab (.cons hcrit
      (.cons (hb.product .offense) (.cons (hb.product .offenseByType) .nil))))
  have hdefensive (stat : Stat) {c c' : Rooted root} (hc : Rises c c') : List.Forall₂ Rises
      [bulk (adjusted stats b).hp ((adjusted stats b).get stat) c, _, b.defense]
      [bulk (adjusted stats' b').hp ((adjusted stats' b').get stat) c', _, b'.defense] :=
    .cons (rises_bulk hroot (hstat .hp) (hstat stat) hc)
      (.cons htype (.cons (hb.product .defense) .nil))
  have hoffense : Rises (ofBundle stats b type1 type2 types chart settings).offense
      (ofBundle stats' b' type1 type2 types chart settings).offense :=
    rises_blend (rises_product (hoffensive .attack)) (rises_product (hoffensive .specialAttack))
  have hdefense : Rises (ofBundle stats b type1 type2 types chart settings).defense
      (ofBundle stats' b' type1 type2 types chart settings).defense :=
    rises_blend (rises_product (hdefensive .defense (hb.product .physicalBulk)))
      (rises_product (hdefensive .specialDefense (hb.product .specialBulk)))
  exact ⟨hoffense.le, hdefense.le,
    (rises_rankOf hoffense (blend_le_limit _ _) hdefense (blend_le_limit _ _)).le⟩

variable {settings} in
include hstats hb in
/-- Neither stats nor factors decide whether a creature has scores: no product under a root is below
zero. -/
theorem fault?_eq_of_raised :
    fault? stats b type1 type2 types chart = fault? stats' b' type1 type2 types chart := by
  have hbulk (stat : Stat) := rises_bulkProduct (rises_adjusted hstats hb .hp)
    (rises_adjusted hstats hb stat)
  rw [fault?_of_bulk _ _ _ _ _ fun stat => Scalar.not_lt_of_le (hbulk stat).nonneg,
    fault?_of_bulk _ _ _ _ _ fun stat => Scalar.not_lt_of_le (Rises.nonneg' (hbulk stat))]

include hstats hb in
theorem fault?_eq_none_of_raised (hchart : ∀ e ∈ chart.entries, 0 ≤ e.2) :
    fault? stats b type1 type2 types chart = none := by
  have hmultiplier (attacking defending : Int) : Rises (chart.multiplier attacking defending)
      (chart.multiplier attacking defending) :=
    .same (TypeChart.holds_multiplier LawfulOrder.zero_le_one hchart attacking defending)
  have hbest (defending : Int) : 0 ≤ chart.bestOffense defending type1 type2 := by
    cases type2 with
    | none => exact (hmultiplier type1 defending).nonneg
    | some type2 =>
      exact (rises_larger (hmultiplier type1 defending) (hmultiplier type2 defending)).nonneg
  have hbulk (stat : Stat) := rises_bulkProduct (rises_adjusted hstats hb .hp)
    (rises_adjusted hstats hb stat)
  rw [fault?_of_bulk _ _ _ _ _ fun stat => Scalar.not_lt_of_le (hbulk stat).nonneg, if_neg]
  rintro ⟨t, -, hneg, -⟩
  exact Scalar.not_lt_of_le (hbest t.id) hneg

end Scores

/-! ### Numbers as they are written -/

theorem exists_rises_scalarStats? {stats stats' : Stats (Number (Rooted root))}
    (h : ∀ stat, (stats.get stat).Raised (stats'.get stat)) :
    ∃ s s', scalarStats? stats = some s ∧ scalarStats? stats' = some s' ∧
      ∀ stat, Rises (s.get stat) (s'.get stat) := by
  choose x x' hx hx' hnonneg hle using h
  refine ⟨.ofFn x, .ofFn x', ofFnM_eq_some_iff.2 fun stat => ?_, ofFnM_eq_some_iff.2 fun stat => ?_,
    fun stat => ?_⟩
  · rw [Stats.get_ofFn]
    exact hx stat
  · rw [Stats.get_ofFn]
    exact hx' stat
  · rw [Stats.get_ofFn, Stats.get_ofFn]
    exact ⟨hnonneg stat, hle stat⟩

end Potentials

open Rooted in
/-- In exact arithmetic, with any root that keeps signs and order, neither a side nor the rank falls
where stats are raised that are not below zero, or the factors of multipliers among the tags. -/
theorem potentials_mono {root : ℝ → ℝ} (hroot : LawfulRoot root)
    {stats stats' : Stats (Number (Rooted root))}
    (hstats : ∀ stat, (stats.get stat).Raised (stats'.get stat)) {tags tags' : List Text}
    (htags : List.Forall₂ (Tag.Raised (Rooted root)) tags tags') (type1 : Int)
    (type2 : Option Int) (types : List TypeInfo) (chart : TypeChart (Rooted root))
    {settings : Settings (Number (Rooted root))} {damage : Rooted root}
    (hdamage : settings.critDamage.toScalar? = some damage) (hnonneg : 0 ≤ damage) :
    Potentials.Alike Potentials.AtMost
      (potentials stats tags type1 type2 types chart settings)
      (potentials stats' tags' type1 type2 types chart settings) ∧
    ((∀ e ∈ chart.entries, 0 ≤ e.2) →
      ∃ p p', potentials stats tags type1 type2 types chart settings = .ok p ∧
        potentials stats' tags' type1 type2 types chart settings = .ok p' ∧ p.AtMost p') := by
  obtain ⟨s, s', hs, hs', hrises⟩ := Potentials.exists_rises_scalarStats? hstats
  have hb := Bundle.raised_resolve htags (holderTypeNames type1 type2 types)
  obtain ⟨t, ht, hd⟩ :
      ∃ t, Potentials.scalarSettings? settings = some t ∧ t.critDamage = damage := by
    unfold Potentials.scalarSettings?
    rw [hdamage]
    exact ⟨_, rfl, rfl⟩
  have hscores :=
    Potentials.atMost_ofBundle hrises hb type1 type2 types chart t hroot (hd ▸ hnonneg)
  have hfault := Potentials.fault?_eq_of_raised hrises hb type1 type2 types chart
  constructor
  · refine potentials_alike_of_scalars stats chart settings hs hs' hfault fun t' ht' => ?_
    obtain rfl := Option.some.inj (ht.symm.trans ht')
    exact hscores
  · intro hchart
    have hnone := Potentials.fault?_eq_none_of_raised hrises hb type1 type2 types chart hchart
    exact ⟨_, _, (potentials_eq_ok_iff stats chart settings).2 ⟨s, t, hs, hnone, ht, rfl⟩,
      (potentials_eq_ok_iff stats' chart settings).2 ⟨s', t, hs', hfault ▸ hnone, ht, rfl⟩, hscores⟩

/-- A creature's attack is raised, and a factor of its offense. -/
theorem potentials_mono_attacker :
    let stats : Stats (Number (Rooted Real.sqrt)) := .const (.real 1)
    ∃ p p', potentials stats ["mult:off:1", "weak:fire"] 1 none [⟨1, "Fire", none, false⟩] ⟨[]⟩
        Settings.default.written = .ok p ∧
      potentials (stats.set .attack (.real (1 + 1))) ["mult:off:2", "weak:fire"] 1 none
        [⟨1, "Fire", none, false⟩] ⟨[]⟩ Settings.default.written = .ok p' ∧
      p.AtMost p' := by
  intro stats
  have hone : (0 : Rooted Real.sqrt) ≤ 1 := LawfulOrder.zero_le_one
  have htwo : (1 : Rooted Real.sqrt) ≤ 1 + 1 := show (1 : ℝ) ≤ 1 + 1 by norm_num
  have hfactor {s : Text} (n : ℕ) {x : Rooted Real.sqrt}
      (hs : Decimal.Literal.ofText? (Text.trim s) = some (.finite false n 0)) (hx : (n : ℝ) = x)
      (ha : Scalar.Amount x) : Tag.factor? s = some x := by
    have hvalue : Numeral.ofLiteral (α := Rooted Real.sqrt) (.finite false n 0) = x :=
      (mul_one (n : ℝ)).trans hx
    rw [Tag.factor?, Tag.number?, hs]
    dsimp only
    rw [hvalue, if_pos ha.finite, Option.bind_some, if_neg ha.not_neg]
  have hlimit : (1 + 1 : ℝ) ≤ Exact.limit := by
    have := Exact.four_le_limit
    linarith
  have hlow : Tag.factor? (α := Rooted Real.sqrt) "1" = some 1 :=
    hfactor 1 (by decide +kernel) Nat.cast_one Scalar.amount_one
  have hhigh : Tag.factor? (α := Rooted Real.sqrt) "2" = some (1 + 1) :=
    hfactor 2 (by decide +kernel) (show ((2 : ℕ) : ℝ) = 1 + 1 by norm_num)
      ⟨Scalar.finite_of_nonneg (LawfulOrder.le_trans hone htwo) hlimit,
        LawfulOrder.le_trans hone htwo⟩
  have hparse (s : Text) (h : s = "1" ∨ s = "2") :
      Tag.parse (α := Rooted Real.sqrt) ("mult:off:" ++ s) =
        (Tag.factor? s).bind fun f => some (.offense f) := by
    rcases h with rfl | rfl <;> rfl
  have hraised : Tag.Raised (Rooted Real.sqrt) "mult:off:1" "mult:off:2" := by
    refine Or.inr ⟨.offense 1, .offense (1 + 1), ?_, ?_, .offense htwo⟩
    · exact (hparse "1" (.inl rfl)).trans (by rw [hlow, Option.bind_some])
    · exact (hparse "2" (.inr rfl)).trans (by rw [hhigh, Option.bind_some])
  refine (potentials_mono Rooted.lawfulRoot_sqrt (fun stat => ?_)
    (.cons hraised (.cons (.inl rfl) .nil)) 1 none _ _ rfl ?_).2 fun e he => ?_
  · rw [Stats.get_set, Stats.get_const]
    split
    · exact ⟨1, _, rfl, rfl, hone, htwo⟩
    · exact ⟨1, 1, rfl, rfl, hone, Scalar.one_le_one⟩
  · exact show (0 : ℝ) ≤ 1.5 by norm_num
  · cases he

end Roster
