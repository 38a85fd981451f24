import Mathlib.Data.String.Basic
import Roster.Proofs.Analysis.Preset
import Roster.Proofs.Analysis.Ranking
import Roster.Proofs.Warning.PerCreature

/-!
# The warning of an unknown crit table

Only the rule about the crit table looks at the settings. Where they name the table that counts, a
report has no item of that rule and is else the same, in the same order.
-/

namespace Roster.Warning

/-! ### Reports without a code -/

/-- The items of other codes. -/
def withoutCode (code : String) (items : List Warning) : List Warning :=
  items.filter fun w => w.code ≠ code

theorem before_iff (w v : Warning) :
    before w v = true ↔
      w.severity.order < v.severity.order ∨
        w.severity.order = v.severity.order ∧ w.code ≤ v.code := by
  unfold before
  split
  · rename_i h
    simp [h]
  · rename_i h
    simp [h]

theorem before_trans (u w v : Warning) : before u w → before w v → before u v := by
  simp only [before_iff]
  rintro (huw | ⟨huw, hu⟩) (hwv | ⟨hwv, hw⟩)
  · exact Or.inl (huw.trans hwv)
  · exact Or.inl (hwv ▸ huw)
  · exact Or.inl (huw ▸ hwv)
  · exact Or.inr ⟨huw.trans hwv, hu.trans hw⟩

theorem before_total (w v : Warning) : before w v || before v w := by
  rw [Bool.or_eq_true, before_iff, before_iff]
  rcases lt_trichotomy w.severity.order v.severity.order with h | h | h
  · exact Or.inl (Or.inl h)
  · exact (le_total w.code v.code).imp (fun hc => Or.inr ⟨h, hc⟩) fun hc => Or.inr ⟨h.symm, hc⟩
  · exact Or.inr (Or.inl h)

/-- A report without a code is made of the other items. -/
theorem withoutCode_evaluate (code : String) (rules : List Rule) (ctx : Context) :
    withoutCode code (evaluate rules ctx) =
      (dedup (rules.flatMap fun rule => withoutCode code (rule ctx))).mergeSort before := by
  have hdedup : withoutCode code (dedup (rules.flatMap fun rule => rule ctx)) =
      dedup (withoutCode code (rules.flatMap fun rule => rule ctx)) :=
    filter_dedupFrom (fun k => decide (k.1 ≠ code)) _ fun _ _ => Iff.rfl
  unfold evaluate
  rw [withoutCode, ← mergeSort_filter before_trans before_total]
  change (withoutCode code _).mergeSort before = _
  rw [hdedup, withoutCode, List.filter_flatMap]
  rfl

theorem Rule.HasCode.withoutCode_eq_self {rule : Rule} {code code' : String}
    (h : rule.HasCode code) (hne : code ≠ code') (ctx : Context) :
    withoutCode code' (rule ctx) = rule ctx := by
  refine List.filter_eq_self.2 fun w hw => ?_
  rw [decide_eq_true_eq, h ctx w hw]
  exact hne

theorem Rule.HasCode.withoutCode_self {rule : Rule} {code : String} (h : rule.HasCode code)
    (ctx : Context) : withoutCode code (rule ctx) = [] := by
  refine List.filter_eq_nil_iff.2 fun w hw => ?_
  simp [h ctx w hw]

/-! ### The crit table that counts -/

/-- The code of an unknown crit table's item. -/
def unknownPresetCode : String := "UNKNOWN_CRIT_PRESET"

theorem unknownPresetRule_eq_nil_iff (ctx : Context) :
    unknownPresetRule ctx = [] ↔ Crit.isKnownPreset ctx.preset = true := by
  unfold unknownPresetRule
  split <;> simp [*]

/-- A default rule puts out the same under a known crit table, but for the item of an unknown
one. -/
theorem rule_known (ctx : Context) {preset : Text} (h : Crit.isKnownPreset preset = true) :
    ∀ p ∈ codedRules,
      withoutCode unknownPresetCode (p.1 ctx) = p.1 { ctx with preset } := by
  have hother {rule : Rule} {code : String} (hcode : rule.HasCode code)
      (hne : code ≠ unknownPresetCode) (hsame : rule ctx = rule { ctx with preset }) :
      withoutCode unknownPresetCode (rule ctx) = rule { ctx with preset } :=
    (hcode.withoutCode_eq_self hne ctx).trans hsame
  have hunknown : withoutCode unknownPresetCode (unknownPresetRule ctx) =
      unknownPresetRule { ctx with preset } := by
    rw [(unknownPresetRule_eq_nil_iff { ctx with preset }).2 h]
    exact hasCode_unknownPresetRule.withoutCode_self ctx
  simp only [codedRules, List.forall_mem_cons, List.not_mem_nil, false_implies, implies_true,
    and_true]
  exact ⟨hother hasCode_unbalancedRule (by decide) rfl,
    hother hasCode_ignoredTagsRule (by decide) rfl, hunknown,
    hother hasCode_sharedWeaknessRule (by decide) rfl,
    hother hasCode_emptySlotsRule (by decide) rfl⟩

/-- Under a known crit table a report is the same but for the item of an unknown one. -/
theorem evaluate_known (ctx : Context) {preset : Text} (h : Crit.isKnownPreset preset = true) :
    evaluate defaultRules { ctx with preset } =
      withoutCode unknownPresetCode (evaluate defaultRules ctx) := by
  have hrules : defaultRules = codedRules.map Prod.fst := rfl
  have hitems : (codedRules.flatMap fun p => withoutCode unknownPresetCode (p.1 ctx)) =
      codedRules.flatMap fun p => p.1 { ctx with preset } :=
    List.flatMap_congr (rule_known ctx h)
  rw [withoutCode_evaluate, hrules, List.flatMap_map, hitems]
  unfold evaluate
  rw [List.flatMap_map]

theorem dedup_eq_nil_iff (items : List Warning) : dedup items = [] ↔ items = [] := by
  cases items with
  | nil => exact Iff.rfl
  | cons w rest => simp [dedup, dedupFrom]

/-- A report lacks the item of an unknown crit table exactly if the crit table is known. -/
theorem withoutCode_evaluate_eq_iff (ctx : Context) :
    withoutCode unknownPresetCode (evaluate defaultRules ctx) = evaluate defaultRules ctx ↔
      Crit.isKnownPreset ctx.preset = true := by
  have hmem : (unknownPresetRule, unknownPresetCode) ∈ codedRules :=
    List.mem_cons_of_mem _ (List.mem_cons_of_mem _ List.mem_cons_self)
  have hperm := ofCode_evaluate_perm unknownPresetCode defaultRules ctx
  rw [ofCode_defaultRules hmem] at hperm
  have hnil : ofCode unknownPresetCode (evaluate defaultRules ctx) = [] ↔
      dedup (unknownPresetRule ctx) = [] := by
    rw [← List.length_eq_zero_iff, hperm.length_eq, List.length_eq_zero_iff]
  rw [← unknownPresetRule_eq_nil_iff, ← dedup_eq_nil_iff, ← hnil]
  simp [withoutCode, ofCode, List.filter_eq_self, List.filter_eq_nil_iff]

end Roster.Warning
