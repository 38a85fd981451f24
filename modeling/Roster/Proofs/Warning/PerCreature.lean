import Mathlib.Data.List.Nodup
import Roster.Proofs.Analysis.Total
import Roster.Warning.Basic

/-!
# Warnings about single creatures

Creatures whose two sides are zero and creatures with tags without an effect are warned of one by
one. A report keeps one item of each code and detail, and a detail gives no more of a creature than
its name and the number of its tags without an effect. So nothing is lost exactly if no two
creatures that are warned of agree in these.
-/

namespace Roster

namespace Warning

/-! ### Items told apart by their keys -/

/-- Keeping the first item of every key does not mix keys. -/
theorem filter_dedupFrom (p : String × Text → Bool) (items : List Warning)
    {seen seen' : List (String × Text)}
    (h : ∀ w : Warning, p w.key = true → (w.key ∈ seen ↔ w.key ∈ seen')) :
    (dedupFrom seen items).filter (fun w => p w.key) =
      dedupFrom seen' (items.filter fun w => p w.key) := by
  induction items generalizing seen seen' with
  | nil => rfl
  | cons w rest ih =>
    rw [List.filter_cons, dedupFrom]
    by_cases hp : p w.key = true
    · rw [if_pos hp, dedupFrom]
      by_cases hs : w.key ∈ seen
      · rw [if_pos hs, if_pos ((h w hp).1 hs)]
        exact ih h
      · rw [if_neg hs, if_neg fun hs' => hs ((h w hp).2 hs'), List.filter_cons, if_pos hp,
          ih fun v hv => ?_]
        simp only [List.mem_cons, h v hv]
    · rw [if_neg hp]
      by_cases hs : w.key ∈ seen
      · rw [if_pos hs]
        exact ih h
      · rw [if_neg hs, List.filter_cons, if_neg hp, ih fun v hv => ?_]
        have hne : v.key ≠ w.key := fun hk => hp (hk ▸ hv)
        simp only [List.mem_cons, hne, false_or, h v hv]

/-- Keeping the first item of every key does not mix codes. -/
theorem ofCode_dedup (code : String) (items : List Warning) :
    ofCode code (dedup items) = dedup (ofCode code items) :=
  filter_dedupFrom (fun k => decide (k.1 = code)) items fun _ _ => Iff.rfl

theorem dedupFrom_sublist (seen : List (String × Text)) (items : List Warning) :
    (dedupFrom seen items).Sublist items := by
  induction items generalizing seen with
  | nil => exact List.Sublist.refl []
  | cons w rest ih =>
    unfold dedupFrom
    split
    · exact (ih seen).cons w
    · exact (ih (w.key :: seen)).cons_cons w

theorem nodup_keys_dedupFrom (seen : List (String × Text)) (items : List Warning) :
    ((dedupFrom seen items).map key).Nodup ∧ ∀ w ∈ dedupFrom seen items, w.key ∉ seen := by
  induction items generalizing seen with
  | nil => simp [dedupFrom]
  | cons w rest ih =>
    unfold dedupFrom
    split
    · exact ih seen
    · rename_i hw
      obtain ⟨hnodup, hnew⟩ := ih (w.key :: seen)
      refine ⟨?_, ?_⟩
      · rw [List.map_cons, List.nodup_cons]
        refine ⟨fun hmem => ?_, hnodup⟩
        obtain ⟨v, hv, hkey⟩ := List.mem_map.1 hmem
        exact hnew v hv (hkey ▸ List.mem_cons_self)
      · intro v hv
        rcases List.mem_cons.1 hv with rfl | hv
        · exact hw
        · exact fun hs => hnew v hv (List.mem_cons_of_mem _ hs)

theorem dedupFrom_eq_self {seen : List (String × Text)} {items : List Warning}
    (h : (items.map key).Nodup) (hs : ∀ w ∈ items, w.key ∉ seen) :
    dedupFrom seen items = items := by
  induction items generalizing seen with
  | nil => rfl
  | cons w rest ih =>
    rw [List.map_cons, List.nodup_cons] at h
    obtain ⟨hw, hrest⟩ := List.forall_mem_cons.1 hs
    rw [dedupFrom, if_neg hw, ih h.2 fun v hv => ?_]
    rw [List.mem_cons, not_or]
    exact ⟨fun hk => h.1 (hk ▸ List.mem_map_of_mem hv), hrest v hv⟩

/-- No item is dropped exactly if no two have the same key. -/
theorem length_dedup_iff (items : List Warning) :
    (dedup items).length = items.length ↔ (items.map key).Nodup := by
  constructor
  · intro h
    rw [← (dedupFrom_sublist [] items).eq_of_length h]
    exact (nodup_keys_dedupFrom [] items).1
  · intro h
    exact congrArg List.length (dedupFrom_eq_self h fun w _ => List.not_mem_nil)

/-- A report holds the first items of every key of a code. -/
theorem ofCode_evaluate_perm (code : String) (rules : List Rule) (ctx : Context) :
    (ofCode code (evaluate rules ctx)).Perm
      (dedup (ofCode code (rules.flatMap fun rule => rule ctx))) := by
  rw [← ofCode_dedup]
  exact (List.mergeSort_perm _ before).filter _

/-! ### Codes of rules -/

/-- A rule all of whose items have a code. -/
def Rule.HasCode (rule : Rule) (code : String) : Prop := ∀ ctx, ∀ w ∈ rule ctx, w.code = code

theorem hasCode_unbalancedRule : Rule.HasCode unbalancedRule "BALANCE_INVALID" := by
  intro ctx w hw
  obtain ⟨c, -, rfl⟩ := List.mem_map.1 hw
  rfl

theorem hasCode_ignoredTagsRule : Rule.HasCode ignoredTagsRule "IGNORED_TAGS" := by
  intro ctx w hw
  obtain ⟨c, -, rfl⟩ := List.mem_map.1 hw
  rfl

theorem hasCode_unknownPresetRule : Rule.HasCode unknownPresetRule "UNKNOWN_CRIT_PRESET" := by
  intro ctx w hw
  unfold unknownPresetRule at hw
  split at hw
  · cases hw
  · rw [List.mem_singleton.1 hw]

theorem hasCode_sharedWeaknessRule : Rule.HasCode sharedWeaknessRule "TEAM_SHARED_WEAKNESS" := by
  intro ctx w hw
  unfold sharedWeaknessRule at hw
  split at hw
  · cases hw
  · obtain ⟨row, -, hrow⟩ := List.mem_filterMap.1 hw
    obtain ⟨severity, -, rfl⟩ := Option.map_eq_some_iff.1 hrow
    rfl

theorem hasCode_emptySlotsRule : Rule.HasCode emptySlotsRule "TEAM_EMPTY_SLOTS" := by
  intro ctx w hw
  unfold emptySlotsRule at hw
  split at hw
  · cases hw
  · split at hw
    · cases hw
    · rw [List.mem_singleton.1 hw]

/-- The default rules with the codes of their items. -/
def codedRules : List (Rule × String) :=
  [(unbalancedRule, "BALANCE_INVALID"), (ignoredTagsRule, "IGNORED_TAGS"),
    (unknownPresetRule, "UNKNOWN_CRIT_PRESET"), (sharedWeaknessRule, "TEAM_SHARED_WEAKNESS"),
    (emptySlotsRule, "TEAM_EMPTY_SLOTS")]

theorem hasCode_codedRules : ∀ p ∈ codedRules, Rule.HasCode p.1 p.2 := by
  simp only [codedRules, List.forall_mem_cons, List.not_mem_nil, false_implies, implies_true,
    and_true]
  exact ⟨hasCode_unbalancedRule, hasCode_ignoredTagsRule, hasCode_unknownPresetRule,
    hasCode_sharedWeaknessRule, hasCode_emptySlotsRule⟩

theorem Rule.HasCode.ofCode_self {rule : Rule} {code : String} (h : rule.HasCode code)
    (ctx : Context) : ofCode code (rule ctx) = rule ctx := by
  refine List.filter_eq_self.2 fun w hw => ?_
  exact decide_eq_true (h ctx w hw)

theorem Rule.HasCode.ofCode_nil {rule : Rule} {code code' : String} (h : rule.HasCode code)
    (hne : code ≠ code') (ctx : Context) : ofCode code' (rule ctx) = [] := by
  refine List.filter_eq_nil_iff.2 fun w hw => ?_
  rw [decide_eq_true_eq, h ctx w hw]
  exact hne

/-- Of rules with different codes each puts out the items of its own code alone. -/
theorem ofCode_flatMap {rules : List (Rule × String)} (hcodes : ∀ p ∈ rules, Rule.HasCode p.1 p.2)
    (hnodup : (rules.map Prod.snd).Nodup) {rule : Rule} {code : String}
    (h : (rule, code) ∈ rules) (ctx : Context) :
    ofCode code (rules.flatMap fun p => p.1 ctx) = rule ctx := by
  induction rules with
  | nil => cases h
  | cons p rest ih =>
    obtain ⟨hp, hrest⟩ := List.forall_mem_cons.1 hcodes
    rw [List.map_cons, List.nodup_cons] at hnodup
    rw [List.flatMap_cons, ofCode, List.filter_append]
    rcases List.mem_cons.1 h with rfl | h
    · have hnone : ofCode code (rest.flatMap fun q => q.1 ctx) = [] := by
        rw [ofCode, List.filter_flatMap, List.flatMap_eq_nil_iff]
        exact fun q hq => (hrest q hq).ofCode_nil
          (fun he => hnodup.1 (List.mem_map.2 ⟨q, hq, he⟩)) ctx
      exact (congrArg₂ (· ++ ·) (hp.ofCode_self ctx) hnone).trans (List.append_nil _)
    · have hne : p.2 ≠ code := fun he => hnodup.1 (he ▸ List.mem_map_of_mem h)
      exact congrArg₂ (· ++ ·) (hp.ofCode_nil hne ctx) (ih hrest hnodup.2 h)

theorem ofCode_defaultRules {rule : Rule} {code : String} (h : (rule, code) ∈ codedRules)
    (ctx : Context) : ofCode code (defaultRules.flatMap fun rule => rule ctx) = rule ctx := by
  have hrules : defaultRules = codedRules.map Prod.fst := rfl
  rw [hrules, List.flatMap_map]
  exact ofCode_flatMap hasCode_codedRules (by decide) h ctx

/-! ### Details -/

/-- Two lists that agree agree in front of and behind the last occurrence of an element. -/
theorem eq_of_append_cons_eq {β : Type} {c : β} {s t p q : List β} (hp : c ∉ p) (hq : c ∉ q)
    (h : s ++ c :: p = t ++ c :: q) : s = t ∧ p = q := by
  rcases List.append_eq_append_iff.1 h with ⟨r, hr, hc⟩ | ⟨r, hr, hc⟩
  · cases r with
    | nil => simp_all
    | cons d r =>
      obtain ⟨-, rfl⟩ := List.cons_eq_cons.1 hc
      exact absurd List.mem_append_cons_self hp
  · cases r with
    | nil => simp_all
    | cons d r =>
      obtain ⟨-, rfl⟩ := List.cons_eq_cons.1 hc
      exact absurd List.mem_append_cons_self hq

theorem key_ofUnbalanced {c d : Creature} :
    (ofUnbalanced c).key = (ofUnbalanced d).key ↔ c.name = d.name := by
  constructor
  · intro h
    have hlist := congrArg (Text.toList ∘ Prod.snd) h
    exact Text.ext_toList (List.append_cancel_left hlist)
  · intro h
    simp [key, ofUnbalanced, h]

/-- The digits of a number as code points. -/
def digits (n : Nat) : List CodePoint := n.repr.toList.map .char

theorem digits_injective {m n : Nat} (h : digits m = digits n) : m = n :=
  Text.decimalDigits_injective ((List.map_inj_right fun _ _ => CodePoint.char.inj).1 h)

theorem blank_notMem_digits (n : Nat) : .char ' ' ∉ digits n := by
  intro h
  obtain ⟨c, hc, he⟩ := List.mem_map.1 h
  have hdigit := Text.isDigit_of_mem_decimalDigits hc
  rw [CodePoint.char.inj he] at hdigit
  exact absurd hdigit (by decide)

theorem toList_detail_ofIgnored (c : Creature) :
    (ofIgnored c).detail.toList =
      (c.name.toList ++ " has".toList.map .char) ++ .char ' ' :: digits c.ignored.length ++
        " tag(s) with no effect".toList.map .char := by
  change c.name.toList ++
    ((" has " ++ c.ignored.length.repr ++ " tag(s) with no effect").toList.map CodePoint.char) = _
  simp [digits]

/-- The detail of tags without an effect tells a creature's name and their number, no more. -/
theorem key_ofIgnored {c d : Creature} :
    (ofIgnored c).key = (ofIgnored d).key ↔
      c.name = d.name ∧ c.ignored.length = d.ignored.length := by
  constructor
  · intro h
    have hlist := congrArg (Text.toList ∘ Prod.snd) h
    change (ofIgnored c).detail.toList = (ofIgnored d).detail.toList at hlist
    rw [toList_detail_ofIgnored, toList_detail_ofIgnored] at hlist
    obtain ⟨hname, hdigits⟩ := eq_of_append_cons_eq (blank_notMem_digits _) (blank_notMem_digits _)
      (List.append_cancel_right hlist)
    exact ⟨Text.ext_toList (List.append_cancel_right hname), digits_injective hdigits⟩
  · rintro ⟨hn, hl⟩
    simp [key, ofIgnored, hn, hl]

/-! ### Reports -/

section Reports

variable {γ δ : Type} {rules : List Rule} {ctx : Context} {code : String} {l : List γ}
  {item : γ → Warning} {mark : γ → δ}

theorem nodup_map_iff (hkey : ∀ c d, (item c).key = (item d).key ↔ mark c = mark d) :
    ((l.map item).map key).Nodup ↔ (l.map mark).Nodup := by
  rw [List.map_map, List.Nodup, List.Nodup, List.pairwise_map, List.pairwise_map]
  exact List.Pairwise.iff fun {c d} => not_congr (hkey c d)

/-- Of the items that rules put out under a code all are kept exactly if their keys are apart. -/
theorem length_ofCode_evaluate_iff
    (hitems : ofCode code (rules.flatMap fun rule => rule ctx) = l.map item)
    (hkey : ∀ c d, (item c).key = (item d).key ↔ mark c = mark d) :
    (ofCode code (evaluate rules ctx)).length = l.length ↔ (l.map mark).Nodup := by
  rw [(ofCode_evaluate_perm code rules ctx).length_eq, hitems, ← nodup_map_iff hkey,
    ← length_dedup_iff, List.length_map]

theorem mem_evaluate
    (hitems : ofCode code (rules.flatMap fun rule => rule ctx) = l.map item)
    (hkey : ∀ c d, (item c).key = (item d).key ↔ mark c = mark d) (hl : (l.map mark).Nodup)
    {c : γ} (hc : c ∈ l) : item c ∈ evaluate rules ctx := by
  have hperm := ofCode_evaluate_perm code rules ctx
  have hkeys : ((l.map item).map key).Nodup := (nodup_map_iff hkey).2 hl
  rw [hitems, dedup, dedupFrom_eq_self hkeys fun w _ => List.not_mem_nil] at hperm
  exact List.mem_of_mem_filter (hperm.mem_iff.2 (List.mem_map_of_mem hc))

end Reports

variable {α β : Type}

/-- Whether a report warns of every creature of a box that there is something to say of. -/
structure WarnsOfAll (box : List (Score α)) (items : List Warning) : Prop where
  unbalanced : ∀ s ∈ box, s.potentials.unbalanced = true → ofUnbalanced (.ofScore s) ∈ items
  ignored : ∀ s ∈ box, s.ignored ≠ [] →
    ∃ w ∈ items, w.code = "IGNORED_TAGS" ∧ w.evidence = s.ignored
  unbalancedCount :
    (ofCode "BALANCE_INVALID" items).length = box.countP fun s => s.potentials.unbalanced
  ignoredCount : (ofCode "IGNORED_TAGS" items).length = box.countP fun s => !s.ignored.isEmpty

section Box

variable (settings : Settings β) (box : List (Score α)) (team : Option (TeamReport α))

theorem unbalanced_items :
    ofCode "BALANCE_INVALID" (defaultRules.flatMap fun rule => rule (.of settings box team)) =
      (box.filter fun s => s.potentials.unbalanced).map fun s => ofUnbalanced (.ofScore s) := by
  have hmem : (unbalancedRule, "BALANCE_INVALID") ∈ codedRules := List.mem_cons_self
  rw [ofCode_defaultRules hmem, unbalancedRule, Context.of, List.filter_map, List.map_map]
  rfl

theorem ignored_items :
    ofCode "IGNORED_TAGS" (defaultRules.flatMap fun rule => rule (.of settings box team)) =
      (box.filter fun s => !s.ignored.isEmpty).map fun s => ofIgnored (.ofScore s) := by
  have hmem : (ignoredTagsRule, "IGNORED_TAGS") ∈ codedRules :=
    List.mem_cons_of_mem _ List.mem_cons_self
  rw [ofCode_defaultRules hmem, ignoredTagsRule, Context.of, List.filter_map, List.map_map]
  rfl

theorem key_unbalanced_score (s t : Score α) :
    (ofUnbalanced (.ofScore s)).key = (ofUnbalanced (.ofScore t)).key ↔ s.name = t.name :=
  key_ofUnbalanced

theorem key_ignored_score (s t : Score α) :
    (ofIgnored (.ofScore s)).key = (ofIgnored (.ofScore t)).key ↔
      (s.name, s.ignored.length) = (t.name, t.ignored.length) :=
  key_ofIgnored.trans Prod.mk_inj.symm

theorem unbalancedCount_iff :
    (ofCode "BALANCE_INVALID" (evaluate defaultRules (.of settings box team))).length =
        box.countP (fun s => s.potentials.unbalanced) ↔
      ((box.filter fun s => s.potentials.unbalanced).map Score.name).Nodup := by
  rw [List.countP_eq_length_filter]
  exact length_ofCode_evaluate_iff (unbalanced_items settings box team) key_unbalanced_score

theorem ignoredCount_iff :
    (ofCode "IGNORED_TAGS" (evaluate defaultRules (.of settings box team))).length =
        box.countP (fun s => !s.ignored.isEmpty) ↔
      ((box.filter fun s => !s.ignored.isEmpty).map fun s => (s.name, s.ignored.length)).Nodup := by
  rw [List.countP_eq_length_filter]
  exact length_ofCode_evaluate_iff (ignored_items settings box team) key_ignored_score

/-- Nothing is lost exactly if creatures whose two sides are zero have names of their own, and
creatures with tags without an effect agree with no other in name and number of such tags. -/
theorem warnsOfAll_iff :
    WarnsOfAll box (evaluate defaultRules (.of settings box team)) ↔
      ((box.filter fun s => s.potentials.unbalanced).map Score.name).Nodup ∧
        ((box.filter fun s => !s.ignored.isEmpty).map fun s =>
          (s.name, s.ignored.length)).Nodup := by
  constructor
  · intro h
    exact ⟨(unbalancedCount_iff settings box team).1 h.unbalancedCount,
      (ignoredCount_iff settings box team).1 h.ignoredCount⟩
  · rintro ⟨hu, hi⟩
    refine ⟨fun s hs hsu => ?_, fun s hs hsi => ?_, (unbalancedCount_iff settings box team).2 hu,
      (ignoredCount_iff settings box team).2 hi⟩
    · exact mem_evaluate (unbalanced_items settings box team) key_unbalanced_score hu
        (List.mem_filter.2 ⟨hs, hsu⟩)
    · have hmem : s ∈ box.filter fun s => !s.ignored.isEmpty :=
        List.mem_filter.2 ⟨hs, by simpa using hsi⟩
      exact ⟨_, mem_evaluate (ignored_items settings box team) key_ignored_score hi hmem, rfl, rfl⟩

end Box

/-- A game with two creatures of one species, each with an item whose tag is mistyped. -/
def twins [Scalar α] : Game α :=
  { Game.solo with
    species := [(1, ⟨1, "Husk", 1, none, .const (.whole 0), 1, []⟩)]
    items := [(1, ⟨1, "Orb", ["mult:atk"]⟩), (2, ⟨2, "Plate", ["mult:def"]⟩)]
    box := [⟨1, 1, none, some 1, none, none⟩, ⟨2, 1, none, some 2, none, none⟩]
    team := [none, none, none, none, none, none] }

/-- The two of them have the same name and one tag without an effect each, so that a report warns of
the first alone. -/
theorem twins_lose_warning :
    let g := twins (α := Float)
    let a := Analyzer.ofGame g g.settings.written
    ∃ scores, (a.box g).1 = .ok scores ∧
      ¬ WarnsOfAll scores (evaluate defaultRules (.of a.settings scores none)) := by
  intro g a
  have hscores : (a.scoreAll g g.box).1.toOption.map
      (·.map fun s => (s.name, s.ignored)) =
        some ([("Husk", ["mult:atk"]), ("Husk", ["mult:def"])] : List (Text × List Text)) := by
    decide +kernel
  obtain ⟨scores, hs, hnames⟩ := Option.map_eq_some_iff.1 hscores
  have hs : (a.scoreAll g g.box).1 = .ok scores := by
    cases hr : (a.scoreAll g g.box).1 with
    | error e =>
      rw [hr] at hs
      cases hs
    | ok l =>
      rw [hr] at hs
      rw [Option.some.inj hs]
  refine ⟨Score.ranking scores, Analyzer.box_eq_ok hs, fun h => ?_⟩
  have hnodup := (ignoredCount_iff _ _ _).1 h.ignoredCount
  have hperm := ((Score.ranking_perm scores).filter fun s => !s.ignored.isEmpty).map
    fun s => (s.name, s.ignored.length)
  have hmarks : (scores.filter fun s => !s.ignored.isEmpty).map
      (fun s => (s.name, s.ignored.length)) =
        (((scores.map fun s => (s.name, s.ignored)).filter fun p => !p.2.isEmpty).map
          fun p => (p.1, p.2.length)) := by
    rw [List.filter_map, List.map_map]
    rfl
  rw [hperm.nodup_iff, hmarks, hnames] at hnodup
  revert hnodup
  decide

end Warning

end Roster
