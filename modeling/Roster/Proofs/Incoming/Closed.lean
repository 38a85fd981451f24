import Mathlib.Algebra.BigOperators.Ring.List
import Roster.Incoming
import Roster.Proofs.Scalar.Exact

/-!
# Incoming damage in closed form

An immunity to a type leaves nothing of attacks of it, wherever it stands among the effects. Without
one the order does not matter as long as no product on the way leaves the finite range: the charted
value is doubled for each weakness, halved for each resistance and, where they are wanted,
multiplied by the incoming factors of the type. Effects for other types do not count.
-/

namespace Roster

namespace Exact

/-- The real number that an exact scalar is. -/
def toReal (x : Exact) : ℝ := x

/-- The products that come up as factors are multiplied to a start, one after the other. -/
noncomputable def partials (start : Exact) (factors : List Exact) : List Exact :=
  (factors.scanl (· * ·) start).tail

theorem productFrom_of_partials {start : Exact} {factors : List Exact}
    (h : ∀ x ∈ partials start factors, Scalar.Finite x) :
    (Scalar.productFrom start factors).toReal = start.toReal * (factors.map toReal).prod := by
  have hmap : factors.map toReal = factors := List.map_id factors
  rw [hmap]
  exact (productFrom_eq start factors).trans (Saturation.boundedProduct_of_partials h)

/-- Where nothing is negative, products stay within range as long as they do not exceed it. -/
theorem finite_partials_of_nonneg {start : Exact} (hstart : 0 ≤ start) {factors : List Exact}
    (hfactors : ∀ f ∈ factors, 0 ≤ f) (h : ∀ x ∈ partials start factors, x ≤ Scalar.greatest) :
    ∀ x ∈ partials start factors, Scalar.Finite x := by
  intro x hx
  have hx0 : (0 : ℝ) ≤ x := Saturation.partials_nonneg hstart hfactors x (List.mem_of_mem_tail hx)
  exact ⟨(neg_nonpos.2 limit_pos.le).trans hx0, h x hx⟩

end Exact

namespace Effect

variable {α : Type}

/-- Whether an effect is a relation to a type in normal form. -/
def isRelation (r : Relation) (type : Text) : Effect α → Bool
  | .incoming (.relation r' t) => r' = r ∧ t = type
  | _ => false

/-- The incoming factor for a type in normal form, if the effect is one. -/
def incomingFactor? (type : Text) : Effect α → Option α
  | .incoming (.factor t f) => if t = type then some f else none
  | _ => none

/-- Whether an effect is one on attacks of a type in normal form. -/
def concerns (type : Text) (e : Effect α) : Bool := e.incoming?.any fun i => i.type = type

/-- The multiplier that effects put on attacks of a type. -/
def multiplier [Scalar α] (effects : List (Effect α)) (type : Text) (chart : α)
    (withFactors : Bool) : α :=
  Incoming.fold (effects.filterMap incoming?) type chart withFactors

/-- The factors of effects that multiply attacks of a type in normal form. -/
def matching [Scalar α] (effects : List (Effect α)) (type : Text) (withFactors : Bool) : List α :=
  (effects.filterMap incoming?).filterMap (Incoming.factorFor? type withFactors)

section Scalar

variable [Scalar α] (effects : List (Effect α)) (type : Text) (withFactors : Bool)

omit [Scalar α] in
theorem any_isImmunity_iff :
    (effects.filterMap incoming?).any (Incoming.isImmunity type) = true ↔
      ∃ e ∈ effects, e.isRelation .immune type = true := by
  have hiff (e : Effect α) :
      e.incoming?.any (Incoming.isImmunity type) = e.isRelation .immune type := by
    cases e with
    | incoming i =>
      cases i with
      | relation r t => cases r <;> simp [incoming?, Incoming.isImmunity, isRelation, beq_eq_decide]
      | factor t f => rfl
    | _ => rfl
  rw [List.any_filterMap, List.any_eq_true]
  refine exists_congr fun e => and_congr_right fun _ => ?_
  rw [← hiff]
  cases e.incoming? <;> rfl

theorem multiplier_of_immune {type : Text}
    (h : ∃ e ∈ effects, e.isRelation .immune (TypeName.normal type) = true) (chart : α) :
    multiplier effects type chart withFactors = 0 := by
  rw [multiplier, Incoming.fold, (any_isImmunity_iff effects _).2 h, if_pos rfl]

theorem multiplier_of_not_immune {type : Text}
    (h : ¬ ∃ e ∈ effects, e.isRelation .immune (TypeName.normal type) = true) (chart : α) :
    multiplier effects type chart withFactors =
      Scalar.productFrom chart (matching effects (TypeName.normal type) withFactors) := by
  rw [multiplier, Incoming.fold, if_neg (mt (any_isImmunity_iff effects _).1 h)]
  rfl

/-- Effects for other types give no factor. -/
theorem matching_filter_concerns :
    matching (effects.filter (concerns type)) type withFactors =
      matching effects type withFactors := by
  unfold matching
  rw [List.filterMap_filterMap, List.filterMap_filterMap, List.filterMap_filter]
  refine List.filterMap_congr fun e _ => ?_
  cases e with
  | incoming i =>
    cases i with
    | relation r t =>
      by_cases h : t = type <;> simp [concerns, incoming?, Incoming.type, Incoming.factorFor?, h]
    | factor t f =>
      by_cases h : t = type <;> simp [concerns, incoming?, Incoming.type, Incoming.factorFor?, h]
  | _ => rfl

omit [Scalar α] in
theorem immune_filter_concerns :
    (∃ e ∈ effects.filter (concerns type), e.isRelation .immune type = true) ↔
      ∃ e ∈ effects, e.isRelation .immune type = true := by
  refine exists_congr fun e => ?_
  rw [List.mem_filter, and_assoc]
  refine and_congr_right fun _ => and_iff_right_of_imp fun h => ?_
  cases e with
  | incoming i =>
    cases i with
    | relation r t => exact decide_eq_true (of_decide_eq_true h).2
    | factor t f => cases h
  | _ => cases h

/-- Effects for other types do not count. -/
theorem multiplier_filter_concerns (chart : α) :
    multiplier (effects.filter (concerns (TypeName.normal type))) type chart withFactors =
      multiplier effects type chart withFactors := by
  by_cases h : ∃ e ∈ effects, e.isRelation .immune (TypeName.normal type) = true
  · rw [multiplier_of_immune _ _ h, multiplier_of_immune _ _ ((immune_filter_concerns _ _).2 h)]
  · rw [multiplier_of_not_immune _ _ h,
      multiplier_of_not_immune _ _ (mt (immune_filter_concerns _ _).1 h),
      matching_filter_concerns]

end Scalar

/-! ### Exact multipliers -/

section Exact

/-- A two for each weakness to a type in normal form, a half for each resistance and, where they are
wanted, the incoming factors of the type. -/
noncomputable def exactFactor (effects : List (Effect Exact)) (type : Text) (withFactors : Bool) :
    ℝ :=
  2.0 ^ ((effects.countP (isRelation .weak type) : ℤ) - effects.countP (isRelation .resist type)) *
    if withFactors then ((effects.filterMap (incomingFactor? type)).map Exact.toReal).prod else 1

theorem exactFactor_append (effects effects' : List (Effect Exact)) (type : Text)
    (withFactors : Bool) :
    exactFactor (effects ++ effects') type withFactors =
      exactFactor effects type withFactors * exactFactor effects' type withFactors := by
  have htwo : (2.0 : ℝ) ≠ 0 := by norm_num
  have hpower (a b c d : ℕ) :
      (2.0 : ℝ) ^ (((a + b : ℕ) : ℤ) - (c + d : ℕ)) =
        2.0 ^ ((a : ℤ) - c) * 2.0 ^ ((b : ℤ) - d) := by
    rw [← zpow_add₀ htwo, Nat.cast_add, Nat.cast_add, add_sub_add_comm]
  unfold exactFactor
  rw [List.countP_append, List.countP_append, hpower, List.filterMap_append, List.map_append,
    List.prod_append]
  cases withFactors with
  | false => simp only [Bool.false_eq_true, if_false, mul_one]
  | true => exact mul_mul_mul_comm ..

/-- One effect multiplies by what it is in closed form. -/
theorem prod_matching_singleton (e : Effect Exact) (type : Text) (withFactors : Bool) :
    ((matching [e] type withFactors).map Exact.toReal).prod = exactFactor [e] type withFactors := by
  have hhalf : Exact.toReal 0.5 = 2.0⁻¹ := show (0.5 : ℝ) = 2.0⁻¹ by norm_num
  have htwo : Exact.toReal 2.0 = 2.0 := rfl
  unfold matching exactFactor
  cases e with
  | incoming i =>
    cases i with
    | relation r t =>
      by_cases ht : t = type
      · cases r <;> simp [incoming?, Incoming.factorFor?, Relation.factor?, isRelation,
          incomingFactor?, List.filterMap_cons, ht, hhalf, htwo]
      · simp [incoming?, Incoming.factorFor?, isRelation, incomingFactor?, List.filterMap_cons, ht]
    | factor t f =>
      by_cases ht : t = type <;> cases withFactors <;>
        simp [incoming?, Incoming.factorFor?, isRelation, incomingFactor?, ht]
  | _ => simp [incoming?, isRelation, incomingFactor?, List.filterMap_cons]

theorem prod_matching (effects : List (Effect Exact)) (type : Text) (withFactors : Bool) :
    ((matching effects type withFactors).map Exact.toReal).prod =
      exactFactor effects type withFactors := by
  induction effects with
  | nil => simp [matching, exactFactor]
  | cons e rest ih =>
    have hsplit : matching (e :: rest) type withFactors =
        matching [e] type withFactors ++ matching rest type withFactors := by
      unfold matching
      rw [← List.filterMap_append, ← List.filterMap_append]
      rfl
    rw [hsplit, List.map_append, List.prod_append, prod_matching_singleton, ih,
      ← exactFactor_append]
    rfl

theorem exactFactor_eq_zero_iff (effects : List (Effect Exact)) (type : Text)
    (withFactors : Bool) :
    exactFactor effects type withFactors = 0 ↔
      withFactors = true ∧ 0 ∈ effects.filterMap (incomingFactor? type) := by
  have hpower (n : ℤ) : (2.0 : ℝ) ^ n ≠ 0 := zpow_ne_zero n (by norm_num)
  unfold exactFactor
  rw [mul_eq_zero, or_iff_right (hpower _)]
  cases withFactors with
  | false => simp
  | true =>
    rw [if_pos rfl, List.prod_eq_zero_iff, List.mem_map]
    constructor
    · rintro ⟨f, hf, h0⟩
      exact ⟨rfl, (show f = 0 from h0) ▸ hf⟩
    · exact fun h => ⟨0, h.2, rfl⟩

/-- Without an immunity and with all products on the way in range, the multiplier is the charted
value times the factor in closed form. -/
theorem toReal_multiplier {effects : List (Effect Exact)} {type : Text} {withFactors : Bool}
    {chart : Exact}
    (himmune : ¬ ∃ e ∈ effects, e.isRelation .immune (TypeName.normal type) = true)
    (hfinite : ∀ x ∈ Exact.partials chart (matching effects (TypeName.normal type) withFactors),
      Scalar.Finite x) :
    (multiplier effects type chart withFactors).toReal =
      chart.toReal * exactFactor effects (TypeName.normal type) withFactors := by
  rw [multiplier_of_not_immune _ _ himmune, Exact.productFrom_of_partials hfinite, prod_matching]

end Exact

/-- With an immunity to a type among the effects nothing is left of attacks of it, and effects for
other types never count. Without one the multiplier of a chart's value that is not negative is that
value, doubled for each weakness, halved for each resistance and, where they are wanted, multiplied
by the incoming factors of the type, as long as no product on the way exceeds the greatest scalar;
effects with a negative factor, as no tag gives it, must not fall below the least one either. So it
is zero only for a charted zero and for a wanted factor of zero. -/
theorem multiplier_closed_form (type : Text) (withFactors : Bool) :
    let target := TypeName.normal type
    (∀ {α : Type} [Scalar α] (effects : List (Effect α)) (chart : α),
      ((∃ e ∈ effects, e.isRelation .immune target = true) →
          multiplier effects type chart withFactors = 0) ∧
        multiplier (effects.filter (concerns target)) type chart withFactors =
          multiplier effects type chart withFactors) ∧
      ∀ (effects : List (Effect Exact)) (chart : Exact), 0 ≤ chart →
        (¬ ∃ e ∈ effects, e.isRelation .immune target = true) →
        let factors := matching effects target withFactors
        (∀ x ∈ Exact.partials chart factors, x ≤ Scalar.greatest) →
        ((∃ f ∈ factors, f < 0) → ∀ x ∈ Exact.partials chart factors, -Scalar.greatest ≤ x) →
        (multiplier effects type chart withFactors).toReal =
            chart.toReal * exactFactor effects target withFactors ∧
          (multiplier effects type chart withFactors = 0 ↔
            chart = 0 ∨ withFactors = true ∧ 0 ∈ effects.filterMap (incomingFactor? target)) := by
  refine ⟨fun effects chart => ⟨fun h => multiplier_of_immune _ _ h chart,
    multiplier_filter_concerns effects type withFactors chart⟩, ?_⟩
  intro effects chart hchart himmune factors hgreatest hleast
  have hfinite : ∀ x ∈ Exact.partials chart factors, Scalar.Finite x := by
    by_cases hnegative : ∃ f ∈ factors, f < 0
    · exact fun x hx => ⟨hleast hnegative x hx, hgreatest x hx⟩
    · refine Exact.finite_partials_of_nonneg hchart (fun f hf => ?_) hgreatest
      exact le_of_not_gt (α := ℝ) fun h => hnegative ⟨f, hf, h⟩
  have hmultiplier := toReal_multiplier himmune hfinite
  refine ⟨hmultiplier, ?_⟩
  have hzero : multiplier effects type chart withFactors = 0 ↔
      chart.toReal * exactFactor effects (TypeName.normal type) withFactors = 0 := by
    rw [← hmultiplier]
    rfl
  rw [hzero, mul_eq_zero, exactFactor_eq_zero_iff]
  rfl

/-- Two weaknesses, a resistance and two factors leave one and a half; an immunity leaves nothing,
of doubles either. -/
theorem multiplier_closed_form_fire :
    let effects : List (Effect Exact) :=
      [.incoming (.relation .weak "fire"), .incoming (.factor "fire" 0.25),
        .incoming (.relation .immune "water"), .incoming (.relation .resist "fire"),
        .incoming (.factor "fire" 3.0), .incoming (.relation .weak "fire"), .flag .avoid]
    (multiplier effects " Fire" 1 true).toReal = 1.5 ∧
      multiplier ([.incoming (.factor "water" 3.0), .incoming (.relation .immune "water")] :
        List (Effect Float)) "Water" 2.0 true = 0 := by
  intro effects
  have htarget : TypeName.normal " Fire" = "fire" := by decide
  have himmune : ¬ ∃ e ∈ effects, e.isRelation .immune (TypeName.normal " Fire") = true := by
    have hother : (Text.ofString "water") ≠ "fire" := by decide
    rw [htarget]
    simp [effects, isRelation, hother]
  have hfactors : matching effects (TypeName.normal " Fire") true =
      [2.0, 0.25, 0.5, 3.0, 2.0] := by
    rw [htarget]
    rfl
  have hle : ∀ x ∈ Exact.partials 1 (matching effects (TypeName.normal " Fire") true),
      x ≤ Scalar.greatest := by
    have hfour : ∀ x ∈ ([2.0, 0.25, 0.5, 3.0, 2.0].scanl (· * ·) (1 : ℝ)).tail, x ≤ 4 := by
      norm_num [List.scanl_cons]
    rw [hfactors]
    exact fun x hx => (hfour x hx).trans Exact.four_le_limit
  have hnonneg : ¬ ∃ f ∈ matching effects (TypeName.normal " Fire") true, f < 0 := by
    have hpos : ∀ f ∈ [2.0, 0.25, 0.5, 3.0, (2.0 : ℝ)], ¬ f < 0 := by norm_num
    rw [hfactors]
    exact fun ⟨f, hf, hneg⟩ => hpos f hf hneg
  have hone : (0 : Exact) ≤ 1 := zero_le_one (α := ℝ)
  obtain ⟨hvalue, -⟩ :=
    (multiplier_closed_form " Fire" true).2 effects 1 hone himmune hle (absurd · hnonneg)
  have hexact : (1 : Exact).toReal * exactFactor effects (TypeName.normal " Fire") true = 1.5 := by
    have hprod : (1 : ℝ) * List.prod [2.0, 0.25, 0.5, 3.0, 2.0] = 1.5 := by norm_num
    rw [← prod_matching, hfactors]
    exact hprod
  refine ⟨hvalue.trans hexact, ?_⟩
  refine ((multiplier_closed_form "Water" true).1 _ 2.0).1 ⟨_, List.mem_cons_of_mem _ (.head _), ?_⟩
  decide

end Effect

end Roster
