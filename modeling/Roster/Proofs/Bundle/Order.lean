import Roster.Potentials
import Roster.Proofs.Bundle.Slots
import Roster.Proofs.Scalar.Exact
import Roster.Proofs.Tag.Bounds

/-!
# The order of tags

Tags are meant to count alike in every order. With exact arithmetic they do, but for saturation: a
product that has reached the bound comes down from there by its later factors, and would not have
reached it had they come first. The order counts exactly where a slot gathers factors of which some
lead beyond the bound and others lead back.
-/

namespace Roster

namespace Bundle

variable {α : Type}

/-- Bundles that hold the same of all that enters scores without regard to incoming damage of a
type. -/
structure Agree (b b' : Bundle α) : Prop where
  stats : b.stats = b'.stats
  physicalBulk : b.physicalBulk = b'.physicalBulk
  specialBulk : b.specialBulk = b'.specialBulk
  defense : b.defense = b'.defense
  offense : b.offense = b'.offense
  offenseByType : b.offenseByType = b'.offenseByType
  incomingFactors (type : Text) :
    Keyed.get? type b.incomingFactors = Keyed.get? type b'.incomingFactors
  flags (flag : Flag) : flag ∈ b.flags ↔ flag ∈ b'.flags
  crit : b.crit = b'.crit

section Scalar

variable [Scalar α] {b b' : Bundle α}

theorem Agree.product_eq (h : b.Agree b') (slot : Slot) : b.product slot = b'.product slot := by
  cases slot with
  | stat s => exact congrArg (·.get s) h.stats
  | physicalBulk => exact h.physicalBulk
  | specialBulk => exact h.specialBulk
  | defense => exact h.defense
  | offense => exact h.offense
  | offenseByType => exact h.offenseByType
  | incoming type => exact congrArg (·.getD 1) (h.incomingFactors type)
  | critDamage => exact congrArg (·.damageFactor) h.crit

omit [Scalar α] in
theorem Agree.total_eq (h : b.Agree b') (tally : Tally) : b.total tally = b'.total tally := by
  cases tally with
  | critChance => exact congrArg (·.chanceBonus) h.crit
  | critStage => exact congrArg (·.stageBonus) h.crit

/-- Bundles agree that hold the same in every slot, for the same types, under the same flags. -/
theorem agree_of_slots (hproduct : ∀ slot, b.product slot = b'.product slot)
    (htotal : ∀ tally, b.total tally = b'.total tally)
    (hkeys : ∀ type, type ∈ Keyed.keys b.incomingFactors ↔ type ∈ Keyed.keys b'.incomingFactors)
    (hflags : ∀ flag, flag ∈ b.flags ↔ flag ∈ b'.flags)
    (happlied : b.crit.applied = true ↔ b'.crit.applied = true) : b.Agree b' where
  stats := Stats.ext_get fun s => hproduct (.stat s)
  physicalBulk := hproduct .physicalBulk
  specialBulk := hproduct .specialBulk
  defense := hproduct .defense
  offense := hproduct .offense
  offenseByType := hproduct .offenseByType
  incomingFactors type := by
    have hvalue : (Keyed.get? type b.incomingFactors).getD 1 =
        (Keyed.get? type b'.incomingFactors).getD 1 := hproduct (.incoming type)
    have hsome := hkeys type
    rw [← Keyed.get?_isSome_iff, ← Keyed.get?_isSome_iff] at hsome
    cases hb : Keyed.get? type b.incomingFactors <;>
      cases hb' : Keyed.get? type b'.incomingFactors <;> simp_all
  flags := hflags
  crit := by
    have hchance : b.crit.chanceBonus = b'.crit.chanceBonus := htotal .critChance
    have hdamage : b.crit.damageFactor = b'.crit.damageFactor := hproduct .critDamage
    have hstage : b.crit.stageBonus = b'.crit.stageBonus := htotal .critStage
    have happlied : b.crit.applied = b'.crit.applied := Bool.eq_iff_iff.2 happlied
    cases hb : b.crit
    cases hb' : b'.crit
    simp_all

end Scalar

/-- Whatever order tags come in, they set the same flags and name the same types, so that their
bundles agree if their slots hold the same. -/
theorem agree_resolve [Numeral α] {tags tags' : List Text} (hp : tags.Perm tags')
    (holder : List Text)
    (hproduct : ∀ slot, (resolve tags holder : Bundle α).product slot =
      (resolve tags' holder : Bundle α).product slot)
    (htotal : ∀ tally, (resolve tags holder : Bundle α).total tally =
      (resolve tags' holder : Bundle α).total tally) :
    (resolve tags holder : Bundle α).Agree (resolve tags' holder) := by
  have hmem (e : Effect α) : e ∈ Tag.effects tags ↔ e ∈ Tag.effects tags' :=
    (hp.filterMap Tag.parse).mem_iff
  refine agree_of_slots hproduct htotal (fun type => ?_) (fun flag => ?_) ?_
  · simp only [mem_keys_resolve, hmem]
  · simp only [mem_flags_resolve, hmem]
  · simp only [applied_resolve, List.any_eq_true, hmem]

end Bundle

/-! ### Potentials -/

namespace Potentials

variable {α : Type} [Scalar α] {b b' : Bundle α} (h : b.Agree b')
  (hi : ∀ type, b.incomingMultiplier type 1 false = b'.incomingMultiplier type 1 false)

include h in
theorem adjusted_eq_of_agree (stats : Stats α) : adjusted stats b = adjusted stats b' := by
  rw [adjusted, adjusted, h.stats]

include h hi in
theorem incomingFrom_eq_of_agree (type1 : Int) (type2 : Option Int) (chart : TypeChart α)
    (attacker : TypeInfo) :
    incomingFrom b type1 type2 chart attacker = incomingFrom b' type1 type2 chart attacker := by
  have hfactor : b.incomingFactor attacker.name = b'.incomingFactor attacker.name :=
    h.product_eq (.incoming _)
  have hguard : b.hasWonderGuard = b'.hasWonderGuard := by
    rw [Bool.eq_iff_iff]
    simpa [Bundle.hasWonderGuard] using h.flags .wonderGuard
  rw [incomingFrom, incomingFrom, hi, hfactor, hguard]

include h hi in
/-- Bundles that agree have the same scores. -/
theorem ofBundle_eq_of_agree (stats : Stats α) (type1 : Int) (type2 : Option Int)
    (types : List TypeInfo) (chart : TypeChart α) (settings : Settings α) :
    ofBundle stats b type1 type2 types chart settings =
      ofBundle stats b' type1 type2 types chart settings := by
  have hdefense : typeDefenseOf b type1 type2 types chart =
      typeDefenseOf b' type1 type2 types chart := by
    unfold typeDefenseOf meanIncoming
    rw [funext (incomingFrom_eq_of_agree h hi type1 type2 chart)]
  unfold ofBundle
  rw [adjusted_eq_of_agree h, hdefense, h.physicalBulk, h.specialBulk, h.defense, h.offense,
    h.offenseByType, h.crit]

include h in
theorem fault?_eq_of_agree (stats : Stats α) (type1 : Int) (type2 : Option Int)
    (types : List TypeInfo) (chart : TypeChart α) :
    fault? stats b type1 type2 types chart = fault? stats b' type1 type2 types chart := by
  unfold fault?
  rw [adjusted_eq_of_agree h]

end Potentials

theorem potentials_eq_of_agree {α : Type} [Numeral α] {tags tags' : List Text} {type1 : Int}
    {type2 : Option Int} {types : List TypeInfo}
    (h : (Bundle.resolve tags (holderTypeNames type1 type2 types) : Bundle α).Agree
      (Bundle.resolve tags' (holderTypeNames type1 type2 types)))
    (hm : ∀ type, Tag.multiplier (α := α) tags type 1 false = Tag.multiplier tags' type 1 false)
    (stats : Stats (Number α)) (chart : TypeChart α) (settings : Settings (Number α)) :
    potentials stats tags type1 type2 types chart settings =
      potentials stats tags' type1 type2 types chart settings := by
  have hi : ∀ type,
      (Bundle.resolve tags (holderTypeNames type1 type2 types)).incomingMultiplier type (1 : α)
          false =
        (Bundle.resolve tags' (holderTypeNames type1 type2 types)).incomingMultiplier type 1
          false := by
    intro type
    rw [Bundle.incomingMultiplier_resolve, Bundle.incomingMultiplier_resolve]
    exact hm type
  unfold potentials
  simp only [Potentials.fault?_eq_of_agree h, Potentials.ofBundle_eq_of_agree h hi]

/-! ### Orders -/

/-- The factor of a tag on attacks of a type in normal form, if it has one. -/
def Incoming.ofTag? {α : Type} [Numeral α] (type : Text) (withFactors : Bool) (tag : Text) :
    Option α :=
  (Tag.parse tag).bind fun e => e.incoming?.bind (factorFor? type withFactors)

namespace Tag

/-- Whether tags make a holder immune to attacks of a type. -/
def Immune (α : Type) [Numeral α] (tags : List Text) (type : Text) : Prop :=
  .relation .immune (TypeName.normal type) ∈ Tag.incoming (α := α) tags

theorem multiplier_of_immune {α : Type} [Numeral α] {tags : List Text} {type : Text}
    (h : Immune α tags type) (chart : α) (withFactors : Bool) :
    multiplier tags type chart withFactors = 0 :=
  Incoming.fold_eq_zero_of_immune chart withFactors h

theorem multiplier_of_not_immune {α : Type} [Numeral α] {tags : List Text} {type : Text}
    (h : ¬ Immune α tags type) (chart : α) (withFactors : Bool) :
    multiplier tags type chart withFactors =
      Scalar.productFrom chart
        (tags.filterMap (Incoming.ofTag? (TypeName.normal type) withFactors)) := by
  have hany : ¬ (incoming tags).any (Incoming.isImmunity (α := α) (TypeName.normal type)) := by
    intro hany
    obtain ⟨i, hi, himmune⟩ := List.any_eq_true.1 hany
    unfold Incoming.isImmunity at himmune
    split at himmune
    · rw [eq_of_beq himmune] at hi
      exact h hi
    · cases himmune
  unfold multiplier Incoming.fold
  dsimp only
  rw [if_neg hany, incoming, effects, List.filterMap_filterMap, List.filterMap_filterMap]
  rfl

theorem Immune.perm {α : Type} [Numeral α] {tags tags' : List Text} {type : Text}
    (h : Immune α tags type) (hp : tags.Perm tags') : Immune α tags' type :=
  ((hp.filterMap parse).filterMap Effect.incoming?).mem_iff.1 h

end Tag

/-- Whether tags in two orders count alike for a holder: their bundles agree, they multiply attacks
of every type alike, and the creatures that they belong to have the same scores. -/
structure SameScores (α : Type) [Numeral α] (holder tags tags' : List Text) : Prop where
  bundle : (Bundle.resolve tags holder : Bundle α).Agree (Bundle.resolve tags' holder)
  multiplier (type : Text) (chart : α) (withFactors : Bool) : Scalar.Finite chart →
    Tag.multiplier tags type chart withFactors = Tag.multiplier tags' type chart withFactors
  potentials (stats : Stats (Number α)) (type1 : Int) (type2 : Option Int) (types : List TypeInfo)
    (chart : TypeChart α) (settings : Settings (Number α)) :
    holderTypeNames type1 type2 types = holder →
      potentials stats tags type1 type2 types chart settings =
        potentials stats tags' type1 type2 types chart settings

open Saturation in
/-- Tags whose products and sums do not depend on the order. -/
structure Steady (holder tags : List Text) : Prop where
  products (slot : Slot) :
    SteadyProduct Exact.limit 1 (tags.filterMap (slot.ofTag? (α := Exact) holder))
  totals (tally : Tally) : SteadySum Exact.limit (tags.filterMap (tally.ofTag? (α := Exact)))
  multipliers (type : Text) (withFactors : Bool) : Tag.Immune Exact tags type ∨
    OneSided (tags.filterMap (Incoming.ofTag? (α := Exact) (TypeName.normal type) withFactors))

/-! ### Exact orders -/

section Amounts

open Scalar

variable {α : Type} [Scalar α]

theorem Slot.amount_of_factor? {holder : List Text} {slot : Slot} {e : Effect α} {f : α}
    (he : e.Sound) (h : slot.factor? holder e = some f) : Amount f := by
  have hite {p : Prop} [Decidable p] {x : α} (hx : Amount x)
      (h : (if p then some x else none) = some f) : Amount f := by
    obtain ⟨-, h⟩ := Option.ite_none_right_eq_some.1 h
    exact Option.some.inj h ▸ hx
  unfold Slot.factor? at h
  split at h
  · exact hite he h
  · exact hite he h
  · exact Option.some.inj h ▸ he
  · exact Option.some.inj h ▸ he
  · exact Option.some.inj h ▸ he
  · exact Option.some.inj h ▸ he
  · exact hite he h
  · exact hite he h
  · exact Option.some.inj h ▸ he
  · cases h

end Amounts

section Nonneg

variable {α : Type} [Numeral α] [LawfulOrder α]

theorem Slot.amount_of_ofTag? {holder : List Text} {slot : Slot} {tag : Text} {f : α}
    (h : slot.ofTag? holder tag = some f) : Scalar.Amount f := by
  obtain ⟨e, he, h⟩ := Option.bind_eq_some_iff.1 h
  exact Slot.amount_of_factor? (Tag.sound_of_parse he) h

theorem Slot.nonneg_of_ofTag? {holder : List Text} {slot : Slot} {tag : Text} {f : α}
    (h : slot.ofTag? holder tag = some f) : 0 ≤ f := (amount_of_ofTag? h).nonneg

/-- Attacks are not multiplied by less than zero, if a half and two are not less. -/
theorem Incoming.nonneg_of_ofTag? (hresist : (0 : α) ≤ 0.5) (hweak : (0 : α) ≤ 2.0) {type : Text}
    {withFactors : Bool} {tag : Text} {f : α}
    (h : Incoming.ofTag? type withFactors tag = some f) : 0 ≤ f := by
  obtain ⟨e, he, h⟩ := Option.bind_eq_some_iff.1 h
  obtain ⟨i, hi, h⟩ := Option.bind_eq_some_iff.1 h
  have hsound := Tag.sound_of_parse he
  cases e with
  | incoming i' =>
    cases hi
    cases i with
    | relation r t =>
      obtain ⟨-, h⟩ := Option.ite_none_right_eq_some.1 h
      cases r with
      | immune => cases h
      | resist =>
        cases h
        exact hresist
      | weak =>
        cases h
        exact hweak
    | factor t x =>
      obtain ⟨-, h⟩ := Option.ite_none_right_eq_some.1 h
      cases h
      exact Scalar.Amount.nonneg hsound
  | _ => cases hi

end Nonneg

namespace Exact

open Saturation

theorem nonneg_of_ofTag? (holder : List Text) (slot : Slot) (tag : Text) (f : Exact)
    (h : slot.ofTag? holder tag = some f) : (0 : Exact) ≤ f := Slot.nonneg_of_ofTag? h

theorem nonneg_of_incoming (type : Text) (withFactors : Bool) (tag : Text) (f : Exact)
    (h : Incoming.ofTag? type withFactors tag = some f) : (0 : Exact) ≤ f :=
  Incoming.nonneg_of_ofTag? (show (0 : ℝ) ≤ 0.5 by norm_num) (show (0 : ℝ) ≤ 2.0 by norm_num) h

variable (holder tags : List Text)

theorem product_perm_iff (slot : Slot) :
    (∀ tags', tags.Perm tags' →
      (Bundle.resolve tags holder : Bundle Exact).product slot =
        (Bundle.resolve tags' holder).product slot) ↔
      SteadyProduct limit 1 (tags.filterMap (slot.ofTag? (α := Exact) holder)) := by
  rw [← productFrom_one_perm_iff (nonneg_of_ofTag? holder slot)]
  simp only [Bundle.product_resolve]

theorem total_perm_iff (tally : Tally) :
    (∀ tags', tags.Perm tags' →
      (Bundle.resolve tags holder : Bundle Exact).total tally =
        (Bundle.resolve tags' holder).total tally) ↔
      SteadySum limit (tags.filterMap (tally.ofTag? (α := Exact))) := by
  rw [← sum_perm_iff]
  simp only [Bundle.total_resolve]

theorem multiplier_perm_iff (type : Text) (withFactors : Bool) :
    (∀ chart : Exact, Scalar.Finite chart → ∀ tags', tags.Perm tags' →
      Tag.multiplier tags type chart withFactors = Tag.multiplier tags' type chart withFactors) ↔
      Tag.Immune Exact tags type ∨
        OneSided (tags.filterMap
          (Incoming.ofTag? (α := Exact) (TypeName.normal type) withFactors)) := by
  rw [← productFrom_perm_iff (nonneg_of_incoming (TypeName.normal type) withFactors)]
  by_cases himmune : Tag.Immune Exact tags type
  · refine iff_of_true (fun chart _ tags' hp => ?_) (Or.inl himmune)
    rw [Tag.multiplier_of_immune himmune, Tag.multiplier_of_immune (himmune.perm hp)]
  · rw [or_iff_right himmune]
    refine forall₂_congr fun chart _ => forall₂_congr fun tags' hp => ?_
    have himmune' : ¬ Tag.Immune Exact tags' type := fun hi => himmune (hi.perm hp.symm)
    rw [Tag.multiplier_of_not_immune himmune, Tag.multiplier_of_not_immune himmune']

end Exact

/-- Tags count alike in all orders exactly if they are steady. -/
theorem sameScores_iff_steady (holder tags : List Text) :
    (∀ tags', tags.Perm tags' → SameScores Exact holder tags tags') ↔ Steady holder tags := by
  constructor
  · intro h
    refine ⟨fun slot => ?_, fun tally => ?_, fun type withFactors => ?_⟩
    · rw [← Exact.product_perm_iff]
      exact fun tags' hp => (h tags' hp).bundle.product_eq slot
    · rw [← Exact.total_perm_iff holder]
      exact fun tags' hp => (h tags' hp).bundle.total_eq tally
    · rw [← Exact.multiplier_perm_iff]
      exact fun chart hchart tags' hp => (h tags' hp).multiplier type chart withFactors hchart
  · intro h tags' hp
    have hbundle :
        (Bundle.resolve tags holder : Bundle Exact).Agree (Bundle.resolve tags' holder) :=
      Bundle.agree_resolve hp holder
        (fun slot => (Exact.product_perm_iff holder tags slot).2 (h.products slot) tags' hp)
        (fun tally => (Exact.total_perm_iff holder tags tally).2 (h.totals tally) tags' hp)
    have hmultiplier (type : Text) (chart : Exact) (withFactors : Bool)
        (hchart : Scalar.Finite chart) :=
      (Exact.multiplier_perm_iff tags type withFactors).2 (h.multipliers type withFactors) chart
        hchart tags' hp
    refine ⟨hbundle, hmultiplier, ?_⟩
    rintro stats type1 type2 types chart settings rfl
    exact potentials_eq_of_agree hbundle
      (fun type => hmultiplier type 1 false Scalar.amount_one.finite) stats chart settings

/-- What is doubled beyond the bound and then halved is half of the bound; halved first, it keeps
its size. -/
theorem overshoot_orders :
    (["mult:off:1e308", "mult:off:2", "mult:off:0.5"] : List Text).Perm
        ["mult:off:2", "mult:off:0.5", "mult:off:1e308"] ∧
      ¬ SameScores Float [] ["mult:off:1e308", "mult:off:2", "mult:off:0.5"]
        ["mult:off:2", "mult:off:0.5", "mult:off:1e308"] := by
  refine ⟨by decide +kernel, fun h => ?_⟩
  have hbits := congrArg Float.toBits h.bundle.offense
  revert hbits
  decide +kernel

end Roster
