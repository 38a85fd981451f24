import Roster.Proofs.Double.Commuting
import Roster.Proofs.Potentials.Sides
import Roster.Proofs.Tag.Mirror

/-!
# The two kinds of damage

Physical and special damage are scored alike: a creature with its stats and tags exchanged between
them has its physical and special scores exchanged, and all its other scores are the same, bit for
bit.
-/

namespace Roster

/-! ### Resolved tags -/

namespace Tag

variable {α : Type} [Numeral α] (tags : List Text)

theorem effects_mirror : effects (α := α) (tags.map mirror) = (effects tags).map Effect.mirror := by
  rw [effects, effects, List.filterMap_map, List.map_filterMap]
  exact List.filterMap_congr fun tag _ => parse_mirror tag

theorem incoming_mirror : incoming (α := α) (tags.map mirror) = incoming tags := by
  rw [incoming, incoming, effects_mirror, List.filterMap_map]
  refine List.filterMap_congr fun e _ => ?_
  cases e <;> rfl

end Tag

namespace Bundle

/-- Bundles of which each holds for one kind of damage what the other holds for the other kind. -/
structure Mirrors {α : Type} [Scalar α] (roster : List Text) (b b' : Bundle α) : Prop extends
    SameIncoming roster b' b where
  product (slot : Slot) : b'.product slot.mirror = b.product slot
  crit : b'.crit = b.crit

variable {α : Type} [Numeral α] (tags holder : List Text)

/-- Mirrored tags gather in the mirrored slots what the tags gather in theirs. -/
theorem product_mirror (slot : Slot) :
    (resolve (tags.map Tag.mirror) holder : Bundle α).product slot.mirror =
      (resolve tags holder).product slot := by
  rw [product_resolve, product_resolve, List.filterMap_map]
  refine congrArg _ (List.filterMap_congr fun tag _ => ?_)
  rw [Function.comp_apply, Slot.ofTag?, Slot.ofTag?, Tag.parse_mirror, Option.bind_map]
  exact Option.bind_congr fun e _ => slot.factor?_mirror _ e

theorem total_mirror (tally : Tally) :
    (resolve (tags.map Tag.mirror) holder : Bundle α).total tally =
      (resolve tags holder).total tally := by
  rw [total_resolve, total_resolve, List.filterMap_map]
  refine congrArg _ (List.filterMap_congr fun tag _ => ?_)
  rw [Function.comp_apply, Tally.ofTag?, Tally.ofTag?, Tag.parse_mirror, Option.bind_map]
  refine Option.bind_congr fun e _ => ?_
  cases tally <;> cases e <;> rfl

theorem any_effects_mirror {p : Effect α → Bool} (hp : ∀ e : Effect α, p e.mirror = p e) :
    (Tag.effects (tags.map Tag.mirror)).any p = (Tag.effects tags).any p := by
  rw [Tag.effects_mirror, List.any_map]
  exact congrArg (List.any _) (funext hp)

theorem mirrors_resolve (roster : List Text) :
    (resolve tags holder : Bundle α).Mirrors roster (resolve (tags.map Tag.mirror) holder) where
  product := product_mirror tags holder
  factor type _ := product_mirror tags holder (.incoming (TypeName.normal type))
  multiplier type _ := by
    rw [incomingMultiplier_resolve, incomingMultiplier_resolve, Tag.multiplier, Tag.multiplier,
      Tag.incoming_mirror]
  guard := by
    rw [hasWonderGuard_resolve, hasWonderGuard_resolve]
    refine any_effects_mirror tags fun e => ?_
    cases e <;> rfl
  crit := by
    refine crit_eq (total_mirror tags holder) (product_mirror tags holder .critDamage) ?_
    rw [applied_resolve, applied_resolve]
    refine any_effects_mirror tags fun e => ?_
    cases e <;> rfl

end Bundle

/-! ### Scores -/

namespace Potentials

/-- Scores with those of the two kinds of damage exchanged. -/
def mirror {α : Type} (p : Potentials α) : Potentials α :=
  { p with
    physicalOffense := p.specialOffense
    specialOffense := p.physicalOffense
    physicalDefense := p.specialDefense
    specialDefense := p.physicalDefense }

section Scalar

variable {α : Type} [Scalar α] {b b' : Bundle α} {roster : List Text} (h : b.Mirrors roster b')
  (stats : Stats α)

include h in
theorem adjusted_mirror : adjusted stats.mirror b' = (adjusted stats b).mirror := by
  refine Stats.ext_get fun stat => ?_
  have hstat : b'.stats.get stat = b.stats.get stat.mirror := by
    have := h.product (.stat stat.mirror)
    rwa [Slot.mirror, Stat.mirror_mirror] at this
  rw [adjusted, adjusted, Stats.get_mirror, Stats.get_ofFn, Stats.get_ofFn, Stats.get_mirror, hstat]

include h in
theorem fault?_mirror (type1 : Int) (type2 : Option Int) (types : List TypeInfo)
    (chart : TypeChart α) :
    fault? stats.mirror b' type1 type2 types chart = fault? stats b type1 type2 types chart := by
  unfold fault?
  rw [adjusted_mirror h]
  dsimp only [Stats.mirror, Stats.ofFn, Stats.get, Stat.mirror]
  exact if_congr or_comm rfl rfl

theorem scalarStats?_mirror (stats : Stats (Number α)) :
    scalarStats? stats.mirror = (scalarStats? stats).map Stats.mirror := by
  have hmirror (s : Stats α) : scalarStats? stats = some s ↔
      scalarStats? stats.mirror = some s.mirror := by
    rw [scalarStats?, scalarStats?, ofFnM_eq_some_iff, ofFnM_eq_some_iff]
    simp only [Stats.get_mirror]
    exact ⟨fun h stat => h stat.mirror, fun h stat => by simpa using h stat.mirror⟩
  cases hs : scalarStats? stats with
  | some s => exact (hmirror s).1 hs
  | none =>
    cases hs' : scalarStats? stats.mirror with
    | none => rfl
    | some s =>
      have := (hmirror s.mirror).2 (by rw [hs', Stats.mirror_mirror])
      rw [hs] at this
      cases this

end Scalar

/-- Finite doubles are blended alike in either order. -/
theorem blend_comm {pow : Float → Float → Float} {physical special : Double pow}
    (hp : Scalar.Finite physical) (hs : Scalar.Finite special) :
    blend physical special = blend special physical := by
  have hsum : physical + special = special + physical := Double.add_comm physical special
  rcases Double.larger_comm hp hs with hlarger | ⟨hzero, hzero'⟩
  · have hlarger : Scalar.larger physical special = Scalar.larger special physical := hlarger
    rw [blend, blend, hlarger, hsum]
  · -- The sum of two zeros of different signs has a sign of its own.
    have hdiffer : blend (0 : Float) (-0) = blend (-0 : Float) 0 := by decide +kernel
    rcases Double.zero_cases hzero with rfl | rfl <;> rcases Double.zero_cases hzero' with rfl | rfl
    · rfl
    · exact hdiffer
    · exact hdiffer.symm
    · rfl

variable {pow : Float → Float → Float} {b b' : Bundle (Double pow)} {types : List TypeInfo}
  {roster : List Text}

theorem ofBundle_mirror (h : b.Mirrors roster b')
    (hroster : ∀ t ∈ types, TypeName.normal t.name ∈ roster) (stats : Stats (Double pow))
    (type1 : Int) (type2 : Option Int) (chart : TypeChart (Double pow))
    (settings : Settings (Double pow)) :
    ofBundle stats.mirror b' type1 type2 types chart settings =
      (ofBundle stats b type1 type2 types chart settings).mirror := by
  have htype := typeDefenseOf_eq_of_same type1 type2 chart h.toSameIncoming hroster
  have hphysicalBulk : b'.physicalBulk = b.specialBulk := h.product .specialBulk
  have hspecialBulk : b'.specialBulk = b.physicalBulk := h.product .physicalBulk
  have hdefense : b'.defense = b.defense := h.product .defense
  have hoffense : b'.offense = b.offense := h.product .offense
  have hbyType : b'.offenseByType = b.offenseByType := h.product .offenseByType
  generalize hp : ofBundle stats b type1 type2 types chart settings = p
  have hblendOffense : blend p.specialOffense p.physicalOffense = p.offense := by
    rw [← hp]
    exact blend_comm (Scalar.finite_product _) (Scalar.finite_product _)
  have hblendDefense : blend p.specialDefense p.physicalDefense = p.defense := by
    rw [← hp]
    exact blend_comm (Scalar.finite_product _) (Scalar.finite_product _)
  rw [ofBundle, adjusted_mirror h, htype, h.crit, hphysicalBulk, hspecialBulk, hdefense, hoffense,
    hbyType]
  calc
    _ = { p.mirror with
          offense := blend p.specialOffense p.physicalOffense
          defense := blend p.specialDefense p.physicalDefense
          rank := rankOf (blend p.specialOffense p.physicalOffense)
            (blend p.specialDefense p.physicalDefense)
          unbalanced := decide (Scalar.IsZero (Scalar.larger
            (blend p.specialOffense p.physicalOffense)
            (blend p.specialDefense p.physicalDefense))) } := by
      rw [← hp]
      rfl
    _ = p.mirror := by
      rw [hblendOffense, hblendDefense, ← hp]
      rfl

end Potentials

/-- A creature with its stats and its tags exchanged between physical and special damage has these
scores exchanged and no other score changed; what stands between it and its scores is the same. -/
theorem potentials_mirror {pow : Float → Float → Float} (stats : Stats (Number (Double pow)))
    (tags : List Text) (type1 : Int) (type2 : Option Int) (types : List TypeInfo)
    (chart : TypeChart (Double pow)) (settings : Settings (Number (Double pow))) :
    potentials stats.mirror (tags.map Tag.mirror) type1 type2 types chart settings =
      (potentials stats tags type1 type2 types chart settings).map Potentials.mirror := by
  have hmirrors := Bundle.mirrors_resolve (α := Double pow) tags (holderTypeNames type1 type2 types)
    (types.map fun t => TypeName.normal t.name)
  have hroster : ∀ t ∈ types, TypeName.normal t.name ∈ types.map fun t => TypeName.normal t.name :=
    fun t ht => List.mem_map.2 ⟨t, ht, rfl⟩
  unfold potentials
  rw [Potentials.scalarStats?_mirror]
  cases Potentials.scalarStats? stats with
  | none => rfl
  | some s =>
    dsimp only [Option.map_some]
    rw [Potentials.fault?_mirror hmirrors]
    split
    · rfl
    · split
      · rfl
      · exact congrArg Except.ok (Potentials.ofBundle_mirror hmirrors hroster ..)

end Roster
