import Roster.Bundle
import Roster.Proofs.Tag.Bounds

/-!
# Bounds of resolved tags

Every factor of a bundle stays finite and not below zero, and every crit bonus finite, however many
tags are resolved. What a bundle makes of attacks of a type is an amount too.
-/

namespace Roster

open Scalar

/-- A bundle whose factors are amounts and whose bonuses are finite. -/
structure Bundle.Sound {α : Type} [Scalar α] (b : Bundle α) : Prop where
  stats (stat : Stat) : Amount (b.stats.get stat)
  physicalBulk : Amount b.physicalBulk
  specialBulk : Amount b.specialBulk
  defense : Amount b.defense
  offense : Amount b.offense
  offenseByType : Amount b.offenseByType
  incomingFactors : ∀ e ∈ b.incomingFactors, Amount e.2
  incoming : ∀ i ∈ b.incoming, i.Sound
  critChance : Finite b.crit.chanceBonus
  critDamage : Amount b.crit.damageFactor
  critStage : Finite b.crit.stageBonus

namespace Bundle

variable {α : Type}

section Scalar

variable [Scalar α] [LawfulScalar α]

theorem sound_identity : (identity : Bundle α).Sound where
  stats stat := by
    rw [identity, Stats.get_const]
    exact amount_one
  physicalBulk := amount_one
  specialBulk := amount_one
  defense := amount_one
  offense := amount_one
  offenseByType := amount_one
  incomingFactors := fun _ h => absurd h List.not_mem_nil
  incoming := fun _ h => absurd h List.not_mem_nil
  critChance := finite_zero
  critDamage := amount_one
  critStage := finite_zero

/-- A product of amounts, brought back into the finite range. -/
theorem amount_saturate_mul {x y : α} (hx : Amount x) (hy : Amount y) :
    Amount (saturate (x * y)) :=
  amount_saturate (LawfulScalar.not_neg_mul hx.not_neg hy.not_neg)

namespace Sound

variable {b : Bundle α}

theorem scaleStat (h : b.Sound) (stat : Stat) {factor : α} (hf : Amount factor) :
    (b.scaleStat stat factor).Sound := by
  refine { h with stats := fun s => ?_ }
  rw [Bundle.scaleStat, Stats.get_set]
  split
  · exact amount_saturate_mul (h.stats stat) hf
  · exact h.stats s

theorem factorOf (h : b.Sound) (type : Text) : Amount (b.factorOf type) := by
  unfold Bundle.factorOf
  cases hg : Keyed.get? type b.incomingFactors with
  | none => exact amount_one
  | some x => exact h.incomingFactors _ (Keyed.mem_of_get? hg)

theorem addIncoming (h : b.Sound) {i : Incoming α} (hi : i.Sound) : (b.addIncoming i).Sound := by
  have hmem : ∀ j ∈ b.incoming ++ [i], j.Sound := by
    intro j hj
    rcases List.mem_append.1 hj with hj | hj
    · exact h.incoming j hj
    · exact List.mem_singleton.1 hj ▸ hi
  cases i with
  | relation r t => exact { h with incoming := hmem }
  | factor type factor =>
    refine { h with incoming := hmem, incomingFactors := fun e he => ?_ }
    rcases Keyed.mem_put he with rfl | he
    · exact amount_saturate_mul (h.factorOf type) hi
    · exact h.incomingFactors e he

omit [LawfulScalar α] in
theorem addFlag (h : b.Sound) (flag : Flag) : (b.addFlag flag).Sound := by
  unfold Bundle.addFlag
  split
  · exact h
  · exact { h with }

/-- One more effect with sound numbers keeps a bundle's numbers sound. -/
theorem add (h : b.Sound) (holder : List Text) {e : Effect α} (he : e.Sound) :
    (b.add holder e).Sound := by
  cases e with
  | stat stat factor => exact h.scaleStat stat he
  | statIfType stat type factor =>
    change (if type ∈ holder then b.scaleStat stat factor else b).Sound
    split
    · exact h.scaleStat stat he
    · exact h
  | physicalBulk factor => exact { h with physicalBulk := amount_saturate_mul h.physicalBulk he }
  | specialBulk factor => exact { h with specialBulk := amount_saturate_mul h.specialBulk he }
  | defense factor => exact { h with defense := amount_saturate_mul h.defense he }
  | offense factor => exact { h with offense := amount_saturate_mul h.offense he }
  | offenseIfType type factor =>
    change Sound (if type ∈ holder then
      { b with offenseByType := saturate (b.offenseByType * factor) } else b)
    split
    · exact { h with offenseByType := amount_saturate_mul h.offenseByType he }
    · exact h
  | incoming i => exact h.addIncoming he
  | flag flag => exact h.addFlag flag
  | crit kind value =>
    cases kind with
    | chance => exact { h with critChance := finite_saturate _ }
    | damage => exact { h with critDamage := amount_saturate_mul h.critDamage he }
    | stage => exact { h with critStage := finite_saturate _ }
  | note note => exact { h with }

end Sound

end Scalar

variable [Numeral α] [LawfulScalar α]

theorem Sound.addTag {b : Bundle α} (h : b.Sound) (holder : List Text) (tag : Text) :
    (b.addTag holder tag).Sound := by
  unfold Bundle.addTag
  split
  · exact { h with }
  · exact h.add holder (Tag.sound_of_parse ‹_›)

/-- Whatever the tags are, the numbers of what they are resolved to are sound. -/
theorem sound_resolve (tags holder : List Text) : (resolve tags holder : Bundle α).Sound := by
  suffices h : ∀ b : Bundle α, b.Sound →
      (tags.foldl (Bundle.addTag (TypeName.normals holder)) b).Sound from h _ sound_identity
  induction tags with
  | nil => exact fun b hb => hb
  | cons tag tags ih => exact fun b hb => ih _ (hb.addTag _ tag)

end Bundle

/-! ### Incoming damage -/

namespace Incoming

variable {α : Type} [Scalar α] [LawfulScalar α]

theorem not_neg_of_factor? {r : Relation} {x : α} (h : r.factor? = some x) : ¬ x < 0 := by
  cases r with
  | immune => cases h
  | resist => exact Option.some.inj h ▸ LawfulScalar.not_neg_ofScientific _ _ _
  | weak => exact Option.some.inj h ▸ LawfulScalar.not_neg_ofScientific _ _ _

theorem not_neg_of_factorFor? {type : Text} {withFactors : Bool} {i : Incoming α} {x : α}
    (hi : i.Sound) (h : factorFor? type withFactors i = some x) : ¬ x < 0 := by
  cases i with
  | relation r t =>
    change (if t = type then r.factor? else none) = some x at h
    split at h
    · exact not_neg_of_factor? h
    · cases h
  | factor t f =>
    change (if withFactors ∧ t = type then some f else none) = some x at h
    split at h
    · exact Option.some.inj h ▸ Amount.not_neg hi
    · cases h

/-- The multiplier on attacks of a type is an amount if the chart's value is. -/
theorem amount_fold {effects : List (Incoming α)} (h : ∀ i ∈ effects, i.Sound) (type : Text)
    {chart : α} (hc : Amount chart) (withFactors : Bool) :
    Amount (fold effects type chart withFactors) := by
  unfold fold
  dsimp only
  split
  · exact amount_zero
  · refine amount_productFrom hc fun x hx => ?_
    obtain ⟨i, hi, hx⟩ := List.mem_filterMap.1 hx
    exact not_neg_of_factorFor? (h i hi) hx

end Incoming

end Roster
