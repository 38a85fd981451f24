import Roster.Proofs.Bundle.Order
import Roster.Proofs.Bundle.Sides
import Roster.Proofs.Scalar.Powered
import Roster.Proofs.Tag.Respelled

/-!
# Bundles of shielded holders

Tags that shield their holder: an immunity, a resistance, an incoming factor up to one, wonder
guard. Put among other tags, wherever, such a tag lets no attack through with a greater multiplier
than before.
-/

namespace Roster

/-- Tags that let no more of an attack through. -/
inductive Tag.Shield (α : Type) [Numeral α] (tag : Text) : Prop where
  | immune {type : Text} :
      Text.split ':' (Text.trim tag) = (["immune", type] : List Text) → Shield α tag
  | resist {type : Text} :
      Text.split ':' (Text.trim tag) = (["resist", type] : List Text) → Shield α tag
  | factor {type payload : Text} {f : α} :
      Text.split ':' (Text.trim tag) = (["mult", "in_type", type, payload] : List Text) →
      Tag.factor? payload = some f → f ≤ 1 → Shield α tag
  | special : Text.split ':' (Text.trim tag) = (["special", "wonder_guard"] : List Text) →
      Shield α tag
  | flag : Text.split ':' (Text.trim tag) = (["flag", "wonder_guard"] : List Text) → Shield α tag

/-- Effects that let no more of an attack through. -/
inductive Effect.Shields {α : Type} [Scalar α] : Effect α → Prop
  | immune (type : Text) : Shields (.incoming (.relation .immune type))
  | resist (type : Text) : Shields (.incoming (.relation .resist type))
  | factor (type : Text) {f : α} : f ≤ 1 → Shields (.incoming (.factor type f))
  | wonderGuard : Shields (.flag .wonderGuard)

namespace Tag

variable {α : Type} [Numeral α] {tag : Text}

/-- A tag that shields has such an effect, if it has one: a type may be blank. -/
theorem Shield.shields (h : Shield α tag) {e : Effect α} (he : parse tag = some e) : e.Shields := by
  cases h with
  | @immune type hparts =>
    rw [parse, hparts] at he
    obtain ⟨name, -, rfl⟩ :=
      Option.map_eq_some_iff.1 ((ofParts?_relation .immune type).symm.trans he)
    exact .immune name
  | @resist type hparts =>
    rw [parse, hparts] at he
    obtain ⟨name, -, rfl⟩ :=
      Option.map_eq_some_iff.1 ((ofParts?_relation .resist type).symm.trans he)
    exact .resist name
  | factor hparts hf hone =>
    rw [parse_of_split hparts, mult?, if_neg (by decide), if_pos rfl, hf] at he
    obtain ⟨name, -, he⟩ := Option.bind_eq_some_iff.1 he
    cases he
    exact .factor name hone
  | special hparts =>
    rw [parse, hparts] at he
    cases he
    exact .wonderGuard
  | flag hparts =>
    rw [parse, hparts] at he
    cases he
    exact .wonderGuard

end Tag

section Insert

variable {α : Type} [Numeral α] {tag : Text}

theorem Slot.le_one_of_shield (h : Tag.Shield α tag) {holder : List Text} {type : Text}
    {f : α} (hf : (Slot.incoming type).ofTag? holder tag = some f) : f ≤ 1 := by
  obtain ⟨e, he, hf⟩ := Option.bind_eq_some_iff.1 hf
  cases h.shields he with
  | factor type' hle =>
    obtain ⟨-, hf⟩ := Option.ite_none_right_eq_some.1 hf
    cases hf
    exact hle
  | _ => cases hf

theorem Incoming.le_one_of_shield (h : Tag.Shield α tag) (hresist : (0.5 : α) ≤ 1) {type : Text}
    {withFactors : Bool} {f : α} (hf : Incoming.ofTag? type withFactors tag = some f) : f ≤ 1 := by
  obtain ⟨e, he, hf⟩ := Option.bind_eq_some_iff.1 hf
  cases h.shields he with
  | immune type' =>
    obtain ⟨-, hf⟩ := Option.ite_none_right_eq_some.1 hf
    cases hf
  | resist type' =>
    obtain ⟨-, hf⟩ := Option.ite_none_right_eq_some.1 hf
    cases hf
    exact hresist
  | factor type' hle =>
    obtain ⟨-, hf⟩ := Option.ite_none_right_eq_some.1 hf
    cases hf
    exact hle
  | wonderGuard => cases hf

/-- What tags do is still done among more of them. -/
theorem Tag.mem_effects_insert {before after : List Text} {e : Effect α}
    (h : e ∈ Tag.effects (before ++ after)) : e ∈ Tag.effects (before ++ tag :: after) :=
  ((List.sublist_append_right [tag] after).append_left before |>.filterMap Tag.parse).subset h

theorem Tag.Immune.insert {before after : List Text} {type : Text}
    (h : Tag.Immune α (before ++ after) type) : Tag.Immune α (before ++ tag :: after) type := by
  obtain ⟨e, he, hi⟩ := List.mem_filterMap.1 h
  exact List.mem_filterMap.2 ⟨e, mem_effects_insert he, hi⟩

end Insert

/-! ### Bundles -/

namespace Bundle

variable {root : ℝ → ℝ} {power : ℝ → ℝ → ℝ}

/-- Bundles of which the second lets no more of an attack through than the first. -/
structure Shielded (b b' : Bundle (Powered root power)) : Prop where
  multiplier (type : Text) :
    Rises (b'.incomingMultiplier type 1 false) (b.incomingMultiplier type 1 false)
  factor (type : Text) : Rises (b'.incomingFactor type) (b.incomingFactor type)
  guard : b.hasWonderGuard = true → b'.hasWonderGuard = true

/-- A tag that shields is put among others. -/
theorem shielded_insert {tag : Text} (h : Tag.Shield (Powered root power) tag)
    (before after holder : List Text) :
    (resolve (before ++ after) holder : Bundle (Powered root power)).Shielded
      (resolve (before ++ tag :: after) holder) := by
  have hhalf : (0 : Powered root power) ≤ 0.5 := show (0 : ℝ) ≤ 0.5 by norm_num
  have htwo : (0 : Powered root power) ≤ 2.0 := show (0 : ℝ) ≤ 2.0 by norm_num
  have hresist : (0.5 : Powered root power) ≤ 1 := show (0.5 : ℝ) ≤ 1 by norm_num
  have hone : (0 : Powered root power) ≤ 1 := LawfulOrder.zero_le_one
  refine ⟨fun type => ?_, fun type => ?_, fun hguard => ?_⟩
  · rw [incomingMultiplier_resolve, incomingMultiplier_resolve]
    have hfall : Rises
        (Scalar.productFrom 1 ((before ++ tag :: after).filterMap
          (Incoming.ofTag? (α := Powered root power) (TypeName.normal type) false)))
        (Scalar.productFrom 1 ((before ++ after).filterMap
          (Incoming.ofTag? (TypeName.normal type) false))) := by
      refine Powered.rises_productFrom_insert ?_ ?_ hone before after
      · exact fun _ _ hx => Incoming.nonneg_of_ofTag? hhalf htwo hx
      · exact fun _ hx => Incoming.le_one_of_shield h hresist hx
    by_cases hbefore : Tag.Immune (Powered root power) (before ++ after) type
    · rw [Tag.multiplier_of_immune hbefore, Tag.multiplier_of_immune hbefore.insert]
      exact .same (le_refl (α := ℝ) 0)
    · rw [Tag.multiplier_of_not_immune hbefore]
      by_cases hafter : Tag.Immune (Powered root power) (before ++ tag :: after) type
      · rw [Tag.multiplier_of_immune hafter]
        exact ⟨Scalar.zero_le_zero, hfall.nonneg'⟩
      · rw [Tag.multiplier_of_not_immune hafter]
        exact hfall
  · have hproduct (tags : List Text) :
        (resolve tags holder : Bundle (Powered root power)).incomingFactor type =
          Scalar.productFrom 1
            (tags.filterMap ((Slot.incoming (TypeName.normal type)).ofTag? holder)) :=
      product_resolve tags holder (.incoming (TypeName.normal type))
    rw [hproduct, hproduct]
    refine Powered.rises_productFrom_insert ?_ ?_ hone before after
    · exact fun _ _ hx => Slot.nonneg_of_ofTag? hx
    · exact fun _ hx => Slot.le_one_of_shield h hx
  · rw [hasWonderGuard_resolve, List.any_eq_true] at hguard ⊢
    obtain ⟨e, he, hflag⟩ := hguard
    exact ⟨e, Tag.mem_effects_insert he, hflag⟩

end Bundle

end Roster
