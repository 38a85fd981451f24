import Roster.Coverage
import Roster.Proofs.Bundle.Order

/-!
# Incoming damage, for scores and for teams

The matrix of a team multiplies the charted value by relations and incoming factors as the tags
come. Scores take three factors that were gathered apart: the charted value, the product of the
relations and that of the incoming factors. With exact arithmetic that nowhere leaves the finite
range both are the same number. An immunity makes the multiplier of the matrix zero, and of the
three factors one; only scores heed wonder guard.
-/

namespace Roster

namespace Saturation

variable {g : ℝ}

/-- Where no product from the left leaves the interval, nothing is brought back. -/
theorem boundedProduct_of_scanl_le {c : ℝ} {fs : List ℝ} (hc : 0 ≤ c) (hfs : ∀ f ∈ fs, 0 ≤ f)
    (h : ∀ x ∈ fs.scanl (· * ·) c, x ≤ g) : boundedProduct g c fs = c * fs.prod := by
  refine boundedProduct_of_partials fun x hx => ?_
  have hmem := List.mem_of_mem_tail hx
  have hx0 := partials_nonneg hc hfs x hmem
  have hxg := h x hmem
  exact ⟨by linarith, hxg⟩

/-- A product of factors of two kinds is the product of those of one kind times that of the other,
however they are mixed. -/
theorem prod_filterMap_of_kinds {β : Type} {e e₁ e₂ : β → Option ℝ}
    (he : ∀ t, e t = e₁ t ∧ e₂ t = none ∨ e₁ t = none ∧ e t = e₂ t) (l : List β) :
    (l.filterMap e).prod = (l.filterMap e₁).prod * (l.filterMap e₂).prod := by
  induction l with
  | nil => simp
  | cons t rest ih =>
    rcases he t with ⟨h, hnone⟩ | ⟨hnone, h⟩
    · rw [List.filterMap_cons, List.filterMap_cons, List.filterMap_cons, h, hnone]
      cases e₁ t with
      | none => exact ih
      | some f => simp [ih, mul_assoc]
    · rw [List.filterMap_cons, List.filterMap_cons, List.filterMap_cons, h, hnone]
      cases e₂ t with
      | none => exact ih
      | some f => simp [ih, mul_left_comm]

end Saturation

/-- A tag that counts for the multiplier on attacks of a type is a relation or an incoming factor,
and a bundle gathers it in one of the two places. -/
theorem Incoming.ofTag?_kinds {α : Type} [Numeral α] (holder : List Text) (type tag : Text) :
    ofTag? (α := α) type true tag = ofTag? type false tag ∧
        (Slot.incoming type).ofTag? (α := α) holder tag = none ∨
      ofTag? (α := α) type false tag = none ∧
        ofTag? (α := α) type true tag = (Slot.incoming type).ofTag? holder tag := by
  unfold ofTag? Slot.ofTag?
  cases Tag.parse (α := α) tag with
  | none => exact Or.inl ⟨rfl, rfl⟩
  | some e =>
    cases e with
    | incoming i =>
      cases i with
      | relation r t => exact Or.inl ⟨rfl, rfl⟩
      | factor t f =>
        refine Or.inr ⟨?_, ?_⟩
        · simp [Effect.incoming?, factorFor?]
        · simp [Effect.incoming?, factorFor?, Slot.factor?]
    | _ => exact Or.inl ⟨rfl, rfl⟩

namespace Exact

open Saturation

/-- Factors whose products from a start, one factor after the other, all stay in the finite
range. -/
def InRange (start : Exact) (factors : List Exact) : Prop :=
  ∀ x ∈ factors.scanl (· * ·) start, x ≤ Scalar.greatest

theorem InRange.productFrom_eq {start : Exact} {factors : List Exact} (h : InRange start factors)
    (hs : (0 : Exact) ≤ start) (hf : ∀ f ∈ factors, (0 : Exact) ≤ f) :
    Scalar.productFrom start factors = start * factors.prod :=
  (Exact.productFrom_eq start factors).trans (boundedProduct_of_scanl_le hs hf h)

theorem nonneg_prod {factors : List Exact} (h : ∀ f ∈ factors, (0 : Exact) ≤ f) :
    (0 : Exact) ≤ factors.prod := List.prod_nonneg (R := ℝ) h

theorem prod_three (a b c : Exact) : 1 * [a, b, c].prod = a * (b * c) := by
  have hreal (x y z : ℝ) : 1 * [x, y, z].prod = x * (y * z) := by simp
  exact hreal a b c

end Exact

/-- A chart without multipliers below zero has none against a holder of one or two types. -/
theorem TypeChart.nonneg_against {chart : TypeChart Exact}
    (h : ∀ e ∈ chart.entries, (0 : Exact) ≤ e.2) (attacking type1 : Int) (type2 : Option Int) :
    (0 : Exact) ≤ chart.against attacking type1 type2 :=
  holds_against LawfulOrder.zero_le_one (fun _ _ => mul_nonneg (α := ℝ)) h attacking type1 type2

namespace Coverage

/-- The factors on attacks of a type that tags give, in their order: the relations' and, where they
are wanted, the incoming ones. -/
noncomputable def factors (tags : List Text) (attacker : TypeInfo) (withFactors : Bool) :
    List Exact :=
  tags.filterMap (Incoming.ofTag? (TypeName.normal attacker.name) withFactors)

/-- The incoming factors that a bundle gathers for a type. -/
noncomputable def incomingFactors (tags holder : List Text) (attacker : TypeInfo) : List Exact :=
  tags.filterMap ((Slot.incoming (TypeName.normal attacker.name)).ofTag? holder)

/-- The factors that scores multiply for attacks of a type: the charted value, the multiplier of the
relations and the incoming factor. -/
noncomputable def scoreFactors (chart : TypeChart Exact) (attacker : TypeInfo) (m : TeamMember)
    (holder : List Text) : List Exact :=
  [chart.against attacker.id m.type1 m.type2,
    (Bundle.resolve m.tags holder).incomingMultiplier attacker.name 1 false,
    (Bundle.resolve m.tags holder).incomingFactor attacker.name]

/-- The computations of a member's multiplier, for the matrix and for its scores, nowhere leave the
finite range. -/
structure Unsaturated (chart : TypeChart Exact) (attacker : TypeInfo) (m : TeamMember)
    (holder : List Text) : Prop where
  matrix : Exact.InRange (chart.against attacker.id m.type1 m.type2) (factors m.tags attacker true)
  relations : Exact.InRange 1 (factors m.tags attacker false)
  incoming : Exact.InRange 1 (incomingFactors m.tags holder attacker)
  scores : Exact.InRange 1 (scoreFactors chart attacker m holder)

section Factors

variable (tags holder : List Text) (attacker : TypeInfo)

theorem nonneg_factors (withFactors : Bool) :
    ∀ f ∈ factors tags attacker withFactors, (0 : Exact) ≤ f := by
  intro f hf
  obtain ⟨tag, -, htag⟩ := List.mem_filterMap.1 hf
  exact Exact.nonneg_of_incoming _ _ tag f htag

theorem nonneg_incomingFactors : ∀ f ∈ incomingFactors tags holder attacker, (0 : Exact) ≤ f := by
  intro f hf
  obtain ⟨tag, -, htag⟩ := List.mem_filterMap.1 hf
  exact Exact.nonneg_of_ofTag? holder _ tag f htag

/-- What the matrix takes as the tags come a bundle gathers in two products. -/
theorem prod_factors :
    (factors tags attacker true).prod =
      (factors tags attacker false).prod * (incomingFactors tags holder attacker).prod :=
  Saturation.prod_filterMap_of_kinds
    (Incoming.ofTag?_kinds (α := Exact) holder (TypeName.normal attacker.name)) tags

end Factors

variable {chart : TypeChart Exact} {attacker : TypeInfo} {m : TeamMember} {holder : List Text}

/-- Without an immunity, and in range, the factors that scores multiply are the charted value and
two exact products. -/
theorem scoreFactors_of_not_immune (himmune : ¬ Tag.Immune Exact m.tags attacker.name)
    (hrelations : Exact.InRange 1 (factors m.tags attacker false))
    (hincoming : Exact.InRange 1 (incomingFactors m.tags holder attacker)) :
    scoreFactors chart attacker m holder =
      [chart.against attacker.id m.type1 m.type2, (factors m.tags attacker false).prod,
        (incomingFactors m.tags holder attacker).prod] := by
  have hone : (0 : Exact) ≤ 1 := LawfulOrder.zero_le_one
  have hrel : (Bundle.resolve m.tags holder).incomingMultiplier attacker.name 1 false =
      (factors m.tags attacker false).prod := by
    rw [Bundle.incomingMultiplier_resolve, Tag.multiplier_of_not_immune himmune]
    exact (hrelations.productFrom_eq hone (nonneg_factors m.tags attacker false)).trans
      (one_mul (M := ℝ) _)
  have hinc : (Bundle.resolve m.tags holder).incomingFactor attacker.name =
      (incomingFactors m.tags holder attacker).prod := by
    refine (Bundle.product_resolve m.tags holder (.incoming _)).trans ?_
    exact (hincoming.productFrom_eq hone (nonneg_incomingFactors m.tags holder attacker)).trans
      (one_mul (M := ℝ) _)
  rw [scoreFactors, hrel, hinc]

/-- The product of the factors that scores multiply is the multiplier of the matrix. -/
theorem product_scoreFactors (hchart : ∀ e ∈ chart.entries, (0 : Exact) ≤ e.2)
    (h : Unsaturated chart attacker m holder) :
    Scalar.product (scoreFactors chart attacker m holder) = multiplier chart attacker m := by
  by_cases himmune : Tag.Immune Exact m.tags attacker.name
  · have hzero : (0 : Exact) ∈ scoreFactors chart attacker m holder := by
      rw [scoreFactors, Bundle.incomingMultiplier_resolve, Tag.multiplier_of_immune himmune]
      simp
    rw [multiplier, Tag.multiplier_of_immune himmune]
    exact (Exact.productFrom_eq 1 _).trans
      (Saturation.boundedProduct_of_zero_mem Exact.limit_pos.le hzero 1)
  · have hagainst := TypeChart.nonneg_against hchart attacker.id m.type1 m.type2
    have hsplit : scoreFactors chart attacker m holder = _ :=
      scoreFactors_of_not_immune himmune h.relations h.incoming
    have hnonneg : ∀ f ∈ scoreFactors chart attacker m holder, (0 : Exact) ≤ f := by
      rw [hsplit]
      simp only [List.forall_mem_cons, List.not_mem_nil, false_implies, implies_true, and_true]
      exact ⟨hagainst, Exact.nonneg_prod (nonneg_factors m.tags attacker false),
        Exact.nonneg_prod (nonneg_incomingFactors m.tags holder attacker)⟩
    calc
      Scalar.product (scoreFactors chart attacker m holder)
        = 1 * (scoreFactors chart attacker m holder).prod :=
          h.scores.productFrom_eq LawfulOrder.zero_le_one hnonneg
      _ = chart.against attacker.id m.type1 m.type2 *
          ((factors m.tags attacker false).prod *
            (incomingFactors m.tags holder attacker).prod) := by
        rw [hsplit, Exact.prod_three]
      _ = multiplier chart attacker m := by
        rw [← prod_factors, multiplier, Tag.multiplier_of_not_immune himmune]
        exact (h.matrix.productFrom_eq hagainst (nonneg_factors m.tags attacker true)).symm

/-- Scores take for an attacking type the multiplier that the matrix shows, except that under wonder
guard nothing gets through of what is not above one. -/
theorem incomingFrom_eq_cell {members : List (Option TeamMember)} {types : List TypeInfo}
    {i j : Nat} (hattacker : types[i]? = some attacker) (hm : members[j]? = some (some m))
    (hchart : ∀ e ∈ chart.entries, (0 : Exact) ≤ e.2)
    (h : Unsaturated chart attacker m holder) :
    ∃ row cell, (matrix members types chart)[i]? = some row ∧ row.type = attacker ∧
      row.multipliers[j]? = some (some cell) ∧
      ((∃ tag ∈ m.tags, Tag.parse (α := Exact) tag = some (.flag .wonderGuard)) ∧ cell ≤ 1 →
        Potentials.incomingFrom (Bundle.resolve m.tags holder) m.type1 m.type2 chart attacker = 0) ∧
      (¬ ((∃ tag ∈ m.tags, Tag.parse (α := Exact) tag = some (.flag .wonderGuard)) ∧ cell ≤ 1) →
        Potentials.incomingFrom (Bundle.resolve m.tags holder) m.type1 m.type2 chart attacker =
          cell) := by
  have hguard : (Bundle.resolve m.tags holder : Bundle Exact).hasWonderGuard = true ↔
      ∃ tag ∈ m.tags, Tag.parse (α := Exact) tag = some (.flag .wonderGuard) := by
    rw [Bundle.hasWonderGuard, List.contains_iff_mem, Bundle.mem_flags_resolve, Tag.effects,
      List.mem_filterMap]
  have hfrom :
      Potentials.incomingFrom (Bundle.resolve m.tags holder) m.type1 m.type2 chart attacker =
      if (Bundle.resolve m.tags holder : Bundle Exact).hasWonderGuard ∧
        multiplier chart attacker m ≤ 1 then 0 else multiplier chart attacker m := by
    rw [← product_scoreFactors hchart h]
    rfl
  refine ⟨matrixRow members chart attacker, multiplier chart attacker m, ?_, rfl, ?_, ?_, ?_⟩
  · rw [matrix, List.getElem?_map, hattacker]
    rfl
  · simp [matrixRow, hm]
  · intro hguarded
    rw [hfrom, if_pos]
    rwa [hguard]
  · intro hopen
    rw [hfrom, if_neg]
    rwa [hguard]

/-- A creature that fire hurts twice as much, and once more so for a tag, of which an item leaves a
quarter. -/
def tinder : TeamMember :=
  ⟨3, none, ["weak:fire", "mult:in_type:Fire:0.25", "special:wonder_guard"]⟩

def fire : TypeInfo := ⟨2, "Fire", none, false⟩

/-- The chart on which fire is strong against the creature's type. -/
noncomputable def dryChart : TypeChart Exact := .ofRows [⟨2, 3, 2.0⟩]

theorem effects_tinder :
    Tag.effects (α := Exact) tinder.tags =
      [.incoming (.relation .weak "fire"), .incoming (.factor "fire" 0.25),
        .flag .wonderGuard] := by
  have hquarter : Tag.factor? (α := Exact) "0.25" = some 0.25 := by
    have hliteral : Decimal.Literal.ofText? (Text.trim "0.25") = some (.finite false 25 (-2)) := by
      decide +kernel
    have hreal : (25 : ℝ) * 10 ^ (-2 : ℤ) = 0.25 := by norm_num
    have hnumber : Numeral.ofLiteral (α := Exact) (.finite false 25 (-2)) = 0.25 := hreal
    have hamount : Scalar.Amount (0.25 : Exact) :=
      Scalar.amount_of_le_one (show (0 : ℝ) ≤ 0.25 by norm_num) (show (0.25 : ℝ) ≤ 1 by norm_num)
    rw [Tag.factor?, Tag.number?, hliteral]
    dsimp only
    rw [hnumber, if_pos hamount.finite, Option.bind_some, if_neg hamount.not_neg]
  have hweak : Tag.parse (α := Exact) "weak:fire" = some (.incoming (.relation .weak "fire")) := rfl
  have hfactor : Tag.parse (α := Exact) "mult:in_type:Fire:0.25" =
      (Tag.factor? "0.25").bind fun f => some (.incoming (.factor "fire" f)) := rfl
  have hguard : Tag.parse (α := Exact) "special:wonder_guard" = some (.flag .wonderGuard) := rfl
  rw [hquarter] at hfactor
  unfold Tag.effects tinder
  simp only [List.filterMap_cons, List.filterMap_nil, hweak, hfactor, hguard, Option.bind_some]

theorem factors_tinder :
    factors tinder.tags fire true = [2.0, 0.25] ∧ factors tinder.tags fire false = [2.0] ∧
      incomingFactors tinder.tags [] fire = [0.25] := by
  have hname : TypeName.normal fire.name = "fire" := by decide
  have hgather (part? : Effect Exact → Option Exact) :
      (tinder.tags.filterMap fun tag => (Tag.parse tag).bind part?) =
        [.incoming (.relation .weak "fire"), .incoming (.factor "fire" 0.25),
          .flag .wonderGuard].filterMap part? := by
    rw [← List.filterMap_filterMap]
    exact congrArg (List.filterMap part?) effects_tinder
  unfold factors incomingFactors
  rw [hname]
  exact ⟨(hgather _).trans rfl, (hgather _).trans rfl, (hgather _).trans rfl⟩

theorem not_immune_tinder : ¬ Tag.Immune Exact tinder.tags fire.name := by
  have hincoming : Tag.incoming (α := Exact) tinder.tags =
      [.relation .weak "fire", .factor "fire" 0.25] :=
    congrArg (List.filterMap Effect.incoming?) effects_tinder
  rw [Tag.Immune, hincoming]
  simp

theorem unsaturated_tinder : Unsaturated dryChart fire tinder [] := by
  have hrange {start : ℝ} {factors : List ℝ} (h : ∀ x ∈ factors.scanl (· * ·) start, x ≤ 4) :
      Exact.InRange start factors := fun x hx => (h x hx).trans Exact.four_le_limit
  have htwo : ∀ x ∈ [(2.0 : ℝ)].scanl (· * ·) 1, x ≤ 4 := by norm_num [List.scanl_cons]
  have hquarter : ∀ x ∈ [(0.25 : ℝ)].scanl (· * ·) 1, x ≤ 4 := by norm_num [List.scanl_cons]
  have hboth : ∀ x ∈ [2.0, (0.25 : ℝ)].scanl (· * ·) 2.0, x ≤ 4 := by norm_num [List.scanl_cons]
  have hscores : ∀ x ∈ [2.0, [(2.0 : ℝ)].prod, [(0.25 : ℝ)].prod].scanl (· * ·) 1, x ≤ 4 := by
    norm_num [List.scanl_cons]
  obtain ⟨hall, hrelations, hincoming⟩ := factors_tinder
  have hrel : Exact.InRange 1 (factors tinder.tags fire false) := hrelations ▸ hrange htwo
  have hinc : Exact.InRange 1 (incomingFactors tinder.tags [] fire) := hincoming ▸ hrange hquarter
  refine ⟨hall ▸ hrange hboth, hrel, hinc, ?_⟩
  rw [scoreFactors_of_not_immune not_immune_tinder hrel hinc, hrelations, hincoming]
  exact hrange hscores

theorem multiplier_tinder : multiplier dryChart fire tinder = 1 := by
  have hagainst : (0 : Exact) ≤ 2.0 := show (0 : ℝ) ≤ 2.0 by norm_num
  have hproduct : (2.0 : ℝ) * [(2.0 : ℝ), 0.25].prod = 1 := by norm_num
  rw [multiplier, Tag.multiplier_of_not_immune not_immune_tinder]
  refine (unsaturated_tinder.matrix.productFrom_eq hagainst
    (nonneg_factors tinder.tags fire true)).trans ?_
  rw [factors_tinder.1]
  exact hproduct

/-- What is brought down to one does not get through wonder guard. -/
theorem incomingFrom_tinder :
    Unsaturated dryChart fire tinder [] ∧
      (∃ row, (matrix [none, some tinder] [fire] dryChart)[0]? = some row ∧
        row.multipliers[1]? = some (some 1)) ∧
      Potentials.incomingFrom (Bundle.resolve tinder.tags []) 3 none dryChart fire = 0 := by
  have hchart : ∀ e ∈ dryChart.entries, (0 : Exact) ≤ e.2 := by
    intro e he
    obtain rfl := List.mem_singleton.1 he
    exact show (0 : ℝ) ≤ 2.0 by norm_num
  have hattacker : [fire][0]? = some fire := rfl
  have hm : [none, some tinder][1]? = some (some tinder) := rfl
  obtain ⟨row, cell, hrow, -, hcell, hguarded, -⟩ :=
    incomingFrom_eq_cell hattacker hm hchart unsaturated_tinder
  obtain rfl : cell = 1 := by
    obtain rfl := Option.some.inj hrow
    exact (Option.some.inj (Option.some.inj hcell)).symm.trans multiplier_tinder
  have htag : ("special:wonder_guard" : Text) ∈ tinder.tags := by simp [tinder]
  exact ⟨unsaturated_tinder, ⟨row, hrow, hcell⟩,
    hguarded ⟨⟨_, htag, rfl⟩, Scalar.one_le_one⟩⟩

end Coverage

end Roster
