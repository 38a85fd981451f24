import Roster.Proofs.Analysis.OwnTypes
import Roster.Proofs.Double.Commuting
import Roster.Proofs.Scalar.Powered

/-!
# Neutral charts

On a chart where no type does better or worse against another, the types of a creature whose tags do
nothing about incoming damage are worth one on either side: both means are of as many ones as types
take part in the chart. Exact scalars count ones without a bound, doubles do up to 2⁵³. Where no
type takes part, there is nothing to take a mean of: the defense is that of the least mean, and the
offense that of a mean of zero.
-/

namespace Roster

open Scalar

/-! ### Ones -/

/-- Scalars whose one is kept by products, quotients, roots and powers. -/
structure Scalar.KeepsOne (α : Type) [Scalar α] : Prop where
  zero_lt_one : (0 : α) < 1
  one_mul_one : (1 : α) * 1 = 1
  one_div_one : (1 : α) / 1 = 1
  sqrt_one : sqrt (1 : α) = 1
  one_pow (x : α) : pow 1 x = 1

/-- Scalars that count up to a number: it is reached by adding ones, and its share of itself is
one. -/
structure Scalar.CountsTo (α : Type) [Scalar α] (n : Nat) : Prop where
  zero : (ofNat 0 : α) = 0
  succ : ∀ k < n, (ofNat k : α) + 1 = ofNat (k + 1)
  div_self : n ≠ 0 → (ofNat n : α) / ofNat n = 1

section Ones

variable {α : Type} [Scalar α]

/-- What is added up from ones is their number. -/
theorem Scalar.foldl_add_ones {β : Type} {f : β → α} {terms : List β} {k n : Nat}
    (hsucc : ∀ j < n, (ofNat j : α) + 1 = ofNat (j + 1)) (hone : ∀ t ∈ terms, f t = 1)
    (hn : k + terms.length ≤ n) :
    terms.foldl (fun sum t => sum + f t) (ofNat k) = ofNat (k + terms.length) := by
  induction terms generalizing k with
  | nil => rfl
  | cons t rest ih =>
    obtain ⟨ht, hrest⟩ := List.forall_mem_cons.1 hone
    rw [List.length_cons] at hn ⊢
    rw [List.foldl_cons, ht, hsucc k (by omega), ih hrest (by omega)]
    exact congrArg ofNat (by omega)

/-- The mean of ones is one. -/
theorem Potentials.meanOver_ones {β : Type} {f : β → α} {terms : List β}
    (hcounts : CountsTo α terms.length) (hone : ∀ t ∈ terms, f t = 1) (hne : terms ≠ []) :
    meanOver terms.length (terms.foldl (fun sum t => sum + f t) 0) = 1 := by
  have hlength : terms.length ≠ 0 := mt List.length_eq_zero_iff.1 hne
  have hsum := foldl_add_ones (k := 0) hcounts.succ hone (by omega)
  rw [hcounts.zero, Nat.zero_add] at hsum
  rw [meanOver, if_neg hlength, hsum]
  exact hcounts.div_self hlength

end Ones

namespace Powered

variable {root : ℝ → ℝ} {power : ℝ → ℝ → ℝ}

theorem keepsOne (hroot : root 1 = 1) (hpower : ∀ x, power 1 x = 1) :
    KeepsOne (Powered root power) where
  zero_lt_one := zero_lt_one (α := ℝ)
  one_mul_one := one_mul (1 : ℝ)
  one_div_one := div_one (1 : ℝ)
  sqrt_one := hroot
  one_pow := hpower

/-- Exact scalars count to any number. -/
theorem countsTo (n : Nat) : CountsTo (Powered root power) n where
  zero := show (((0 : ℕ) : ℤ) : ℝ) = 0 by norm_num
  succ k _ := show (((k : ℕ) : ℤ) : ℝ) + 1 = (((k + 1 : ℕ) : ℤ) : ℝ) by push_cast; rfl
  div_self h := by
    have hne : ((n : ℤ) : ℝ) ≠ 0 := Int.cast_ne_zero.2 (Nat.cast_ne_zero.2 h)
    exact div_self hne

end Powered

namespace Double

variable {pow : Float → Float → Float}

theorem keepsOne (hpow : ∀ x, pow 1 x = 1) : KeepsOne (Double pow) where
  zero_lt_one := show (0 : Float) < 1 by decide +kernel
  one_mul_one := show (1 : Float) * 1 = 1 by decide +kernel
  one_div_one := show (1 : Float) / 1 = 1 by decide +kernel
  sqrt_one := show (1 : Float).sqrt = 1 by decide +kernel
  one_pow := hpow

/-- Doubles count to 2⁵³. -/
theorem countsTo {n : Nat} (h : n ≤ 2 ^ 53) : CountsTo (Double pow) n where
  zero := show Float.ofInt 0 = 0 by decide +kernel
  succ k hk := by
    have hsucc : k + 1 ≤ 2 ^ 53 := by omega
    have hsum : ((k * unit : ℤ) : ℝ) + (unit : ℤ) = ((k + 1 : ℕ) : ℝ) * unit := by
      push_cast
      ring
    have hvalue := value_add (hasValue_ofInt (Nat.le_of_succ_le hsucc)) hasValue_one
    rw [hsum, capped_rounded_natCast hsucc] at hvalue
    refine (eq_of_value_eq (hasValue_ofInt hsucc) hvalue ?_).symm
    exact mul_ne_zero (by omega) unit_pos.ne'
  div_self hn := by
    have hunit := unit_pos
    have hcount := hasValue_ofInt h
    have hne : (n : ℤ) * unit ≠ 0 := mul_ne_zero (by omega) hunit.ne'
    have hvalue := value_div hcount hcount hne
    rw [div_self (Int.cast_ne_zero.2 hne), one_mul] at hvalue
    have hone : capped (rounded (unit : ℝ)) = unit :=
      capped_rounded_value (canonical 1) hasValue_one.value hasValue_one.neg_top_lt
        hasValue_one.lt_top
    rw [hone] at hvalue
    exact (eq_of_value_eq hasValue_one hvalue hunit.ne').symm

theorem zero_div_ofNat_one : (0 : Double pow) / ofNat 1 = 0 :=
  show (0 : Float) / Float.ofInt 1 = 0 by decide +kernel

end Double

/-! ### Neutral charts -/

namespace TypeChart

variable {α : Type} [Scalar α] {rows : List (ChartRow α)}

theorem multiplier_of_neutral (h : ∀ r ∈ rows, r.multiplier = 1) (attacking defending : Int) :
    (ofRows rows).multiplier attacking defending = 1 := by
  have hentries : ∀ e ∈ (ofRows rows).entries, e.2 = 1 := holds_ofRows (p := fun x : α => x = 1) h
  exact holds_multiplier (p := fun x : α => x = 1) rfl hentries attacking defending

theorem against_of_neutral (h : ∀ r ∈ rows, r.multiplier = 1) (hone : (1 : α) * 1 = 1)
    (attacking type1 : Int) (type2 : Option Int) :
    (ofRows rows).against attacking type1 type2 = 1 := by
  cases type2 with
  | none => exact multiplier_of_neutral h attacking type1
  | some type2 =>
    rw [against, multiplier_of_neutral h, multiplier_of_neutral h]
    exact hone

theorem bestOffense_of_neutral (h : ∀ r ∈ rows, r.multiplier = 1) (defending type1 : Int)
    (type2 : Option Int) : (ofRows rows).bestOffense defending type1 type2 = 1 := by
  cases type2 with
  | none => exact multiplier_of_neutral h type1 defending
  | some type2 =>
    rw [bestOffense, multiplier_of_neutral h, multiplier_of_neutral h]
    exact ite_self 1

end TypeChart

/-! ### Tags that leave the damage -/

/-- Tags none of which is a relation or a factor for incoming damage, or a wonder guard. -/
def Tag.LeavesDamage (α : Type) [Numeral α] (tags : List Text) : Prop :=
  ∀ e ∈ effects (α := α) tags, e.incoming? = none ∧ e ≠ .flag .wonderGuard

instance {α : Type} [Numeral α] [DecidableEq α] (tags : List Text) :
    Decidable (Tag.LeavesDamage α tags) :=
  inferInstanceAs (Decidable (∀ e ∈ Tag.effects (α := α) tags, _))

section Leaves

variable {α : Type} [Numeral α] {tags : List Text} (h : Tag.LeavesDamage α tags)
  (holder : List Text)

include h

theorem Bundle.incomingMultiplier_of_leaves (type : Text) (chart : α) (withFactors : Bool) :
    (resolve tags holder : Bundle α).incomingMultiplier type chart withFactors = chart := by
  have hnil : Tag.incoming (α := α) tags = [] :=
    List.filterMap_eq_nil_iff.2 fun e he => (h e he).1
  rw [incomingMultiplier_resolve, Tag.multiplier, hnil, Incoming.fold_nil]

theorem Bundle.incomingFactor_of_leaves (type : Text) :
    (resolve tags holder : Bundle α).incomingFactor type = 1 := by
  have hnil : tags.filterMap ((Slot.incoming (TypeName.normal type)).ofTag? (α := α) holder) =
      [] := by
    refine List.filterMap_eq_nil_iff.2 fun tag htag => ?_
    refine Option.bind_eq_none_iff.2 fun e he => ?_
    have hnone := (h e (List.mem_filterMap.2 ⟨tag, htag, he⟩)).1
    cases e with
    | incoming i => cases hnone
    | _ => rfl
  change (resolve tags holder : Bundle α).product (.incoming (TypeName.normal type)) = 1
  rw [product_resolve, hnil, productFrom_nil]

theorem Bundle.hasWonderGuard_of_leaves :
    (resolve tags holder : Bundle α).hasWonderGuard = false := by
  rw [Bool.eq_false_iff, hasWonderGuard, Ne, List.contains_iff_mem, mem_flags_resolve]
  exact fun hmem => (h _ hmem).2 rfl

end Leaves

/-! ### Scores -/

namespace Potentials

variable {α : Type} [Numeral α] [LawfulOrder α] {rows : List (ChartRow α)} {tags : List Text}
  {types : List TypeInfo} (hrows : ∀ r ∈ rows, r.multiplier = 1)

theorem product_ones (hone : (1 : α) * 1 = 1) : product [(1 : α), 1, 1] = 1 := by
  simp only [product, productFrom_cons, productFrom_nil, hone, saturate_of_finite amount_one.finite]

section Neutral

variable (hkeeps : KeepsOne α)

include hrows hkeeps

theorem incomingFrom_of_neutral (h : Tag.LeavesDamage α tags) (holder : List Text) (type1 : Int)
    (type2 : Option Int) (attacker : TypeInfo) :
    incomingFrom (.resolve tags holder) type1 type2 (.ofRows rows) attacker = 1 := by
  unfold incomingFrom
  rw [TypeChart.against_of_neutral hrows hkeeps.one_mul_one, Bundle.incomingMultiplier_of_leaves h,
    Bundle.incomingFactor_of_leaves h, Bundle.hasWonderGuard_of_leaves h,
    product_ones hkeeps.one_mul_one]
  exact if_neg fun hguard => Bool.noConfusion hguard.1

theorem typeDefenseOf_of_neutral (h : Tag.LeavesDamage α tags) (holder : List Text)
    (hcounts : CountsTo α types.length) (hne : types ≠ []) (type1 : Int) (type2 : Option Int) :
    typeDefenseOf (.resolve tags holder) type1 type2 types (.ofRows rows) = 1 := by
  have hmean : meanIncoming (.resolve tags holder) type1 type2 types (.ofRows rows) = 1 := by
    unfold meanIncoming
    rw [List.foldl_map]
    refine meanOver_ones hcounts (fun attacker _ => ?_) hne
    rw [incomingFrom_of_neutral hrows hkeeps h]
    exact hkeeps.one_mul_one
  rw [typeDefenseOf, hmean, incomingFloor, if_pos hkeeps.zero_lt_one, hkeeps.sqrt_one,
    hkeeps.one_div_one]
  exact hkeeps.one_pow _

theorem stabOf_of_neutral (hcounts : CountsTo α types.length) (hne : types ≠ []) (type1 : Int)
    (type2 : Option Int) : stabOf type1 type2 types (.ofRows rows) = 1 := by
  have hpower : stabPowerOf (1 : α) = 1 := by
    rw [stabPowerOf, if_neg not_neg_one]
    exact hkeeps.one_pow _
  have hmean : meanOver types.length (types.foldl
      (fun sum t => sum + stabPowerOf ((TypeChart.ofRows rows).bestOffense t.id type1 type2)) 0) =
      1 := by
    refine meanOver_ones hcounts (fun defender _ => ?_) hne
    rw [TypeChart.bestOffense_of_neutral hrows, hpower]
  rw [stabOf, hmean, hkeeps.one_pow, hkeeps.one_pow]
  exact saturate_of_finite amount_one.finite

end Neutral

section Nil

variable (hzero : (0 : α) / ofNat 1 = 0)

include hzero

/-- Without types the incoming damage counts as a least one. -/
theorem typeDefenseOf_nil (bundle : Bundle α) (type1 : Int) (type2 : Option Int)
    (chart : TypeChart α) :
    typeDefenseOf bundle type1 type2 [] chart = pow (1 / sqrt 1e-6) 0.65 := by
  have hmean : meanIncoming bundle type1 type2 [] chart = 0 := hzero
  rw [typeDefenseOf, hmean, incomingFloor, if_neg not_neg_zero]

omit [LawfulOrder α] in
/-- Without types there is nothing to strike. -/
theorem stabOf_nil (type1 : Int) (type2 : Option Int) (chart : TypeChart α) :
    stabOf type1 type2 [] chart = saturate (pow (pow 0 (1 / stabPower)) 0.6) := by
  have hmean : meanOver 0 (0 : α) = 0 := hzero
  change saturate (pow (pow (meanOver 0 (0 : α)) (1 / stabPower)) 0.6) = _
  rw [hmean]

end Nil

end Potentials

/-! ### Games that are read -/

namespace Game

open Potentials

/-- A creature of a game that is read has a score, made with its tags and with the types and rows of
the chart. -/
theorem exists_ofBundle_of_read {α : Type} [Numeral α] [LawfulScalar α] [LawfulWeights α]
    {given : Option Text} {v : Json α} {g : Game α} (hv : v.isWritable)
    (h : (read given v).result = .ok g) (settings : Settings α) {e : BoxEntry} (he : e ∈ g.box) :
    let a := Analyzer.ofGame g settings.written
    ∃ species s stats, Keyed.get? e.speciesId g.species = some species ∧ a.score g e = .ok s ∧
      s.tags = a.tags g e species ∧
      s.potentials =
        .ofBundle stats (Bundle.resolve s.tags (holderTypeNames s.type1 s.type2 g.visible)) s.type1
          s.type2 g.visible (.ofRows g.chart) settings := by
  intro a
  obtain ⟨s, hs⟩ :=
    Analyzer.exists_score (wellFormed_of_read h) (scalarSettings?_written settings) he
      (showsTypes_of_read hv h e)
  obtain ⟨species, p, hspecies, -, names, -, rfl⟩ := Analyzer.exists_potentials_of_score hs
  obtain ⟨stats, -, hbundle⟩ := Analyzer.exists_ofBundle_of_score_ofGame hspecies hs
  exact ⟨species, _, stats, hspecies, hs, rfl, hbundle⟩

/-- On a neutral chart a creature of a game that is read, under any change of the settings, is worth
one by its types on either side, whatever they are and however many types there are besides, if its
tags leave the incoming damage and a type takes part in the chart; this is so as long as doubles can
count those that do. Where none does, its worths are those of the least mean and of a mean of zero.
The document can be shown, as any that a text holds can. In exact arithmetic types of any number can
be counted. All that is assumed of powers and exact roots is what they make of one. -/
theorem neutral_chart_of_read :
    (∀ {pow : Float → Float → Float}, (∀ x, pow 1 x = 1) →
      ∀ {given : Option Text} {v : Json (Double pow)} {g : Game (Double pow)},
        v.isWritable → (read given v).result = .ok g → (∀ r ∈ g.chart, r.multiplier = 1) →
      ∀ c : SettingsChange (Double pow), ∀ e ∈ g.box,
        ∃ s, (Analyzer.ofGame g (g.settings.change c).written).score g e = .ok s ∧
          (Tag.LeavesDamage (Double pow) s.tags → g.visible ≠ [] → g.visible.length ≤ 2 ^ 53 →
            s.potentials.typeDefense = 1 ∧ s.potentials.stab = 1) ∧
          (g.visible = [] → s.potentials.typeDefense = pow (1 / Float.sqrt 1e-6) 0.65 ∧
            s.potentials.stab = saturate (pow (pow 0 (1 / 1.5)) 0.6))) ∧
      ∀ {root : ℝ → ℝ} {power : ℝ → ℝ → ℝ}, root 1 = 1 → (∀ x, power 1 x = 1) →
        ∀ rows : List (ChartRow (Powered root power)), (∀ r ∈ rows, r.multiplier = 1) →
        ∀ tags holder : List Text, Tag.LeavesDamage (Powered root power) tags →
        ∀ types : List TypeInfo, types ≠ [] → ∀ (type1 : Int) (type2 : Option Int),
          typeDefenseOf (.resolve tags holder) type1 type2 types (.ofRows rows) = 1 ∧
            stabOf type1 type2 types (.ofRows rows) = 1 := by
  constructor
  · intro pow hpow given v g hv h hrows c e he
    obtain ⟨species, s, stats, -, hs, -, hbundle⟩ :=
      exists_ofBundle_of_read hv h (g.settings.change c) he
    refine ⟨s, hs, fun htags hne hlength => ?_, fun hnil => ?_⟩
    · have hkeeps := Double.keepsOne hpow
      have hcounts : CountsTo (Double pow) g.visible.length := Double.countsTo hlength
      rw [hbundle]
      exact ⟨typeDefenseOf_of_neutral hrows hkeeps htags _ hcounts hne _ _,
        stabOf_of_neutral hrows hkeeps hcounts hne _ _⟩
    · rw [hbundle, hnil]
      exact ⟨typeDefenseOf_nil Double.zero_div_ofNat_one _ _ _ _,
        stabOf_nil Double.zero_div_ofNat_one _ _ _⟩
  · intro root power hroot hpower rows hrows tags holder htags types hne type1 type2
    have hkeeps := Powered.keepsOne hroot hpower
    have hcounts : CountsTo (Powered root power) types.length := Powered.countsTo _
    exact ⟨typeDefenseOf_of_neutral hrows hkeeps htags holder hcounts hne type1 type2,
      stabOf_of_neutral hrows hkeeps hcounts hne type1 type2⟩

/-- A document with a neutral chart, of a creature of two types. The second type does not take part
in the chart, and the first one may not either. -/
def emberDocument (excluded : Bool) : Json (Double fun x _ => x) :=
  .record
    [("types", .array
        [.record [("id", .number (.whole 1)), ("name", .string "Fire"),
            ("exclude_in_chart", .bool excluded)],
          .record [("id", .number (.whole 2)), ("name", .string "Ghost"),
            ("exclude_in_chart", .bool true)]]),
      ("chart", .array [.record [("attacking_type_id", .number (.whole 2)),
        ("defending_type_id", .number (.whole 1)), ("multiplier", .number (.whole 1))]]),
      ("species", .array [.record
        ([("id", .number (.whole 1)), ("name", .string "Ember"), ("type1_id", .number (.whole 1)),
            ("type2_id", .number (.whole 2)), ("tags", .array [.string "mult:atk:2"])]
          ++ Stat.all.map fun stat => (stat.key, .number (.whole 80)))]),
      ("box", .array [boxItem 1])]

/-- The game of that document. -/
def ember (excluded : Bool) : Game (Double fun x _ => x) :=
  { solo with
    name := untitled
    types := [⟨1, "Fire", none, excluded⟩, ⟨2, "Ghost", none, true⟩]
    chart := [⟨2, 1, 1⟩]
    species := [(1, ⟨1, "Ember", 1, some 2, .const (.whole 80), 1, ["mult:atk:2"]⟩)]
    team := [none, none, none, none, none, none] }

theorem read_emberDocument (excluded : Bool) :
    (read none (emberDocument excluded)).result = .ok (ember excluded) := by
  refine toOption_eq_some.1 ?_
  cases excluded <;> decide +kernel

/-- With fire in the chart an ember is worth one by its types. -/
theorem neutral_chart_of_read_ember :
    let g := ember false
    (read none (emberDocument false)).result = .ok g ∧ g.visible.length = 1 ∧
      ∃ s, (Analyzer.ofGame g (g.settings.change {}).written).score g soloEntry = .ok s ∧
        s.potentials.typeDefense = 1 ∧ s.potentials.stab = 1 := by
  intro g
  have hread := read_emberDocument false
  obtain ⟨hdoubles, -⟩ := neutral_chart_of_read
  obtain ⟨s, hs, hneutral, -⟩ := @hdoubles (fun x _ => x) (fun _ => rfl) _ _ _
    (by decide +kernel) hread (List.forall_mem_singleton.2 rfl) {} soloEntry
    (List.mem_singleton.2 rfl)
  obtain ⟨species, p, hspecies, -, names, -, rfl⟩ := Analyzer.exists_potentials_of_score hs
  have htags : Tag.LeavesDamage (Double fun x _ => x) ["mult:atk:2"] := by decide +kernel
  obtain rfl := Option.some.inj hspecies
  exact ⟨hread, rfl, _, hs, hneutral htags (List.cons_ne_nil _ _) (show 1 ≤ 2 ^ 53 by norm_num)⟩

/-- With fire out of the chart too it is not, on either side, although what the chart has is neutral
and the ember has but a tag for its attack. -/
theorem ember_of_no_visible_type :
    let g := ember true
    (read none (emberDocument true)).result = .ok g ∧ (∀ r ∈ g.chart, r.multiplier = 1) ∧
      soloEntry ∈ g.box ∧ Tag.LeavesDamage (Double fun x _ => x) ["mult:atk:2"] ∧
      ∃ s, (Analyzer.ofGame g g.settings.written).score g soloEntry = .ok s ∧
        s.tags = ["mult:atk:2"] ∧ s.potentials.typeDefense ≠ 1 ∧ s.potentials.stab ≠ 1 := by
  intro g
  have hread := read_emberDocument true
  refine ⟨hread, List.forall_mem_singleton.2 rfl, List.mem_singleton.2 rfl, by decide +kernel, ?_⟩
  obtain ⟨species, s, stats, hspecies, hs, htags, hbundle⟩ :=
    exists_ofBundle_of_read (by decide +kernel) hread g.settings (e := soloEntry)
      (List.mem_singleton.2 rfl)
  obtain rfl := Option.some.inj hspecies
  refine ⟨s, hs, htags, ?_, ?_⟩
  · have hworth : Scalar.pow (1 / sqrt 1e-6) 0.65 ≠ (1 : Double fun x _ => x) :=
      show 1 / Float.sqrt 1e-6 ≠ 1 by decide +kernel
    rw [hbundle]
    exact fun hone => hworth ((typeDefenseOf_nil Double.zero_div_ofNat_one _ _ _ _).symm.trans hone)
  · have hworth : saturate (Scalar.pow (Scalar.pow 0 (1 / stabPower)) 0.6) ≠
        (1 : Double fun x _ => x) := show saturate (0 : Float) ≠ 1 by decide +kernel
    rw [hbundle]
    exact fun hone => hworth ((stabOf_nil Double.zero_div_ofNat_one _ _ _).symm.trans hone)

end Game

end Roster
