import Roster.Potentials
import Roster.Proofs.Bundle.Bounds
import Roster.Proofs.Bundle.Sides
import Roster.Proofs.Double.Laws
import Roster.Proofs.Potentials.Bounds

/-!
# Tags act on their own side

Wherever among other tags one more comes, the scores of the side that it is not for stay what they
are; and all scores do if the tag has no effect or is for a type that is not there.
-/

namespace Roster

namespace Potentials

section Same

variable {α : Type}

/-- The scores of the attack are the same. -/
structure SameOffense (p p' : Potentials α) : Prop where
  physicalOffense : p.physicalOffense = p'.physicalOffense
  specialOffense : p.specialOffense = p'.specialOffense
  offense : p.offense = p'.offense
  stab : p.stab = p'.stab
  crit : p.crit = p'.crit

/-- The scores of the defense are the same. -/
structure SameDefense (p p' : Potentials α) : Prop where
  physicalDefense : p.physicalDefense = p'.physicalDefense
  specialDefense : p.specialDefense = p'.specialDefense
  defense : p.defense = p'.defense
  typeDefense : p.typeDefense = p'.typeDefense

/-- Scores are the same if those of both sides are, and what is made of both sides. -/
theorem eq_of_same {p p' : Potentials α} (ho : p.SameOffense p') (hd : p.SameDefense p')
    (hrank : p.rank = p'.rank) (hunbalanced : p.unbalanced = p'.unbalanced) : p = p' := by
  obtain ⟨h₁, h₂, h₃, h₄, h₅⟩ := ho
  obtain ⟨h₆, h₇, h₈, h₉⟩ := hd
  cases p
  cases p'
  simp_all

end Same

variable {α : Type} [Scalar α] {b b' : Bundle α} (stats : Stats α) (type1 : Int)
  (type2 : Option Int) (types : List TypeInfo) (chart : TypeChart α) (settings : Settings α)

theorem adjusted_get_eq {s : Stat} (h : b.product (.stat s) = b'.product (.stat s)) :
    (adjusted stats b).get s = (adjusted stats b').get s := by
  have h : b.stats.get s = b'.stats.get s := h
  rw [adjusted, adjusted, Stats.get_ofFn, Stats.get_ofFn, h]

/-- Bundles that are the same for the defense adjust its stats alike. -/
theorem adjusted_eq_of_sameDefense {roster : List Text} (h : b.SameDefense roster b') :
    (adjusted stats b).hp = (adjusted stats b').hp ∧
      (adjusted stats b).defense = (adjusted stats b').defense ∧
      (adjusted stats b).specialDefense = (adjusted stats b').specialDefense :=
  ⟨adjusted_get_eq stats (h.product (.stat .hp) rfl trivial),
    adjusted_get_eq stats (h.product (.stat .defense) rfl trivial),
    adjusted_get_eq stats (h.product (.stat .specialDefense) rfl trivial)⟩

/-- The scores of the attack are made of what the bundle holds for it. -/
theorem sameOffense_ofBundle (h : b.SameOffense b') :
    (ofBundle stats b type1 type2 types chart settings).SameOffense
      (ofBundle stats b' type1 type2 types chart settings) := by
  have hattack : (adjusted stats b).attack = (adjusted stats b').attack :=
    adjusted_get_eq stats (h.product (.stat .attack) rfl)
  have hspecial : (adjusted stats b).specialAttack = (adjusted stats b').specialAttack :=
    adjusted_get_eq stats (h.product (.stat .specialAttack) rfl)
  have hspeed : (adjusted stats b).speed = (adjusted stats b').speed :=
    adjusted_get_eq stats (h.product (.stat .speed) rfl)
  have hoffense : b.offense = b'.offense := h.product .offense rfl
  have hbyType : b.offenseByType = b'.offenseByType := h.product .offenseByType rfl
  have hcrit : b.crit = b'.crit := Bundle.crit_eq h.total (h.product .critDamage rfl) h.applied
  constructor <;> simp only [ofBundle, hattack, hspecial, hspeed, hoffense, hbyType, hcrit]

variable {types} in
theorem typeDefenseOf_eq_of_same {roster : List Text} (h : b.SameIncoming roster b')
    (hroster : ∀ t ∈ types, TypeName.normal t.name ∈ roster) :
    typeDefenseOf b type1 type2 types chart = typeDefenseOf b' type1 type2 types chart := by
  have hfrom : types.map (incomingFrom b type1 type2 chart) =
      types.map (incomingFrom b' type1 type2 chart) := by
    refine List.map_congr_left fun t ht => ?_
    rw [incomingFrom, incomingFrom, h.multiplier t.name (hroster t ht),
      h.factor t.name (hroster t ht), h.guard]
  rw [typeDefenseOf, typeDefenseOf, meanIncoming, meanIncoming, hfrom]

variable {types} in
/-- The scores of the defense are made of what the bundle holds for it. -/
theorem sameDefense_ofBundle {roster : List Text} (h : b.SameDefense roster b')
    (hroster : ∀ t ∈ types, TypeName.normal t.name ∈ roster) :
    (ofBundle stats b type1 type2 types chart settings).SameDefense
      (ofBundle stats b' type1 type2 types chart settings) := by
  obtain ⟨hhp, hdefense, hspecial⟩ := adjusted_eq_of_sameDefense stats h
  have hphysicalBulk : b.physicalBulk = b'.physicalBulk := h.product .physicalBulk rfl trivial
  have hspecialBulk : b.specialBulk = b'.specialBulk := h.product .specialBulk rfl trivial
  have hfactor : b.defense = b'.defense := h.product .defense rfl trivial
  have htype := typeDefenseOf_eq_of_same type1 type2 chart h.toSameIncoming hroster
  constructor <;>
    simp only [ofBundle, hhp, hdefense, hspecial, hphysicalBulk, hspecialBulk, hfactor, htype]

variable {types} in
/-- The sides are all that the rank is made of, so that bundles that hold the same of what is looked
at have the same scores. -/
theorem ofBundle_eq_of_same {roster : List Text} (ho : b.SameOffense b')
    (hd : b.SameDefense roster b') (hroster : ∀ t ∈ types, TypeName.normal t.name ∈ roster) :
    ofBundle stats b type1 type2 types chart settings =
      ofBundle stats b' type1 type2 types chart settings := by
  have ho := sameOffense_ofBundle stats type1 type2 types chart settings ho
  have hd := sameDefense_ofBundle stats type1 type2 chart settings hd hroster
  refine eq_of_same ho hd ?_ ?_
  · exact congrArg₂ rankOf ho.offense hd.defense
  · exact congrArg₂ (fun offense defense => decide (Scalar.IsZero (Scalar.larger offense defense)))
      ho.offense hd.defense

/-! ### Faults -/

theorem fault?_eq_of_same {roster : List Text} (h : b.SameDefense roster b') :
    fault? stats b type1 type2 types chart = fault? stats b' type1 type2 types chart := by
  obtain ⟨hhp, hdefense, hspecial⟩ := adjusted_eq_of_sameDefense stats h
  simp only [fault?, hhp, hdefense, hspecial]

/-- Where the products under a root are not below zero, only a power can be missing. -/
theorem fault?_of_bulk
    (h : ∀ stat, ¬ bulkProduct (adjusted stats b).hp ((adjusted stats b).get stat) < 0) :
    fault? stats b type1 type2 types chart =
      if ∃ t ∈ types, HasNoStabPower (chart.bestOffense t.id type1 type2) then some .noPower
      else none := by
  unfold fault?
  dsimp only
  rw [if_neg]
  rintro (hneg | hneg)
  · exact h .defense hneg
  · exact h .specialDefense hneg

variable {stats} in
theorem fault?_of_amount [LawfulScalar α] (hs : ∀ stat, Scalar.Amount (stats.get stat))
    (hb : b.Sound) :
    fault? stats b type1 type2 types chart =
      if ∃ t ∈ types, HasNoStabPower (chart.bestOffense t.id type1 type2) then some .noPower
      else none :=
  fault?_of_bulk stats type1 type2 types chart fun stat =>
    (amount_bulkProduct (amount_adjusted hs hb) stat).not_neg

/-- Outcomes that are the same fault, or scores that stand in a relation. -/
inductive Alike {α : Type} (R : Potentials α → Potentials α → Prop) :
    Except Fault (Potentials α) → Except Fault (Potentials α) → Prop
  | fault (fault : Fault) : Alike R (.error fault) (.error fault)
  | scores {p p' : Potentials α} : R p p' → Alike R (.ok p) (.ok p')

theorem Alike.eq {α : Type} {x y : Except Fault (Potentials α)} (h : Alike Eq x y) : x = y := by
  cases h with
  | fault f => rfl
  | scores h => rw [h]

end Potentials

section Insert

open Potentials

variable {α : Type} [Numeral α] {tags tags' : List Text} {type1 : Int} {type2 : Option Int}
  {types : List TypeInfo} (stats : Stats (Number α)) (chart : TypeChart α)
  (settings : Settings (Number α))

/-- A creature has the scores of its bundle if its numbers are scalars and there is no fault. -/
theorem potentials_eq_ok_iff {p : Potentials α} :
    potentials stats tags type1 type2 types chart settings = .ok p ↔
      ∃ s t, scalarStats? stats = some s ∧
        fault? s (Bundle.resolve tags (holderTypeNames type1 type2 types)) type1 type2 types chart =
          none ∧
        scalarSettings? settings = some t ∧
        ofBundle s (Bundle.resolve tags (holderTypeNames type1 type2 types)) type1 type2 types
          chart t = p := by
  unfold potentials
  constructor
  · intro h
    dsimp only at h
    split at h
    · cases h
    · rename_i s hs
      split at h
      · cases h
      · rename_i hfault
        split at h
        · cases h
        · rename_i t ht
          exact ⟨s, t, hs, hfault, ht, Except.ok.inj h⟩
  · rintro ⟨s, t, hs, hfault, ht, rfl⟩
    simp only [hs, hfault, ht]

/-- Outcomes are alike where the faults are the same and the scores are related. -/
theorem potentials_alike_of_scalars {stats' : Stats (Number α)} {s s' : Stats α}
    {R : Potentials α → Potentials α → Prop} (hs : scalarStats? stats = some s)
    (hs' : scalarStats? stats' = some s')
    (hfault : fault? s (Bundle.resolve tags (holderTypeNames type1 type2 types)) type1 type2 types
        chart =
      fault? s' (Bundle.resolve tags' (holderTypeNames type1 type2 types)) type1 type2 types chart)
    (hscores : ∀ t, scalarSettings? settings = some t →
      R (ofBundle s (Bundle.resolve tags (holderTypeNames type1 type2 types)) type1 type2 types
          chart t)
        (ofBundle s' (Bundle.resolve tags' (holderTypeNames type1 type2 types)) type1 type2 types
          chart t)) :
    Alike R (potentials stats tags type1 type2 types chart settings)
      (potentials stats' tags' type1 type2 types chart settings) := by
  unfold potentials
  simp only [hs, hs', hfault]
  split
  · exact .fault _
  · cases ht : scalarSettings? settings with
    | none => exact .fault _
    | some t => exact .scores (hscores t ht)

theorem potentials_alike {R : Potentials α → Potentials α → Prop}
    (hfault : ∀ s, scalarStats? stats = some s →
      fault? s (Bundle.resolve tags (holderTypeNames type1 type2 types)) type1 type2 types chart =
        fault? s (Bundle.resolve tags' (holderTypeNames type1 type2 types)) type1 type2 types chart)
    (hscores : ∀ s t,
      R (ofBundle s (Bundle.resolve tags (holderTypeNames type1 type2 types)) type1 type2 types
          chart t)
        (ofBundle s (Bundle.resolve tags' (holderTypeNames type1 type2 types)) type1 type2 types
          chart t)) :
    Alike R (potentials stats tags type1 type2 types chart settings)
      (potentials stats tags' type1 type2 types chart settings) := by
  cases hs : scalarStats? stats with
  | none =>
    unfold potentials
    simp only [hs]
    exact .fault _
  | some s =>
    exact potentials_alike_of_scalars stats chart settings hs hs (hfault s hs)
      fun t _ => hscores s t

variable {holder roster : List Text} {tag : Text} (before after : List Text)
  (hholder : holder = TypeName.normals (holderTypeNames type1 type2 types))
  (hroster : ∀ t ∈ types, TypeName.normal t.name ∈ roster)

include hholder hroster in
theorem potentials_insert_eq (ho : ¬ Tag.ActsOn α holder roster .offense tag)
    (hd : ¬ Tag.ActsOn α holder roster .defense tag) :
    potentials stats (before ++ tag :: after) type1 type2 types chart settings =
      potentials stats (before ++ after) type1 type2 types chart settings := by
  subst hholder
  have hoffense := Bundle.sameOffense_insert ho before after
  have hdefense := Bundle.sameDefense_insert hd before after
  have halike : Alike Eq
      (potentials stats (before ++ tag :: after) type1 type2 types chart settings)
      (potentials stats (before ++ after) type1 type2 types chart settings) :=
    potentials_alike stats chart settings
      (fun s _ => fault?_eq_of_same s type1 type2 types chart hdefense)
      fun s t => ofBundle_eq_of_same s type1 type2 chart t hoffense hdefense hroster
  exact halike.eq

include hholder hroster in
theorem potentials_insert_sameDefense (hd : ¬ Tag.ActsOn α holder roster .defense tag) :
    Alike SameDefense
      (potentials stats (before ++ tag :: after) type1 type2 types chart settings)
      (potentials stats (before ++ after) type1 type2 types chart settings) := by
  subst hholder
  have hdefense := Bundle.sameDefense_insert hd before after
  exact potentials_alike stats chart settings
    (fun s _ => fault?_eq_of_same s type1 type2 types chart hdefense)
    fun s t => sameDefense_ofBundle s type1 type2 chart t hdefense hroster

include hholder in
theorem potentials_insert_sameOffense (ho : ¬ Tag.ActsOn α holder roster .offense tag)
    {p p' : Potentials α}
    (hp : potentials stats (before ++ tag :: after) type1 type2 types chart settings = .ok p)
    (hp' : potentials stats (before ++ after) type1 type2 types chart settings = .ok p') :
    p.SameOffense p' := by
  subst hholder
  obtain ⟨s, t, hs, -, ht, rfl⟩ := (potentials_eq_ok_iff stats chart settings).1 hp
  obtain ⟨s', t', hs', -, ht', rfl⟩ := (potentials_eq_ok_iff stats chart settings).1 hp'
  obtain rfl := Option.some.inj (hs.symm.trans hs')
  obtain rfl := Option.some.inj (ht.symm.trans ht')
  exact sameOffense_ofBundle s type1 type2 types chart t (Bundle.sameOffense_insert ho before after)

include hholder in
/-- With amounts for stats no tag of the other side stands between a creature and its scores. -/
theorem potentials_insert_alike [LawfulScalar α]
    (ho : ¬ Tag.ActsOn α holder roster .offense tag)
    (hs : ∀ s, scalarStats? stats = some s → ∀ stat, Scalar.Amount (s.get stat)) :
    Alike SameOffense
      (potentials stats (before ++ tag :: after) type1 type2 types chart settings)
      (potentials stats (before ++ after) type1 type2 types chart settings) := by
  subst hholder
  have hoffense := Bundle.sameOffense_insert ho before after
  refine potentials_alike stats chart settings (fun s hs' => ?_) fun s t =>
    sameOffense_ofBundle s type1 type2 types chart t hoffense
  rw [fault?_of_amount _ _ _ _ (hs s hs') (Bundle.sound_resolve _ _),
    fault?_of_amount _ _ _ _ (hs s hs') (Bundle.sound_resolve _ _)]

end Insert

/-- A tag acts on its own side alone, wherever among others it comes. One that has no effect, bears
on no side or is for a type that is not there changes nothing; one that is for the defense leaves
the scores of the attack as they are, and one that is for the attack those of the defense. -/
theorem potentials_insert {α : Type} [Numeral α] [LawfulScalar α] (stats : Stats (Number α))
    (before after : List Text) (tag : Text) (type1 : Int) (type2 : Option Int)
    (types : List TypeInfo) (chart : TypeChart α) (settings : Settings (Number α)) :
    let scores (tags : List Text) := potentials stats tags type1 type2 types chart settings
    let holder := TypeName.normals (holderTypeNames type1 type2 types)
    let roster := types.map fun t => TypeName.normal t.name
    ((∀ e : Effect α, Tag.parse tag = some e → e.side? = none ∨ e.Idle holder roster) →
      scores (before ++ tag :: after) = scores (before ++ after)) ∧
    (∀ e : Effect α, Tag.parse tag = some e → e.side? = some .defense →
      (∀ p p', scores (before ++ tag :: after) = .ok p → scores (before ++ after) = .ok p' →
        p.SameOffense p') ∧
      ((∀ s, Potentials.scalarStats? stats = some s → ∀ stat, Scalar.Amount (s.get stat)) →
        Potentials.Alike Potentials.SameOffense (scores (before ++ tag :: after))
          (scores (before ++ after)))) ∧
    (∀ e : Effect α, Tag.parse tag = some e → e.side? = some .offense →
      Potentials.Alike Potentials.SameDefense (scores (before ++ tag :: after))
        (scores (before ++ after))) := by
  intro scores holder roster
  have hroster : ∀ t ∈ types, TypeName.normal t.name ∈ roster := fun t ht =>
    List.mem_map.2 ⟨t, ht, rfl⟩
  have hother {e : Effect α} {side side' : Side} (he : Tag.parse tag = some e)
      (hside : e.side? = some side) (hne : side ≠ side') :
      ¬ Tag.ActsOn α holder roster side' tag := by
    rintro ⟨e', he', hside', -⟩
    obtain rfl := Option.some.inj (he.symm.trans he')
    exact hne (Option.some.inj (hside.symm.trans hside'))
  refine ⟨fun h => ?_, fun e he hside => ?_, fun e he hside => ?_⟩
  · have hnone (side : Side) : ¬ Tag.ActsOn α holder roster side tag := by
      rintro ⟨e, he, hside, hidle⟩
      rcases h e he with hnone | hi
      · cases hnone.symm.trans hside
      · exact hidle hi
    exact potentials_insert_eq stats chart settings before after rfl hroster (hnone .offense)
      (hnone .defense)
  · have ho : ¬ Tag.ActsOn α holder roster .offense tag := hother he hside nofun
    exact ⟨fun p p' => potentials_insert_sameOffense stats chart settings before after rfl ho,
      potentials_insert_alike stats chart settings before after rfl ho⟩
  · have hd : ¬ Tag.ActsOn α holder roster .defense tag := hother he hside nofun
    exact potentials_insert_sameDefense stats chart settings before after rfl hroster hd

/-- To a creature of the water an item that helps attackers of the fire does nothing; resistance to
fire is for its defense, and a higher crit stage for its attack. -/
theorem potentials_insert_water :
    let types : List TypeInfo := [⟨1, "Fire", none, false⟩, ⟨2, "Water", none, false⟩]
    let scores (tags : List Text) : Except Potentials.Fault (Potentials Float) :=
      potentials (.const (.real 50)) tags 2 none types ⟨[]⟩ Settings.default.written
    scores ["mult:off:2", "mult:off_type:Fire:2", "mult:hp:2"] =
      scores ["mult:off:2", "mult:hp:2"] ∧
    Potentials.Alike Potentials.SameOffense (scores ["mult:off:2", "resist:fire", "mult:hp:2"])
      (scores ["mult:off:2", "mult:hp:2"]) ∧
    Potentials.Alike Potentials.SameDefense (scores ["mult:off:2", "crit:stage:+1", "mult:hp:2"])
      (scores ["mult:off:2", "mult:hp:2"]) := by
  intro types scores
  have hholder : TypeName.normals (holderTypeNames 2 none types) = ["water"] := by decide +kernel
  have hfire : Tag.parse (α := Float) "mult:off_type:Fire:2" = some (.offenseIfType "fire" 2) := by
    decide +kernel
  have hresist : Tag.parse (α := Float) "resist:fire" =
      some (.incoming (.relation .resist "fire")) := by decide +kernel
  have hstage : Tag.parse (α := Float) "crit:stage:+1" = some (.crit .stage 1) := by decide +kernel
  have h (tag : Text) := potentials_insert (α := Float) (.const (.real 50)) ["mult:off:2"]
    ["mult:hp:2"] tag 2 none types ⟨[]⟩ Settings.default.written
  refine ⟨(h _).1 fun e he => ?_, ((h _).2.1 _ hresist rfl).2 fun s hs stat => ?_,
    (h _).2.2 _ hstage rfl⟩
  · obtain rfl := Option.some.inj (hfire.symm.trans he)
    have hfire : ("fire" : Text) ∉ (["water"] : List Text) := by decide
    exact Or.inr (hholder ▸ hfire)
  · obtain rfl : Stats.const 50 = s := Option.some.inj hs
    rw [Stats.get_const]
    exact ⟨by decide +kernel, by decide +kernel⟩

end Roster
