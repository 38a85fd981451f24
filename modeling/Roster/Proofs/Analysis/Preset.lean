import Roster.Proofs.Analysis.Agree
import Roster.Proofs.Analysis.Total

/-!
# Unknown crit tables

A name that no built-in table has counts as the default one's. Settings that name the table that
counts in the first place give the same scores, box and team; neither does the name of a game enter
them.
-/

namespace Roster

namespace Crit

/-- The built-in table that counts for a name. -/
def effectivePreset (name : Text) : Text := if isKnownPreset name then name else defaultPreset

theorem isKnownPreset_effectivePreset (name : Text) :
    isKnownPreset (effectivePreset name) = true := by
  unfold effectivePreset
  split
  · assumption
  · decide

theorem effectivePreset_eq_iff (name : Text) :
    effectivePreset name = name ↔ isKnownPreset name = true := by
  constructor
  · intro h
    rw [← h]
    exact isKnownPreset_effectivePreset name
  · exact fun h => if_pos h

theorem get?_presets_of_not_isKnownPreset {α : Type} [Scalar α] {name : Text}
    (h : isKnownPreset name = false) : Keyed.get? name (presets : Keyed Text (List α)) = none := by
  have hkeys : Keyed.keys (presets : Keyed Text (List α)) = presetNames := rfl
  rw [← Option.not_isSome_iff_eq_none, Keyed.get?_isSome_iff, hkeys]
  simpa [isKnownPreset] using h

theorem tableOf_effectivePreset {α : Type} [Scalar α] (name : Text) :
    tableOf (presets : Keyed Text (List α)) (effectivePreset name) = tableOf presets name := by
  cases h : isKnownPreset name with
  | true => rw [(effectivePreset_eq_iff name).2 h]
  | false =>
    unfold effectivePreset tableOf
    rw [h, get?_presets_of_not_isKnownPreset h]
    rfl

theorem expectation_effectivePreset {α : Type} [Scalar α] (modifiers : CritModifiers α)
    (name : Text) (baseDamage : α) (fallback : Option α) :
    expectation presets modifiers (effectivePreset name) baseDamage fallback =
      expectation presets modifiers name baseDamage fallback := by
  unfold expectation
  rw [tableOf_effectivePreset]

end Crit

namespace Settings

variable {α : Type}

/-- Settings that name the crit table that counts. -/
def withEffectivePreset (s : Settings α) : Settings α :=
  { s with critPreset := Crit.effectivePreset s.critPreset }

theorem withEffectivePreset_eq_iff (s : Settings α) :
    s.withEffectivePreset = s ↔ Crit.isKnownPreset s.critPreset = true := by
  rw [← Crit.effectivePreset_eq_iff]
  constructor
  · exact congrArg critPreset
  · intro h
    unfold withEffectivePreset
    rw [h]

theorem written_withEffectivePreset (s : Settings α) :
    s.withEffectivePreset.written = s.written.withEffectivePreset :=
  rfl

end Settings

namespace Potentials

variable {α : Type}

theorem scalarSettings?_withEffectivePreset [Scalar α] (s : Settings (Number α)) :
    scalarSettings? s.withEffectivePreset =
      (scalarSettings? s).map Settings.withEffectivePreset := by
  unfold scalarSettings?
  change (s.critDamage.toScalar?.bind _) = (s.critDamage.toScalar?.bind _).map _
  cases s.critDamage.toScalar? <;> rfl

theorem ofBundle_withEffectivePreset [Scalar α] (stats : Stats α) (bundle : Bundle α) (type1 : Int)
    (type2 : Option Int) (types : List TypeInfo) (chart : TypeChart α) (settings : Settings α) :
    ofBundle stats bundle type1 type2 types chart settings.withEffectivePreset =
      ofBundle stats bundle type1 type2 types chart settings := by
  unfold ofBundle Settings.withEffectivePreset
  dsimp only
  rw [Crit.expectation_effectivePreset]

end Potentials

variable {α : Type} [Numeral α]

/-- Scores do not tell an unknown crit table from the default one. -/
theorem potentials_withEffectivePreset (stats : Stats (Number α)) (tags : List Text) (type1 : Int)
    (type2 : Option Int) (types : List TypeInfo) (chart : TypeChart α)
    (settings : Settings (Number α)) :
    potentials stats tags type1 type2 types chart settings.withEffectivePreset =
      potentials stats tags type1 type2 types chart settings := by
  unfold potentials
  rw [Potentials.scalarSettings?_withEffectivePreset]
  cases Potentials.scalarSettings? settings with
  | none => rfl
  | some t => simp only [Option.map_some, Potentials.ofBundle_withEffectivePreset]

namespace Analyzer

/-! ### What does not enter -/

variable (g : Game α) (settings : Settings (Number α)) (name : Text)

theorem score_withEffectivePreset :
    (ofGame g settings.withEffectivePreset).score g =
      (ofGame { g with name } settings).score { g with name } := by
  funext e
  unfold score potentialsOf
  simp only [ofGame, potentials_withEffectivePreset]
  rfl

theorem scoreNotices_withEffectivePreset (e : BoxEntry) :
    (ofGame g settings.withEffectivePreset).scoreNotices g e =
      (ofGame { g with name } settings).scoreNotices { g with name } e := by
  unfold scoreNotices
  rw [score_withEffectivePreset g settings name]
  rfl

theorem agree_withEffectivePreset :
    (ofGame g settings.withEffectivePreset).Agree g (ofGame { g with name } settings)
      { g with name } fun e => e where
  score := congrFun (score_withEffectivePreset g settings name)
  notices := scoreNotices_withEffectivePreset g settings name
  id _ := rfl
  box := (List.map_id' g.box).symm
  team := rfl
  report := rfl

/-- A game's box is the same under another name, and where the settings name the crit table that
counts. -/
theorem box_withEffectivePreset :
    ((ofGame g settings.withEffectivePreset).box g).1 =
      ((ofGame { g with name } settings).box { g with name }).1 :=
  (agree_withEffectivePreset g settings name).box_result_eq

/-- So is its team. -/
theorem team_withEffectivePreset :
    (ofGame g settings.withEffectivePreset).team g =
      (ofGame { g with name } settings).team { g with name } :=
  (agree_withEffectivePreset g settings name).team_eq

end Analyzer

end Roster
