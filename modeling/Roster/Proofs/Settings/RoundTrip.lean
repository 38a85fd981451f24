import Roster.Command.Request
import Roster.Proofs.Game.Taggable
import Roster.Proofs.Game.WellFormed

/-!
# Settings written and read back

What a command changes of the settings does not pass through the reader of a document. An amount on
a command line keeps the rules of an amount in a document; a name of a crit table is taken as it is
spelled, with the blanks around it that a document would lose.
-/

namespace Roster

open Scalar

variable {α : Type}

namespace Json

/-- A member of an object whose keys are strings is looked up by the string. -/
theorem member?_map (key : String) (members : List (String × Json α)) :
    Json.member? key (members.map fun e => ((e.1 : Text), e.2)) = members.lookup key := by
  induction members with
  | nil => rfl
  | cons e rest ih =>
    obtain ⟨k, v⟩ := e
    by_cases h : k = key
    · subst h
      simp [Json.member?, Keyed.get?]
    · have hne : (k : Text) ≠ key := fun he => h (Text.ofString_injective he)
      have hbeq : (key == k) = false := beq_false_of_ne (Ne.symm h)
      rw [List.lookup_cons, hbeq, ← ih]
      simp [Json.member?, Keyed.get?, hne]

end Json

namespace Settings

theorem readPreset_string (name : Text) :
    readPreset (α := α) (.string name) =
      if Text.trim name = "" then .error (.blankPreset (.string name)) else .ok (Text.trim name) :=
  rfl

/-- A name is read as it is if it is one, without blanks around. -/
theorem readPreset_eq_self_iff {name : Text} :
    readPreset (α := α) (.string name) = .ok name ↔ name.IsName := by
  rw [readPreset_string]
  constructor
  · intro h
    split at h
    · cases h
    · rename_i hne
      have htrim := Except.ok.inj h
      rw [htrim] at hne
      exact ⟨htrim, hne⟩
  · intro h
    rw [h.trimmed, if_neg h.nonempty]

theorem isName_of_readPreset {v : Json α} {name : Text} (h : readPreset v = .ok name) :
    name.IsName := by
  cases v with
  | string s =>
    rw [readPreset_string] at h
    split at h
    · cases h
    · rename_i hne
      obtain rfl := Except.ok.inj h
      exact ⟨Tag.trim_trim s, hne⟩
  | _ => cases h

variable [Scalar α]

/-- Settings that are read name a crit table. -/
theorem isName_of_ofJson {v : Json α} {s : Settings α} (h : ofJson v = .ok s) :
    s.critPreset.IsName := by
  have hdefault : Text.IsName Crit.defaultPreset := ⟨by decide +kernel, by decide⟩
  cases v with
  | null =>
    obtain rfl := Except.ok.inj h
    exact hdefault
  | object members =>
    change ofMembers members = .ok s at h
    unfold ofMembers at h
    obtain ⟨preset, hp, h⟩ := bind_eq_ok.1 h
    obtain ⟨damage, -, h⟩ := bind_eq_ok.1 h
    obtain ⟨chance, -, h⟩ := bind_eq_ok.1 h
    obtain ⟨abilities, -, h⟩ := bind_eq_ok.1 h
    obtain ⟨items, -, h⟩ := bind_eq_ok.1 h
    obtain rfl := Except.ok.inj h
    unfold readMember at hp
    split at hp
    · obtain rfl := Except.ok.inj hp
      exact hdefault
    · exact isName_of_readPreset hp
  | _ => cases h

theorem readAmount_real [LawfulScalar α] {key : String} {x : α} (hx : Amount x) :
    readAmount key (.number (.real x)) = .ok x := by
  rw [readAmount, Json.amount?_eq_ok_iff.2 ⟨rfl, rfl, amount_iff.1 hx⟩]

/-- Of what is written of sound settings all is read back as it was, but for blanks around the name
of the crit table. -/
theorem ofJson_toJson [LawfulScalar α] {s : Settings α} (h : s.Sound) :
    ofJson s.toJson =
      (readPreset (.string s.critPreset)).map fun critPreset => { s with critPreset } := by
  have hmember (key : String) {v : Json α} {members : List (String × Json α)}
      (h : members.lookup key = some v) {β : Type} (absent : β)
      (reader : Json α → Except (Flaw α) β) :
      readMember (members.map fun e => ((e.1 : Text), e.2)) key absent reader = reader v := by
    rw [readMember, Json.member?_map, h]
  unfold toJson Json.record ofJson ofMembers
  dsimp only
  rw [hmember presetKey rfl, hmember critDamageKey rfl,
    hmember critChanceKey rfl, hmember abilitiesKey rfl,
    hmember itemsKey rfl, readAmount_real h.critDamage]
  obtain ⟨critPreset, critDamage, critChance, disableAbilities, disableItems⟩ := s
  cases critChance with
  | none => rfl
  | some x =>
    simp only [Option.map_some, Option.getD_some, readAmount_real (h.critChance x rfl)]
    rfl

/-- Sound settings are read back from what is written of them exactly if the name of their crit
table is one. -/
theorem ofJson_toJson_iff [LawfulScalar α] {s : Settings α} (h : s.Sound) :
    ofJson s.toJson = .ok s ↔ s.critPreset.IsName := by
  rw [ofJson_toJson h, map_eq_ok, ← readPreset_eq_self_iff (α := α)]
  constructor
  · rintro ⟨name, hname, hs⟩
    have hs : name = s.critPreset := congrArg Settings.critPreset hs
    rwa [hs] at hname
  · intro hname
    exact ⟨s.critPreset, hname, rfl⟩

end Settings

namespace Command

variable [Numeral α]

/-- An amount that is spelled on a command line. -/
def Spelled (x : α) : Prop := ∃ text, amountOf text = .ok x

theorem amount_of_spelled [LawfulScalar α] {x : α} (h : Spelled x) : Amount x := by
  obtain ⟨text, h⟩ := h
  unfold amountOf at h
  split at h
  · cases h
  · dsimp only at h
    split at h
    · rename_i hx
      obtain rfl := Except.ok.inj h
      exact amount_iff.2 hx
    · cases h

/-- A draft whose crit damage is spelled. -/
def Draft.Spelled (d : Draft α) : Prop := ∀ x ∈ d.critDamage, Command.Spelled x

theorem Draft.Spelled.set {d d' : Draft α} {key : OptionKey} {value : Text} (hd : d.Spelled)
    (h : d.set key value = .ok d') : d'.Spelled := by
  cases key with
  | critDamage =>
    unfold Draft.set at h
    dsimp only at h
    split at h
    · cases h
    · rename_i x hx
      obtain rfl := Except.ok.inj h
      rintro y hy
      obtain rfl := Option.some.inj hy
      exact ⟨value, hx⟩
  | top =>
    unfold Draft.set at h
    dsimp only at h
    split at h
    · cases h
    · obtain rfl := Except.ok.inj h
      exact hd
  | help | team | critPreset | verbose =>
    obtain rfl := Except.ok.inj h
    exact hd

theorem Draft.Spelled.unset {d : Draft α} (hd : d.Spelled) (key : OptionKey) :
    (d.unset key).Spelled := by
  cases key with
  | critDamage => exact fun x hx => by cases hx
  | _ => exact hd

theorem Draft.Spelled.take {d d' : Draft α} {key : OptionKey} {value : Option Text}
    (hd : d.Spelled) (h : d.take key value = .ok d') : d'.Spelled := by
  unfold Draft.take at h
  split at h
  · obtain rfl := Except.ok.inj h
    exact hd.unset key
  · have hfilter : Draft.Spelled { d with hollow := d.hollow.filter (· ≠ key) } := hd
    exact hfilter.set h

/-- Whatever comes on a command line, the crit damage is spelled on it. -/
theorem Draft.Spelled.run {d : Draft α} {events : List (Event OptionKey)} {r : Request α}
    (hd : d.Spelled) (h : d.run events = .request r) : ∀ x ∈ r.critDamage, Command.Spelled x := by
  induction events generalizing d with
  | nil =>
    unfold Draft.run Draft.finish at h
    split at h
    · cases h
    · split at h
      · cases h
        exact hd
      · cases h
  | cons event rest ih =>
    cases event with
    | argument text => exact ih (d := { d with path := some text }) hd h
    | extra text => exact ih (d := { d with extras := d.extras ++ [text] }) hd h
    | fault error => cases h
    | option key value =>
      rw [Draft.run] at h
      split at h
      · cases h
      · split at h
        · cases h
        · rename_i d' hd'
          exact ih (hd.take hd') h

theorem spelled_of_parse {words : List Text} {r : Request α} (h : parse words = .request r) :
    ∀ x ∈ r.critDamage, Spelled x := by
  unfold parse at h
  split at h
  · cases h
  · have hempty : Draft.Spelled ({} : Draft α) := fun x hx => by cases hx
    exact hempty.run h

/-- Settings that are read are read back from what is written of them. After the change that a
command makes they are exactly if the text that it gives for the crit table is a name, without
blanks around: in a document the blanks are taken off and a blank name is refused, on a command line
any text counts as it is. The crit damage keeps the rules of a document in any case. -/
theorem settings_survive_iff [LawfulScalar α] [LawfulWeights α] {v : Json α} {s : Settings α}
    (h : Settings.ofJson v = .ok s) :
    Settings.ofJson s.toJson = .ok s ∧
    (∀ (critPreset : Option Text) (critDamage : Option α), (∀ x ∈ critDamage, Spelled x) →
      let t := s.change { critPreset, critDamage }
      Settings.ofJson t.toJson = .ok t ↔ ∀ name ∈ critPreset, name.IsName) ∧
    ∀ (words : List Text) (r : Request α), parse words = .request r →
      ∀ x ∈ r.critDamage, Spelled x := by
  have hsound := Settings.sound_of_ofJson h
  have hname := Settings.isName_of_ofJson h
  refine ⟨(Settings.ofJson_toJson_iff hsound).2 hname, fun critPreset critDamage hd => ?_,
    fun words r hr => spelled_of_parse hr⟩
  have hchanged : (s.change { critPreset, critDamage }).Sound := by
    refine ⟨?_, hsound.critChance⟩
    cases critDamage with
    | none => exact hsound.critDamage
    | some x => exact amount_of_spelled (hd x rfl)
  refine (Settings.ofJson_toJson_iff hchanged).trans ?_
  cases critPreset with
  | none => exact iff_of_true hname (by simp)
  | some name => simp [Settings.change]

/-- A command line that names a crit table and a crit damage. -/
def namedWords : List Text := ["game.json", "--crit-preset", "gen6", "--crit-damage", "2"]

def namedRequest : Request Float := ⟨"game.json", false, none, some "gen6", some 2, false, []⟩

theorem parse_namedWords : parse (α := Float) namedWords = .request namedRequest := by
  decide +kernel

theorem settings_survive_named :
    Settings.ofJson (α := Float) (.object []) = .ok .default ∧
      parse namedWords = .request namedRequest ∧
      let t := Settings.default.change namedRequest.settingsChange
      Settings.ofJson t.toJson = .ok t := by
  have hread : Settings.ofJson (α := Float) (.object []) = .ok .default := rfl
  obtain ⟨-, hchange, hspelled⟩ := settings_survive_iff hread
  refine ⟨hread, parse_namedWords, ?_⟩
  refine (hchange _ _ (hspelled namedWords namedRequest parse_namedWords)).2 fun name hn => ?_
  obtain rfl := Option.some.inj hn
  exact ⟨by decide +kernel, by decide⟩

/-- A command line that names a crit table with blanks around. -/
def paddedWords : List Text := ["game.json", "--crit-preset", " gen6 "]

def paddedRequest : Request Float := ⟨"game.json", false, none, some " gen6 ", none, false, []⟩

/-- What a document would say of its settings names a known table. They name none. -/
theorem padded_preset_is_lost :
    Settings.ofJson (α := Float) (.object []) = .ok .default ∧
      parse paddedWords = .request paddedRequest ∧
      let t := Settings.default.change paddedRequest.settingsChange
      Settings.ofJson t.toJson = .ok { t with critPreset := "gen6" } ∧
        Settings.ofJson t.toJson ≠ .ok t ∧
        Crit.isKnownPreset "gen6" = true ∧ Crit.isKnownPreset t.critPreset = false := by
  refine ⟨rfl, by decide +kernel, ?_⟩
  intro t
  have hread : Settings.ofJson t.toJson = .ok { t with critPreset := "gen6" } :=
    toOption_eq_some.1 (by decide +kernel)
  refine ⟨hread, fun h => ?_, by decide, by decide⟩
  rw [hread] at h
  have hnames : Text.ofString "gen6" = " gen6 " := congrArg Settings.critPreset (Except.ok.inj h)
  revert hnames
  decide

end Command

end Roster
