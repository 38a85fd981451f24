import Mathlib.Tactic.SplitIfs
import Roster.Tag.Kind

/-!
# The grammar of tags

The forms of a tag's parts, with the effect of each: the reader of tags takes just these. Two forms
have no kind of their own that they could be built as: the head of a crit tag in another case, and
wonder guard as a special.
-/

namespace Roster

/-- The kind of tag that an effect comes from. -/
def Effect.kind {α : Type} : Effect α → Tag.Kind
  | .stat .. => .stat
  | .statIfType .. => .statIfType
  | .physicalBulk _ => .physicalBulk
  | .specialBulk _ => .specialBulk
  | .defense _ => .defense
  | .offense _ => .offense
  | .offenseIfType .. => .offenseIfType
  | .incoming (.relation r _) => .relation r
  | .incoming (.factor ..) => .incomingFactor
  | .flag f => .flag f
  | .crit kind _ => .crit kind
  | .note (.evolution way) => .evolution way
  | .note (.species _) => .species

theorem Relation.ofKeyword?_eq_some_iff {s : Text} {r : Relation} :
    ofKeyword? s = some r ↔ s = r.keyword := by
  constructor
  · intro h
    unfold ofKeyword? at h
    split_ifs at h with hs hs hs <;> exact Option.some.inj h ▸ hs
  · rintro rfl
    cases r <;> rfl

theorem Flag.ofKeyword?_eq_some_iff {s : Text} {f : Flag} :
    ofKeyword? s = some f ↔ s = f.keyword := by
  constructor
  · intro h
    unfold ofKeyword? at h
    split_ifs at h with hs hs <;> exact Option.some.inj h ▸ hs
  · rintro rfl
    cases f <;> rfl

theorem Evolution.ofKeyword?_eq_some_iff {s : Text} {way : Evolution} :
    ofKeyword? s = some way ↔ s = way.keyword := by
  constructor
  · intro h
    unfold ofKeyword? at h
    split_ifs at h with hs hs <;> exact Option.some.inj h ▸ hs
  · rintro rfl
    cases way <;> rfl

namespace Tag

variable {α : Type} [Numeral α]

/-- The parts of a tag, and their effect. -/
inductive Reads : List Text → Effect α → Prop
  | stat {name payload : Text} {stat : Stat} {f : α} :
    Stat.ofText? name = some stat → factor? payload = some f →
    Reads ["mult", name, payload] (.stat stat f)
  | physicalBulk {payload : Text} {f : α} :
    factor? payload = some f → Reads ["mult", "defeff", payload] (.physicalBulk f)
  | specialBulk {payload : Text} {f : α} :
    factor? payload = some f → Reads ["mult", "spdeff", payload] (.specialBulk f)
  | defense {payload : Text} {f : α} :
    factor? payload = some f → Reads ["mult", "defense", payload] (.defense f)
  | offense {payload : Text} {f : α} :
    factor? payload = some f → Reads ["mult", "off", payload] (.offense f)
  | offenseIfType {type name payload : Text} {f : α} :
    typeName? type = some name → factor? payload = some f →
    Reads ["mult", "off_type", type, payload] (.offenseIfType name f)
  | incomingFactor {type name payload : Text} {f : α} :
    typeName? type = some name → factor? payload = some f →
    Reads ["mult", "in_type", type, payload] (.incoming (.factor name f))
  | statIfType {key type name payload : Text} {stat : Stat} {f : α} :
    Stat.ofText? key = some stat → typeName? type = some name → factor? payload = some f →
    Reads ["mult", "stat_if_type", key, type, payload] (.statIfType stat name f)
  | crit {head key payload : Text} {kind : CritKind} {x : α} :
    Text.lower head = "crit" → CritKind.ofKeyword? (Text.lower (Text.trim key)) = some kind →
    critValue? kind payload = some x → Reads [head, key, payload] (.crit kind x)
  | relation (r : Relation) {type name : Text} :
    typeName? type = some name → Reads [r.keyword, type] (.incoming (.relation r name))
  | flag (f : Flag) : Reads ["flag", f.keyword] (.flag f)
  | wonderGuard : Reads ["special", "wonder_guard"] (.flag .wonderGuard)
  | evolution (way : Evolution) : Reads ["evolution", way.keyword] (.note (.evolution way))
  | species {name : Text} :
    Text.trim name ≠ "" → Reads ["species", name] (.note (.species (Text.trim name)))

theorem reads_of_multiplier? {target payload : Text} {f : α} {e : Effect α}
    (hf : factor? payload = some f) (h : multiplier? target f = some e) :
    Reads ["mult", target, payload] e := by
  unfold multiplier? at h
  split at h
  · rename_i stat hstat
    exact Option.some.inj h ▸ .stat hstat hf
  · split_ifs at h with htarget htarget htarget htarget
    · exact Option.some.inj h ▸ htarget ▸ .physicalBulk hf
    · exact Option.some.inj h ▸ htarget ▸ .specialBulk hf
    · exact Option.some.inj h ▸ htarget ▸ .defense hf
    · exact Option.some.inj h ▸ htarget ▸ .offense hf

theorem reads_of_mult? {parts : List Text} {e : Effect α} (h : mult? parts = some e) :
    Reads ("mult" :: parts) e := by
  unfold mult? at h
  split at h
  · obtain ⟨f, hf, h⟩ := Option.bind_eq_some_iff.1 h
    exact reads_of_multiplier? hf h
  · split_ifs at h with htarget htarget
    · obtain ⟨name, hname, h⟩ := Option.bind_eq_some_iff.1 h
      obtain ⟨f, hf, h⟩ := Option.bind_eq_some_iff.1 h
      exact Option.some.inj h ▸ htarget ▸ .offenseIfType hname hf
    · obtain ⟨name, hname, h⟩ := Option.bind_eq_some_iff.1 h
      obtain ⟨f, hf, h⟩ := Option.bind_eq_some_iff.1 h
      exact Option.some.inj h ▸ htarget ▸ .incomingFactor hname hf
  · split_ifs at h with htarget
    obtain ⟨stat, hstat, h⟩ := Option.bind_eq_some_iff.1 h
    obtain ⟨name, hname, h⟩ := Option.bind_eq_some_iff.1 h
    obtain ⟨f, hf, h⟩ := Option.bind_eq_some_iff.1 h
    exact Option.some.inj h ▸ htarget ▸ .statIfType hstat hname hf
  · cases h

theorem reads_of_crit? {head : Text} {parts : List Text} {e : Effect α}
    (hhead : Text.lower head = "crit") (h : crit? parts = some e) : Reads (head :: parts) e := by
  unfold crit? at h
  split at h
  · obtain ⟨kind, hkind, h⟩ := Option.bind_eq_some_iff.1 h
    obtain ⟨x, hx, h⟩ := Option.bind_eq_some_iff.1 h
    exact Option.some.inj h ▸ .crit hhead hkind hx
  · cases h

theorem reads_of_single? {keyword payload : Text} {e : Effect α}
    (h : single? keyword payload = some e) : Reads [keyword, payload] e := by
  unfold single? at h
  split at h
  · rename_i r hr
    obtain ⟨name, hname, rfl⟩ := Option.map_eq_some_iff.1 h
    exact Relation.ofKeyword?_eq_some_iff.1 hr ▸ .relation r hname
  · split_ifs at h with hkeyword hkeyword hpayload hkeyword hkeyword
    · obtain ⟨f, hf, rfl⟩ := Option.map_eq_some_iff.1 h
      exact hkeyword ▸ Flag.ofKeyword?_eq_some_iff.1 hf ▸ .flag f
    · exact Option.some.inj h ▸ hkeyword ▸ hpayload ▸ .wonderGuard
    · obtain ⟨way, hway, rfl⟩ := Option.map_eq_some_iff.1 h
      exact hkeyword ▸ Evolution.ofKeyword?_eq_some_iff.1 hway ▸ .evolution way
    · obtain ⟨hname, h⟩ := Option.ite_none_left_eq_some.1 h
      exact Option.some.inj h ▸ hkeyword ▸ .species hname

theorem typeName?_eq_some_iff {s name : Text} :
    typeName? s = some name ↔ TypeName.normal s ≠ "" ∧ TypeName.normal s = name :=
  Option.ite_none_left_eq_some.trans (and_congr_right fun _ => Option.some_inj)

theorem ofParts?_mult (parts : List Text) : ofParts? (α := α) ("mult" :: parts) = mult? parts := by
  unfold ofParts?
  dsimp only
  rw [if_neg (by decide), if_pos rfl]

theorem parse_of_split {tag : Text} {parts : List Text}
    (h : Text.split ':' (Text.trim tag) = ("mult" : Text) :: parts) :
    parse (α := α) tag = mult? parts := by
  rw [parse, h, ofParts?_mult]

theorem ofParts?_relation (r : Relation) (type : Text) :
    ofParts? (α := α) [r.keyword, type] =
      (typeName? type).map fun name => .incoming (.relation r name) := by
  cases r <;> rfl

/-- The reader of tags takes the forms of the grammar, and no other parts. -/
theorem ofParts?_eq_some_iff {parts : List Text} {e : Effect α} :
    ofParts? parts = some e ↔ Reads parts e := by
  constructor
  · intro h
    unfold ofParts? at h
    split at h
    · cases h
    · split_ifs at h with hhead hhead
      · exact reads_of_crit? hhead h
      · exact hhead ▸ reads_of_mult? h
      · split at h
        · exact reads_of_single? h
        · cases h
  · intro h
    cases h with
    | stat hstat hf =>
      rw [ofParts?_mult, mult?, hf]
      change multiplier? _ _ = _
      rw [multiplier?, hstat]
    | physicalBulk hf | specialBulk hf | defense hf | offense hf =>
      rw [ofParts?_mult, mult?, hf]
      rfl
    | offenseIfType hname hf | incomingFactor hname hf =>
      rw [ofParts?_mult, mult?, hname, hf]
      rfl
    | statIfType hstat hname hf =>
      rw [ofParts?_mult, mult?, if_pos rfl, hstat, hname, hf]
      rfl
    | crit hhead hkind hx =>
      unfold ofParts?
      dsimp only
      rw [if_pos hhead, crit?, hkind]
      change (critValue? _ _).bind _ = _
      rw [hx]
      rfl
    | relation r hname =>
      rw [ofParts?_relation, hname]
      rfl
    | flag f => cases f <;> rfl
    | wonderGuard => rfl
    | evolution way => cases way <;> rfl
    | species hname => exact if_neg hname

theorem reads_of_parse {tag : Text} {e : Effect α} (h : parse tag = some e) :
    Reads (Text.split ':' (Text.trim tag)) e :=
  ofParts?_eq_some_iff.1 h

end Tag

end Roster
