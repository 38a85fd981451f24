import Roster.Proofs.Double.Laws
import Roster.Proofs.Tag.Grammar
import Roster.Proofs.Tag.Parts
import Roster.Proofs.Text.Colon

/-!
# Built tags are read back

A tag that is built from parts is read as an effect of its kind with these parts in it, unless a
part does not fit: a stat must be one of the known names, the names of types and species must not
hold a colon, and a value must spell a number. What does not fit may be read as an effect of another
kind.
-/

namespace Roster

namespace Text

section Lists

variable {β : Type} [DecidableEq β]

/-- Every occurrence of the separator makes one part more. -/
theorem length_splitAt (sep : β) (s : List β) : (splitAt sep s).length = s.count sep + 1 := by
  induction s with
  | nil => rfl
  | cons c rest ih =>
    unfold splitAt
    split
    · rename_i h
      rw [List.length_cons, ih, h, List.count_cons_self]
    · rename_i h
      rw [List.count_cons_of_ne h, ← ih]
      cases hs : splitAt sep rest with
      | nil => exact absurd hs (splitAt_ne_nil sep rest)
      | cons part parts => rfl

theorem count_joinWith {sep : β} {parts : List (List β)} (hne : parts ≠ []) :
    (joinWith sep parts).count sep + 1 = parts.length + (parts.map (List.count sep)).sum := by
  induction parts with
  | nil => exact absurd rfl hne
  | cons part parts ih =>
    cases parts with
    | nil => simp [joinWith, Nat.add_comm]
    | cons next parts =>
      rw [joinWith, List.count_append, List.count_cons_self, List.length_cons, List.map_cons,
        List.sum_cons, ih (List.cons_ne_nil _ _)]
      · omega
      · exact List.cons_ne_nil _ _

/-- Joined parts that are not cut into more parts hold no separator. -/
theorem notMem_of_length_splitAt {sep : β} {parts : List (List β)} (hne : parts ≠ [])
    (h : (splitAt sep (joinWith sep parts)).length = parts.length) :
    ∀ part ∈ parts, sep ∉ part := by
  rw [length_splitAt, count_joinWith hne, Nat.add_eq_left] at h
  have hcount := List.forall_mem_map.1 (List.sum_eq_zero_iff_forall_eq_nat.1 h)
  exact fun part hpart => List.count_eq_zero.1 (hcount part hpart)

omit [DecidableEq β] in
theorem trimEndBy_drop {p : β → Bool} {s : List β} (h : trimEndBy p s = s) (n : Nat) :
    trimEndBy p (s.drop n) = s.drop n := by
  refine List.rdropWhile_eq_self_iff.2 fun hne => ?_
  rw [List.getLast_drop]
  exact List.rdropWhile_eq_self_iff.1 h _

end Lists

/-- Lower case leaves something of every character. -/
theorem lowered_ne_nil {s : List CodePoint} (h : s ≠ []) : lowered s ≠ [] := by
  have hchar (c : Char) : lowerChar c ≠ [] := by
    have hsequences : ∀ e ∈ lowerSequences, e.2.map Char.ofNat ≠ [] := by decide
    unfold lowerChar casingOf
    split
    · exact List.cons_ne_nil _ _
    · split
      · rename_i image himage
        obtain ⟨before, after, heq, -⟩ := List.lookup_eq_some_iff.1 himage
        exact hsequences (c.toNat, image) (by rw [heq]; simp)
      · split <;> exact List.cons_ne_nil _ _
  cases s with
  | nil => exact absurd rfl h
  | cons c rest =>
    unfold lowered
    cases c with
    | half index => exact List.cons_ne_nil _ _
    | char c =>
      rw [lowerAfter]
      refine List.append_ne_nil_of_left_ne_nil (mt List.map_eq_nil_iff.1 ?_) _
      unfold lowerWithin
      split
      · exact List.cons_ne_nil _ _
      · exact hchar c

end Text

theorem TypeName.normal_ne_empty {name : Text} (h : Text.trim name ≠ "") : normal name ≠ "" := by
  intro hnormal
  have hne : (Text.trim name).toList ≠ [] := fun he => h (Text.ext_toList he)
  exact Text.lowered_ne_nil hne (congrArg Text.toList hnormal)

namespace Stat

/-- The names of stats in tags. -/
def names : List Text := ["hp", "atk", "def", "spa", "spd", "spe", "speed"]

theorem exists_ofText?_iff {s : Text} :
    (∃ stat, ofText? s = some stat) ↔ Text.lower (Text.trim s) ∈ names := by
  rw [← Option.isSome_iff_exists]
  unfold ofText?
  dsimp only
  split_ifs with h
  · simp [h, names]
  · rw [ofKey?, List.find?_isSome]
    simp [all, key, names, h, eq_comm]

theorem ofText?_trim (s : Text) : ofText? (Text.trim s) = ofText? s := by
  rw [ofText?, ofText?, Tag.trim_trim]

end Stat

namespace Tag

open Text

theorem notMem_of_length_split_joined {parts : List Text} (hne : parts ≠ [])
    (h : (split ':' (joined parts)).length = parts.length) :
    ∀ part ∈ parts, .char ':' ∉ part.toList := by
  have hlength : (parts.map toList).length = parts.length := List.length_map _
  rw [split, joined, List.length_map, ← hlength] at h
  exact fun part hpart =>
    notMem_of_length_splitAt (by simpa using hne) h _ (List.mem_map.2 ⟨part, hpart, rfl⟩)

theorem trimEnd_trim (s : Text) : trimEnd (trim s) = trim s :=
  ext_toList (List.rdropWhile_idempotent _ _)

theorem trimEnd_dropMark (marks : List Text) {s : Text} (h : trimEnd s = s) :
    trimEnd (dropMark marks s) = dropMark marks s := by
  induction marks with
  | nil => exact h
  | cons mark marks ih =>
    unfold dropMark
    split
    · exact ext_toList (trimEndBy_drop (congrArg toList h) _)
    · exact ih

/-- Marks without colons take none away. -/
theorem colon_mem_dropMark_iff {marks : List Text}
    (hmarks : ∀ mark ∈ marks, .char ':' ∉ mark.toList) (s : Text) :
    .char ':' ∈ (dropMark marks s).toList ↔ .char ':' ∈ s.toList := by
  induction marks with
  | nil => rfl
  | cons mark marks ih =>
    obtain ⟨hmark, hmarks⟩ := List.forall_mem_cons.1 hmarks
    unfold dropMark
    split
    · rename_i hfront
      obtain ⟨rest, hrest⟩ := List.isPrefixOf_iff_prefix.1 hfront
      rw [← hrest, Text.length, List.drop_left, List.mem_append, or_iff_right hmark]
    · exact ih hmarks

theorem colon_mem_dropMark_critMarks_iff (kind : CritKind) (s : Text) :
    .char ':' ∈ (dropMark (critMarks kind) s).toList ↔ .char ':' ∈ s.toList :=
  colon_mem_dropMark_iff (by cases kind <;> decide) s

theorem colon_mem_trim_iff (s : Text) : .char ':' ∈ (trim s).toList ↔ .char ':' ∈ s.toList :=
  mem_trimBy_iff (by decide) _

variable {α : Type} [Numeral α]

theorem number?_trim (s : Text) : number? (α := α) (trim s) = number? s := by
  rw [number?, number?, trim_trim]

theorem factor?_trim (s : Text) : factor? (α := α) (trim s) = factor? s := by
  rw [factor?, factor?, number?_trim]

theorem colon_notMem_of_number? {s : Text} {x : α} (h : number? s = some x) :
    .char ':' ∉ s.toList := by
  unfold number? at h
  split at h
  · cases h
  · rename_i l hl
    rw [← colon_mem_trim_iff]
    exact Decimal.colon_notMem_of_ofText? hl

namespace Kind

/-! ### Parts that fit -/

/-- What of a value is read as a number: for crit tags what stands behind one mark. -/
def payload : Kind → Text → Text
  | .crit kind, value => dropMark (critMarks kind) (trim value)
  | _, value => value

/-- Whether the number may be negative. -/
def signed : Kind → Bool
  | .crit .chance | .crit .stage => true
  | _ => false

/-- Parts from which a tag of a kind is built that is read back. -/
structure Fits (α : Type) [Numeral α] (kind : Kind) (p : Parts) : Prop where
  stat : .stat ∈ kind.needs → lower (trim p.stat) ∈ Stat.names
  type : .type ∈ kind.needs → .char ':' ∉ p.type.toList
  species : .species ∈ kind.needs → .char ':' ∉ p.species.toList
  value : .value ∈ kind.needs →
    ∃ x : α, number? (kind.payload p.value) = some x ∧ (kind.signed = false → 0 ≤ x)

/-- An effect of a kind that carries the parts which the kind needs. -/
inductive Carries (p : Parts) : Kind → Effect α → Prop
  | stat {stat : Stat} {x : α} :
    Stat.ofText? p.stat = some stat → number? p.value = some x →
    Carries p .stat (.stat stat x)
  | physicalBulk {x : α} : number? p.value = some x → Carries p .physicalBulk (.physicalBulk x)
  | specialBulk {x : α} : number? p.value = some x → Carries p .specialBulk (.specialBulk x)
  | offense {x : α} : number? p.value = some x → Carries p .offense (.offense x)
  | defense {x : α} : number? p.value = some x → Carries p .defense (.defense x)
  | offenseIfType {x : α} :
    number? p.value = some x →
    Carries p .offenseIfType (.offenseIfType (TypeName.normal p.type) x)
  | incomingFactor {x : α} :
    number? p.value = some x →
    Carries p .incomingFactor (.incoming (.factor (TypeName.normal p.type) x))
  | statIfType {stat : Stat} {x : α} :
    Stat.ofText? p.stat = some stat → number? p.value = some x →
    Carries p .statIfType (.statIfType stat (TypeName.normal p.type) x)
  | relation (r : Relation) :
    Carries p (.relation r) (.incoming (.relation r (TypeName.normal p.type)))
  | evolution (way : Evolution) : Carries p (.evolution way) (.note (.evolution way))
  | species : Carries p .species (.note (.species (trim p.species)))
  | crit {kind : CritKind} {x : α} :
    number? (dropMark (critMarks kind) (trim p.value)) = some x →
    Carries p (.crit kind) (.crit kind x)
  | flag (f : Flag) : Carries p (.flag f) (.flag f)

theorem Carries.kind_eq {kind : Kind} {p : Parts} {e : Effect α}
    (h : kind.Carries p e) : e.kind = kind := by
  cases h <;> rfl

/-! ### Words -/

/-- The keywords and parts of which a tag of a kind is made. -/
def layout : Kind → List (String ⊕ Part)
  | .stat => [.inl "mult", .inr .stat, .inr .value]
  | .physicalBulk => [.inl "mult", .inl "defeff", .inr .value]
  | .specialBulk => [.inl "mult", .inl "spdeff", .inr .value]
  | .offense => [.inl "mult", .inl "off", .inr .value]
  | .defense => [.inl "mult", .inl "defense", .inr .value]
  | .offenseIfType => [.inl "mult", .inl "off_type", .inr .type, .inr .value]
  | .incomingFactor => [.inl "mult", .inl "in_type", .inr .type, .inr .value]
  | .statIfType => [.inl "mult", .inl "stat_if_type", .inr .stat, .inr .type, .inr .value]
  | .relation r => [.inl r.keyword, .inr .type]
  | .evolution way => [.inl "evolution", .inl way.keyword]
  | .species => [.inl "species", .inr .species]
  | .crit kind => [.inl "crit", .inl kind.keyword, .inr .value]
  | .flag f => [.inl "flag", .inl f.keyword]

/-- How a part is written in a tag: the value of a crit tag has one mark, others stand as they
are. -/
def write (p : Parts) (part : Part) : Kind → Text
  | .crit kind =>
    if part = .value then critMark kind ++ dropMark (critMarks kind) p.value else p.get part
  | _ => p.get part

/-- The words between the colons of a built tag. -/
def words (p : Parts) (kind : Kind) : List Text :=
  kind.layout.map (Sum.elim ofString (kind.write p))

theorem spell_eq_joined (kind : Kind) (p : Parts) : kind.spell p = joined (kind.words p) := by
  refine ext_toList ?_
  cases kind <;> simp [spell, words, layout, write, Parts.get, joined, joinWith, ofString, ofChars]

theorem trimEnd_critMark {value : Text} (h : trimEnd value = value) (kind : CritKind) :
    trimEnd (critMark kind ++ dropMark (critMarks kind) value) =
      critMark kind ++ dropMark (critMarks kind) value := by
  obtain ⟨c, hmark, hc⟩ :
      ∃ c, (critMark kind : Text).toList = [c] ∧ c.satisfies isBlank = false := by
    cases kind <;> exact ⟨_, rfl, by decide⟩
  refine ext_toList ?_
  rw [trimEnd, toList_append, hmark]
  exact (trimEndBy_append_cons [] _ hc).trans
    (congrArg (c :: ·) (congrArg toList (trimEnd_dropMark (critMarks kind) h)))

theorem inr_mem_layout_iff {kind : Kind} {part : Part} :
    .inr part ∈ kind.layout ↔ part ∈ kind.needs := by
  cases kind <;> cases part <;> simp [layout, needs]

/-- A keyword holds no colon, and no blank stands behind it. -/
theorem keyword_of_inl_mem_layout {kind : Kind} {keyword : String}
    (h : .inl keyword ∈ kind.layout) :
    .char ':' ∉ (keyword : Text).toList ∧ trimEnd keyword = keyword := by
  have hall : ∀ kind ∈ all, ∀ keyword ∈ kind.layout.filterMap Sum.getLeft?,
      .char ':' ∉ (keyword : Text).toList ∧ trimEnd keyword = keyword := by
    decide
  exact hall kind kind.mem_all keyword (List.mem_filterMap.2 ⟨_, h, rfl⟩)

theorem write_of_ne {part : Part} (h : part ≠ .value) (kind : Kind) (p : Parts) :
    kind.write p part = p.get part := by
  cases kind with
  | crit kind => exact if_neg h
  | _ => rfl

theorem colon_mem_write_iff (kind : Kind) (p : Parts) (part : Part) :
    .char ':' ∈ (kind.write p part).toList ↔ .char ':' ∈ (p.get part).toList := by
  by_cases hvalue : part = .value
  · subst hvalue
    cases kind with
    | crit kind =>
      have hmark : .char ':' ∉ (critMark kind : Text).toList := by cases kind <;> decide
      rw [write, if_pos rfl, toList_append, List.mem_append, or_iff_right hmark,
        colon_mem_dropMark_critMarks_iff]
      rfl
    | _ => rfl
  · rw [write_of_ne hvalue]

theorem trimEnd_write (kind : Kind) (p : Parts) (part : Part) :
    trimEnd (kind.write p.trim part) = kind.write p.trim part := by
  have hget : trimEnd (p.trim.get part) = p.trim.get part := by
    cases part <;> exact trimEnd_trim _
  cases kind with
  | crit kind =>
    unfold write
    dsimp only
    split
    · exact trimEnd_critMark (trimEnd_trim _) kind
    · exact hget
  | _ => exact hget

theorem get_mem_words {kind : Kind} {part : Part} (h : part ∈ kind.needs) (hvalue : part ≠ .value)
    (p : Parts) : p.get part ∈ kind.words p :=
  List.mem_map.2 ⟨_, inr_mem_layout_iff.2 h, write_of_ne hvalue kind p⟩

/-- A colon in a word comes from a part. -/
theorem exists_colon_of_mem_words {kind : Kind} {p : Parts} {word : Text}
    (h : word ∈ kind.words p) (hcolon : .char ':' ∈ word.toList) :
    ∃ part ∈ kind.needs, .char ':' ∈ (p.get part).toList := by
  obtain ⟨keyword | part, hmem, rfl⟩ := List.mem_map.1 h
  · exact absurd hcolon (keyword_of_inl_mem_layout hmem).1
  · exact ⟨part, inr_mem_layout_iff.1 hmem, (colon_mem_write_iff kind p part).1 hcolon⟩

theorem trimEnd_of_mem_words {kind : Kind} {p : Parts} {word : Text}
    (h : word ∈ kind.words p.trim) : trimEnd word = word := by
  obtain ⟨keyword | part, hmem, rfl⟩ := List.mem_map.1 h
  · exact (keyword_of_inl_mem_layout hmem).2
  · exact trimEnd_write kind p part

/-- A keyword stands at the front of a built tag. -/
theorem exists_words (kind : Kind) (p : Parts) :
    ∃ (keyword : Text) (c : CodePoint) (cs : List CodePoint) (middle : List Text) (last : Text),
      kind.words p = keyword :: middle ++ [last] ∧ keyword.toList = c :: cs ∧
        c.satisfies isBlank = false := by
  cases kind with
  | stat | physicalBulk | specialBulk | offense | defense | crit =>
    exact ⟨_, _, _, [_], _, rfl, rfl, by decide⟩
  | offenseIfType | incomingFactor => exact ⟨_, _, _, [_, _], _, rfl, rfl, by decide⟩
  | statIfType => exact ⟨_, _, _, [_, _, _], _, rfl, rfl, by decide⟩
  | relation r => cases r <;> exact ⟨_, _, _, [], _, rfl, rfl, by decide⟩
  | evolution | species | flag => exact ⟨_, _, _, [], _, rfl, rfl, by decide⟩

/-- No blanks stand around a built tag. -/
theorem trim_spell (kind : Kind) (p : Parts) : trim (kind.spell p.trim) = kind.spell p.trim := by
  obtain ⟨keyword, c, cs, middle, last, hwords, hkeyword, hc⟩ := kind.exists_words p.trim
  have hlast : last ∈ kind.words p.trim := hwords ▸ List.mem_append_right _ List.mem_cons_self
  rw [spell_eq_joined, hwords, trim_joined hkeyword hc, trimEnd_of_mem_words hlast]

theorem words_ne_nil (kind : Kind) (p : Parts) : kind.words p ≠ [] := by
  cases kind <;> exact List.cons_ne_nil _ _

theorem build_eq_some_iff {kind : Kind} {p : Parts} {tag : Text} :
    kind.build p = some tag ↔
      (∀ part ∈ kind.needs, p.trim.get part ≠ "") ∧ kind.spell p.trim = tag := by
  unfold build
  dsimp only
  rw [Option.ite_none_left_eq_some, Option.some_inj, Bool.not_eq_true, List.any_eq_false]
  simp only [decide_eq_true_eq]

theorem parse_spell (kind : Kind) (p : Parts) :
    parse (α := α) (kind.spell p.trim) = ofParts? (split ':' (joined (kind.words p.trim))) := by
  rw [parse, trim_spell, spell_eq_joined]

theorem critValue?_critMark {value : Text} (h : trimEnd value = value) (kind : CritKind) :
    critValue? (α := α) kind (critMark kind ++ dropMark (critMarks kind) value) =
      match kind with
      | .damage => factor? (dropMark (critMarks kind) value)
      | _ => number? (dropMark (critMarks kind) value) := by
  have hdrop (rest : Text) : dropMark (critMarks kind) (critMark kind ++ rest) = rest := by
    cases kind <;> rfl
  have htrim : trim (critMark kind ++ dropMark (critMarks kind) value) =
      critMark kind ++ dropMark (critMarks kind) value := by
    refine Eq.trans ?_ (trimEnd_critMark h kind)
    cases kind <;> exact ext_toList (trimBy_cons _ (by decide))
  unfold critValue?
  cases kind with
  | damage | chance | stage =>
    dsimp only
    rw [htrim, hdrop]

theorem number?_of_factor? {s : Text} {x : α} (h : factor? s = some x) : number? s = some x := by
  obtain ⟨y, hy, hxy⟩ := Option.bind_eq_some_iff.1 h
  obtain ⟨-, hxy⟩ := Option.ite_none_left_eq_some.1 hxy
  exact Option.some.inj hxy ▸ hy

theorem number?_of_factor?_trim {s : Text} {x : α} (h : factor? (trim s) = some x) :
    number? s = some x := by
  have hx := number?_of_factor? h
  rwa [number?_trim] at hx

theorem normal_of_typeName?_trim {s name : Text} (h : typeName? (trim s) = some name) :
    name = TypeName.normal s := by
  rw [← (typeName?_eq_some_iff.1 h).2, TypeName.normal, TypeName.normal, trim_trim]

theorem typeName?_trim_of_ne {s : Text} (h : trim s ≠ "") :
    typeName? (trim s) = some (TypeName.normal s) := by
  have hnormal : TypeName.normal (trim s) = TypeName.normal s := by
    rw [TypeName.normal, TypeName.normal, trim_trim]
  exact typeName?_eq_some_iff.2 ⟨hnormal ▸ TypeName.normal_ne_empty h, hnormal⟩

theorem length_of_reads {parts : List Text} {e : Effect α} (h : Reads parts e) (p : Parts) :
    parts.length = (e.kind.words p).length := by
  cases h <;> rfl

/-- What is read in the words that a kind has for parts carries these parts. -/
theorem carries_of_reads {p : Parts} {parts : List Text} {e : Effect α} (h : Reads parts e)
    (hparts : e.kind.words p.trim = parts) : e.kind.Carries p e := by
  -- The kind of the effect says how long the words are, so that they are the parts one by one.
  have hvalue {keyword target payload : Text} {f : α} (hf : factor? payload = some f)
      (h : [keyword, target, trim p.value] = [keyword, target, payload]) :
      number? p.value = some f := by
    obtain ⟨-, -, rfl, -⟩ : _ ∧ _ := by simpa only [List.cons.injEq] using h
    exact number?_of_factor?_trim hf
  have htyped {keyword target type name payload : Text} {f : α}
      (hname : typeName? type = some name) (hf : factor? payload = some f)
      (h : [keyword, target, trim p.type, trim p.value] = [keyword, target, type, payload]) :
      name = TypeName.normal p.type ∧ number? p.value = some f := by
    obtain ⟨-, -, rfl, rfl, -⟩ : _ ∧ _ := by simpa only [List.cons.injEq] using h
    exact ⟨normal_of_typeName?_trim hname, number?_of_factor?_trim hf⟩
  cases h with
  | stat hstat hf =>
    change [_, trim p.stat, trim p.value] = _ at hparts
    obtain ⟨-, rfl, rfl, -⟩ : _ ∧ _ := by simpa only [List.cons.injEq] using hparts
    exact .stat (Stat.ofText?_trim p.stat ▸ hstat) (number?_of_factor?_trim hf)
  | physicalBulk hf => exact .physicalBulk (hvalue hf hparts)
  | specialBulk hf => exact .specialBulk (hvalue hf hparts)
  | defense hf => exact .defense (hvalue hf hparts)
  | offense hf => exact .offense (hvalue hf hparts)
  | offenseIfType hname hf =>
    obtain ⟨rfl, hx⟩ := htyped hname hf hparts
    exact .offenseIfType hx
  | incomingFactor hname hf =>
    obtain ⟨rfl, hx⟩ := htyped hname hf hparts
    exact .incomingFactor hx
  | statIfType hstat hname hf =>
    change [_, _, trim p.stat, trim p.type, trim p.value] = _ at hparts
    obtain ⟨-, -, rfl, rfl, rfl, -⟩ : _ ∧ _ := by simpa only [List.cons.injEq] using hparts
    obtain rfl := normal_of_typeName?_trim hname
    exact .statIfType (Stat.ofText?_trim p.stat ▸ hstat) (number?_of_factor?_trim hf)
  | @crit head key payload kind x hhead hkind hx =>
    change [_, _, critMark kind ++ dropMark (critMarks kind) (trim p.value)] = _ at hparts
    obtain ⟨-, -, rfl, -⟩ : _ ∧ _ := by simpa only [List.cons.injEq] using hparts
    rw [critValue?_critMark (trimEnd_trim _)] at hx
    cases kind with
    | damage => exact .crit (number?_of_factor? hx)
    | chance | stage => exact .crit hx
  | relation r hname =>
    change [_, trim p.type] = _ at hparts
    obtain ⟨-, rfl, -⟩ : _ ∧ _ := by simpa only [List.cons.injEq] using hparts
    obtain rfl := normal_of_typeName?_trim hname
    exact .relation r
  | flag f => exact .flag f
  | wonderGuard => exact .flag _
  | evolution way => exact .evolution way
  | species _ =>
    change [_, trim p.species] = _ at hparts
    obtain ⟨-, rfl, -⟩ : _ ∧ _ := by simpa only [List.cons.injEq] using hparts
    rw [trim_trim]
    exact .species

section Order

variable [LawfulOrder α]

theorem factor?_eq_some_iff {s : Text} {x : α} :
    factor? s = some x ↔ number? s = some x ∧ 0 ≤ x := by
  constructor
  · exact fun h => ⟨number?_of_factor? h, (amount_of_factor? h).nonneg⟩
  · rintro ⟨hx, hpos⟩
    rw [factor?, hx]
    exact if_neg (Scalar.not_lt_of_le hpos)

theorem factor?_trim_of_amount {s : Text} {x : α} (hx : number? s = some x)
    (h : Scalar.Amount x) : factor? (trim s) = some x := by
  rw [factor?_trim]
  exact factor?_eq_some_iff.2 ⟨hx, h.nonneg⟩

/-- What carries parts that are not blank is read in the words for these parts. -/
theorem Carries.reads {kind : Kind} {p : Parts} {e : Effect α} (h : kind.Carries p e)
    (hsound : e.Sound) (hneeds : ∀ part ∈ kind.needs, p.trim.get part ≠ "") :
    Reads (kind.words p.trim) e := by
  cases h with
  | stat hstat hx =>
    exact .stat ((Stat.ofText?_trim p.stat).trans hstat) (factor?_trim_of_amount hx hsound)
  | physicalBulk hx => exact .physicalBulk (factor?_trim_of_amount hx hsound)
  | specialBulk hx => exact .specialBulk (factor?_trim_of_amount hx hsound)
  | offense hx => exact .offense (factor?_trim_of_amount hx hsound)
  | defense hx => exact .defense (factor?_trim_of_amount hx hsound)
  | offenseIfType hx =>
    exact .offenseIfType (typeName?_trim_of_ne (hneeds .type (by decide)))
      (factor?_trim_of_amount hx hsound)
  | incomingFactor hx =>
    exact .incomingFactor (typeName?_trim_of_ne (hneeds .type (by decide)))
      (factor?_trim_of_amount hx hsound)
  | statIfType hstat hx =>
    exact .statIfType ((Stat.ofText?_trim p.stat).trans hstat)
      (typeName?_trim_of_ne (hneeds .type (by decide))) (factor?_trim_of_amount hx hsound)
  | relation r => exact .relation r (typeName?_trim_of_ne (hneeds .type List.mem_cons_self))
  | evolution way => exact .evolution way
  | species =>
    have hname : trim p.species ≠ "" := hneeds .species (by decide)
    have hreads := Reads.species (α := α) (show trim (trim p.species) ≠ "" by rwa [trim_trim])
    rwa [trim_trim] at hreads
  | @crit kind x hx =>
    have hkind : CritKind.ofKeyword? (lower (trim kind.keyword)) = some kind := by
      cases kind <;> decide
    have hhead : lower "crit" = "crit" := by decide
    refine .crit hhead hkind ((critValue?_critMark (trimEnd_trim _) kind).trans ?_)
    cases kind with
    | damage => exact factor?_eq_some_iff.2 ⟨hx, hsound.nonneg⟩
    | chance | stage => exact hx
  | flag f => exact .flag f

omit [LawfulOrder α] in
/-- Parts that fit are those of an effect. -/
theorem Fits.exists_carries {kind : Kind} {p : Parts} (h : kind.Fits α p) :
    ∃ e : Effect α, kind.Carries p e ∧ e.Sound := by
  have hvalue {x : α} (hx : number? (kind.payload p.value) = some x)
      (hpos : kind.signed = false → 0 ≤ x) (hsigned : kind.signed = false) : Scalar.Amount x :=
    ⟨finite_of_number? hx, hpos hsigned⟩
  cases kind with
  | stat =>
    obtain ⟨stat, hstat⟩ := Stat.exists_ofText?_iff.2 (h.stat (by decide))
    obtain ⟨x, hx, hpos⟩ := h.value (by decide)
    exact ⟨_, .stat hstat hx, hvalue hx hpos rfl⟩
  | physicalBulk =>
    obtain ⟨x, hx, hpos⟩ := h.value (by decide)
    exact ⟨_, .physicalBulk hx, hvalue hx hpos rfl⟩
  | specialBulk =>
    obtain ⟨x, hx, hpos⟩ := h.value (by decide)
    exact ⟨_, .specialBulk hx, hvalue hx hpos rfl⟩
  | offense =>
    obtain ⟨x, hx, hpos⟩ := h.value (by decide)
    exact ⟨_, .offense hx, hvalue hx hpos rfl⟩
  | defense =>
    obtain ⟨x, hx, hpos⟩ := h.value (by decide)
    exact ⟨_, .defense hx, hvalue hx hpos rfl⟩
  | offenseIfType =>
    obtain ⟨x, hx, hpos⟩ := h.value (by decide)
    exact ⟨_, .offenseIfType hx, hvalue hx hpos rfl⟩
  | incomingFactor =>
    obtain ⟨x, hx, hpos⟩ := h.value (by decide)
    exact ⟨_, .incomingFactor hx, hvalue hx hpos rfl⟩
  | statIfType =>
    obtain ⟨stat, hstat⟩ := Stat.exists_ofText?_iff.2 (h.stat (by decide))
    obtain ⟨x, hx, hpos⟩ := h.value (by decide)
    exact ⟨_, .statIfType hstat hx, hvalue hx hpos rfl⟩
  | relation r => exact ⟨_, .relation r, trivial⟩
  | evolution way => exact ⟨_, .evolution way, trivial⟩
  | species => exact ⟨_, .species, trivial⟩
  | crit kind =>
    obtain ⟨x, hx, hpos⟩ := h.value List.mem_cons_self
    refine ⟨_, .crit hx, ?_⟩
    cases kind with
    | damage => exact hvalue hx hpos rfl
    | chance | stage => exact finite_of_number? hx
  | flag f => exact ⟨_, .flag f, trivial⟩

omit [LawfulOrder α] in
theorem Carries.fits {kind : Kind} {p : Parts} {e : Effect α} (h : kind.Carries p e)
    (hsound : e.Sound) (hcolon : ∀ part ∈ kind.words p.trim, .char ':' ∉ part.toList) :
    kind.Fits α p := by
  refine ⟨fun hneed => ?_, fun hneed => ?_, fun hneed => ?_, fun hneed => ?_⟩
  · cases h with
    | stat hstat _ | statIfType hstat _ => exact Stat.exists_ofText?_iff.1 ⟨_, hstat⟩
    | _ => simp [needs] at hneed
  · rw [← colon_mem_trim_iff]
    exact hcolon _ (get_mem_words hneed (by decide) p.trim)
  · rw [← colon_mem_trim_iff]
    exact hcolon _ (get_mem_words hneed (by decide) p.trim)
  · cases h with
    | stat _ hx | statIfType _ hx | physicalBulk hx | specialBulk hx | offense hx | defense hx
    | offenseIfType hx | incomingFactor hx => exact ⟨_, hx, fun _ => hsound.nonneg⟩
    | @crit kind x hx =>
      refine ⟨x, hx, fun hsigned => ?_⟩
      cases kind with
      | damage => exact hsound.nonneg
      | chance | stage => cases hsigned
    | _ => simp [needs] at hneed

omit [LawfulOrder α] in
/-- No part that is needed and fits holds a colon. -/
theorem Fits.colon_notMem_get {kind : Kind} {p : Parts} (h : kind.Fits α p) {part : Part}
    (hneed : part ∈ kind.needs) : .char ':' ∉ (p.trim.get part).toList := by
  cases part with
  | stat =>
    have hnames : ∀ name ∈ Stat.names, .char ':' ∉ name.toList := by decide
    have hnormal := hnames _ (h.stat hneed)
    change .char ':' ∉ (TypeName.normal p.stat).toList at hnormal
    rw [TypeName.colon_mem_normal_iff, ← colon_mem_trim_iff] at hnormal
    exact hnormal
  | type => exact mt (colon_mem_trim_iff _).1 (h.type hneed)
  | species => exact mt (colon_mem_trim_iff _).1 (h.species hneed)
  | value =>
    obtain ⟨x, hx, -⟩ := h.value hneed
    have hpayload := colon_notMem_of_number? hx
    cases kind with
    | crit kind => rwa [payload, colon_mem_dropMark_critMarks_iff] at hpayload
    | _ => exact mt (colon_mem_trim_iff _).1 hpayload

omit [LawfulOrder α] in
/-- The words for parts that fit hold no colon. -/
theorem Fits.colon_notMem {kind : Kind} {p : Parts} (h : kind.Fits α p) :
    ∀ word ∈ kind.words p.trim, .char ':' ∉ word.toList := by
  intro word hword hcolon
  obtain ⟨part, hneed, hpart⟩ := exists_colon_of_mem_words hword hcolon
  exact h.colon_notMem_get hneed hpart

/-- A built tag is read as an effect of its kind that carries the parts exactly if the parts fit.
So a tag that is read as an effect of its kind always carries them; one whose parts do not fit is
ignored or read as an effect of another kind. -/
theorem parse_built_iff {kind : Kind} {p : Parts} {tag : Text} (h : kind.build p = some tag) :
    ((∃ e : Effect α, parse tag = some e ∧ kind.Carries p e) ↔ kind.Fits α p) ∧
      ∀ e : Effect α, parse tag = some e → e.kind = kind → kind.Carries p e := by
  obtain ⟨hneeds, rfl⟩ := build_eq_some_iff.1 h
  have hparse (e : Effect α) : parse (kind.spell p.trim) = some e ↔
      Reads (split ':' (joined (kind.words p.trim))) e := by
    rw [parse_spell, ofParts?_eq_some_iff]
  have hne := kind.words_ne_nil p.trim
  have hwords {e : Effect α} (he : parse (kind.spell p.trim) = some e) (hkind : e.kind = kind) :
      (∀ part ∈ kind.words p.trim, .char ':' ∉ part.toList) ∧ Reads (kind.words p.trim) e := by
    have hreads := (hparse e).1 he
    have hcolon := notMem_of_length_split_joined hne
      ((length_of_reads hreads p.trim).trans (by rw [hkind]))
    rw [split_joined hne hcolon] at hreads
    exact ⟨hcolon, hreads⟩
  refine ⟨⟨?_, ?_⟩, ?_⟩
  · rintro ⟨e, he, hcarries⟩
    exact hcarries.fits (sound_of_parse he) (hwords he hcarries.kind_eq).1
  · intro hfits
    obtain ⟨e, hcarries, hsound⟩ := hfits.exists_carries
    refine ⟨e, (hparse e).2 ?_, hcarries⟩
    rw [split_joined hne hfits.colon_notMem]
    exact hcarries.reads hsound hneeds
  · intro e he hkind
    subst hkind
    exact carries_of_reads (hwords he rfl).2 rfl

/-- Two signs in front of a chance are one too many for the builder and the reader alone, but both
take one off; a value that looks like a type and a factor makes another kind of tag. -/
theorem parse_built_iff_chance :
    (∃ e : Effect Float, parse "crit:chance:++.25" = some e ∧
        (crit .chance).Carries ⟨"", "", "", " ++.25"⟩ e) ∧
      ¬ ∃ e : Effect Float, parse "mult:in_type:fire:0.5" = some e ∧
        stat.Carries ⟨"in_type", "", "", "fire:0.5"⟩ e := by
  have hchance : (crit .chance).build ⟨"", "", "", " ++.25"⟩ = some "crit:chance:++.25" := by
    decide +kernel
  have hfits : (crit .chance).Fits Float ⟨"", "", "", " ++.25"⟩ := by
    refine ⟨fun h => absurd h (by decide), fun h => absurd h (by decide),
      fun h => absurd h (by decide), fun _ => ⟨0.25, by decide +kernel, fun h => ?_⟩⟩
    cases h
  have htype : stat.build ⟨"in_type", "", "", "fire:0.5"⟩ = some "mult:in_type:fire:0.5" := by
    decide +kernel
  refine ⟨(parse_built_iff hchance).1.2 hfits, fun h => ?_⟩
  exact absurd (((parse_built_iff htype).1.1 h).stat (by decide)) (by decide)

end Order

end Kind

end Tag

end Roster
