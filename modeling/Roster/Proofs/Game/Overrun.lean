import Roster.Proofs.Game.Reading

/-!
# What a document has too much of

A whole number beyond the finite scalars is not refused as a flaw of the document: it breaks the
reading off. That happens if it stands where an amount is read, and all that is read before it is in
order.
-/

namespace Roster

variable {α : Type}

/-- A whole number beyond the finite scalars. -/
def Json.Huge [Scalar α] (v : Json α) : Prop :=
  ∃ n : Int, v = .number (.whole n) ∧ ¬ Scalar.Finite (Scalar.ofInt n : α)

theorem Json.amount?_eq_beyondScalars [Scalar α] {v : Json α} :
    v.amount? = .error .beyondScalars ↔ v.Huge := by
  unfold Json.Huge
  cases v with
  | number n =>
    cases n with
    | whole n =>
      by_cases h : Scalar.Finite (Scalar.ofInt n : α)
      · by_cases hn : (Scalar.ofInt n : α) < 0
        · simp [amount?, Number.toScalar?, Number.wholeScalar?, h, hn]
        · simp [amount?, Number.toScalar?, Number.wholeScalar?, h, hn]
      · simp [amount?, Number.toScalar?, Number.wholeScalar?, h]
    | real x =>
      by_cases h : Scalar.Finite x ∧ ¬ x < 0
      · simp [amount?, h]
      · simp [amount?, h]
  | _ => simp [amount?]

namespace Settings

/-- A flaw that is no flaw of the settings. -/
def Flaw.Overruns (flaw : Flaw α) : Prop := flaw = .beyondScalars

@[simp] theorem failsWith_readAmount [Scalar α] {key : String} {v : Json α} :
    FailsWith Flaw.Overruns (readAmount key v) ↔ v.Huge := by
  rw [← Json.amount?_eq_beyondScalars]
  unfold readAmount
  cases v.amount? with
  | ok amount => simp
  | error flaw => cases flaw <;> simp [Flaw.Overruns]

@[simp] theorem not_failsWith_readPreset (v : Json α) :
    ¬ FailsWith Flaw.Overruns (readPreset v) := by
  unfold readPreset
  cases v with
  | string s =>
    dsimp only
    split <;> simp [Flaw.Overruns]
  | _ => simp [Flaw.Overruns]

@[simp] theorem not_failsWith_readSwitch (key : String) (v : Json α) :
    ¬ FailsWith Flaw.Overruns (readSwitch key v) := by
  unfold readSwitch
  repeat' split
  all_goals simp [Flaw.Overruns]

theorem failsWith_readMember {β : Type} {members : Json.Members α} {key : String} {absent : β}
    {reader : Json α → Except (Flaw α) β} {P : Flaw α → Prop} :
    FailsWith P (readMember members key absent reader) ↔
      ∃ v, Json.member? key members = some v ∧ FailsWith P (reader v) := by
  unfold readMember
  cases Json.member? key members <;> simp

variable [Scalar α]

/-- The crit damage or the crit chance is huge, and what is read before it is in order. -/
def MeetsHuge (members : Json.Members α) : Prop :=
  (∃ preset, readMember members presetKey (default : Settings α).critPreset readPreset =
    .ok preset) ∧
  ((∃ v, Json.member? critDamageKey members = some v ∧ v.Huge) ∨
    (∃ x, readMember members critDamageKey (default : Settings α).critDamage
      (readAmount critDamageKey) = .ok x) ∧
    ∃ v, Json.member? critChanceKey members = some v ∧ v.Huge)

theorem failsWith_ofMembers {members : Json.Members α} :
    FailsWith Flaw.Overruns (ofMembers members) ↔ MeetsHuge members := by
  unfold ofMembers MeetsHuge
  simp only [failsWith_bind, failsWith_readMember, not_failsWith_readPreset,
    not_failsWith_readSwitch, failsWith_readAmount, not_failsWith_pure, and_false,
    exists_false, false_or, or_false, exists_and_right]
  refine and_congr_right fun _ => or_congr_right (and_congr_right fun _ => exists_congr fun v => ?_)
  refine and_congr_right fun _ => ?_
  cases v with
  | null => simp [Json.Huge]
  | _ => rw [failsWith_map, failsWith_readAmount]

/-- The settings that a whole number breaks off. -/
theorem failsWith_ofJson {v : Json α} :
    FailsWith Flaw.Overruns (ofJson v) ↔ ∃ members, v = .object members ∧ MeetsHuge members := by
  cases v with
  | object members => simp [ofJson, failsWith_ofMembers]
  | _ => simp [ofJson, Flaw.Overruns]

end Settings

namespace Game

/-- A flaw that is no flaw of the document, but a number too large. -/
def Flaw.Overruns (flaw : Flaw α) : Prop := flaw.overrun? = some .number

theorem overruns_settings {flaw : Settings.Flaw α} :
    (Flaw.settings flaw).Overruns ↔ flaw.Overruns := by
  cases flaw <;> simp [Flaw.Overruns, Flaw.overrun?, Settings.Flaw.Overruns]

/-! ### Fields -/

section Fields

variable {site : Site} {key : String} {r : Record α} {v : Json α}

@[simp] theorem not_failsWith_asRecord : ¬ FailsWith Flaw.Overruns (asRecord site v) := by
  cases v <;> simp [asRecord, Flaw.Overruns, Flaw.overrun?]

@[simp] theorem not_failsWith_wholeField? :
    ¬ FailsWith Flaw.Overruns (wholeField? site key r) := by
  unfold wholeField?
  split <;> simp [Flaw.Overruns, Flaw.overrun?]

@[simp] theorem not_failsWith_wholeField : ¬ FailsWith Flaw.Overruns (wholeField site key r) := by
  unfold wholeField
  rw [failsWith_bind]
  rintro (h | ⟨n, -, h⟩)
  · exact not_failsWith_wholeField? h
  · cases n <;> simp [Flaw.Overruns, Flaw.overrun?] at h

@[simp] theorem not_failsWith_nameField : ¬ FailsWith Flaw.Overruns (nameField site r) := by
  unfold nameField
  split <;> simp [Flaw.Overruns, Flaw.overrun?]

@[simp] theorem not_failsWith_statsRecord : ¬ FailsWith Flaw.Overruns (statsRecord site r) := by
  unfold statsRecord
  split <;> simp [Flaw.Overruns, Flaw.overrun?]

@[simp] theorem not_failsWith_sectionItems : ¬ FailsWith Flaw.Overruns (sectionItems key r) := by
  unfold sectionItems
  split <;> simp [Flaw.Overruns, Flaw.overrun?]

@[simp] theorem not_failsWith_requiredItems :
    ¬ FailsWith Flaw.Overruns (requiredItems key r) := by
  unfold requiredItems
  split <;> simp [Flaw.Overruns, Flaw.overrun?]

@[simp] theorem not_failsWith_teamItems : ¬ FailsWith Flaw.Overruns (teamItems r) := by
  unfold teamItems
  repeat' split
  all_goals simp [Flaw.Overruns, Flaw.overrun?]

@[simp] theorem not_failsWith_readSlot (index : Nat) :
    ¬ FailsWith Flaw.Overruns (readSlot index v) := by
  unfold readSlot
  split <;> simp [Flaw.Overruns, Flaw.overrun?]

variable [Numeral α]

/-- A stored text can have too many levels, and a tag too many digits, but neither is a number
beyond the scalars. -/
@[simp] theorem not_failsWith_tagsField : ¬ FailsWith Flaw.Overruns (tagsField site r) := by
  unfold tagsField
  split
  · exact not_failsWith_ok _
  · rw [failsWith_mapError]
    rintro ⟨bracket, -, h⟩
    cases h
  · split <;> simp [Flaw.Overruns, Flaw.overrun?]
  · simp [Flaw.Overruns, Flaw.overrun?]

@[simp] theorem failsWith_amountField :
    FailsWith Flaw.Overruns (amountField site key r) ↔ (Json.member key r).Huge := by
  rw [← Json.amount?_eq_beyondScalars]
  unfold amountField
  dsimp only
  cases (Json.member key r).amount? with
  | ok amount => simp
  | error flaw => cases flaw <;> simp [Flaw.Overruns, Flaw.overrun?]

end Fields

/-! ### Records -/

section Records

theorem asRecord_eq_ok {site : Site} {v : Json α} {r : Record α} :
    asRecord site v = .ok r ↔ v = .object r := by
  cases v <;> simp [asRecord]

theorem not_failsWith_readBoxEntry {site : Site} {v : Json α} :
    ¬ FailsWith Flaw.Overruns (readBoxEntry site v) := by
  unfold readBoxEntry
  simp [failsWith_bind]

variable [Numeral α]

/-- A huge multiplier behind the two types of a row. -/
def HugeRow (site : Site) (v : Json α) : Prop :=
  ∃ r, v = .object r ∧ (∃ n, wholeField site "attacking_type_id" r = .ok n) ∧
    (∃ n, wholeField site "defending_type_id" r = .ok n) ∧ (Json.member "multiplier" r).Huge

/-- A huge stat behind amounts. -/
def HugeStats (site : Site) (source : Record α) : Prop :=
  ∃ before stat after, Stat.all = before ++ stat :: after ∧
    (∀ s ∈ before, ∃ x, amountField site s.key source = .ok x) ∧
    (Json.member stat.key source).Huge

/-- A huge stat of a species whose id, name and types are in order. -/
def HugeSpecies (site : Site) (v : Json α) : Prop :=
  ∃ r, v = .object r ∧ (∃ n, wholeField site "id" r = .ok n) ∧
    (∃ name, nameField site r = .ok name) ∧ (∃ n, wholeField site "type1_id" r = .ok n) ∧
    (∃ n, wholeField? site "type2_id" r = .ok n) ∧
    ∃ source, statsRecord site r = .ok source ∧ HugeStats site source

/-- A huge stat of a change behind stats that are amounts or left alone. -/
def HugeChange (site : Site) (v : Json α) : Prop :=
  ∃ r, v = .object r ∧ ∃ before stat after, Stat.all = before ++ stat :: after ∧
    (∀ s ∈ before, Json.member s.key r = .null ∨ ∃ x, amountField site s.key r = .ok x) ∧
    (Json.member stat.key r).Huge

variable {site : Site} {v : Json α}

theorem failsWith_readChartRow :
    FailsWith Flaw.Overruns (readChartRow site v) ↔ HugeRow site v := by
  unfold readChartRow HugeRow
  simp [failsWith_bind, asRecord_eq_ok]

theorem failsWith_readSpecies :
    FailsWith Flaw.Overruns (readSpecies site v) ↔ HugeSpecies site v := by
  unfold readSpecies HugeSpecies readStats HugeStats
  simp [failsWith_bind, asRecord_eq_ok, failsWith_ofFnM, map_eq_ok]

theorem failsWith_readChange :
    FailsWith Flaw.Overruns (readChange site v) ↔ HugeChange site v := by
  unfold readChange HugeChange
  simp only [failsWith_bind, asRecord_eq_ok, failsWith_ofFnM, not_failsWith_asRecord,
    not_failsWith_wholeField, not_failsWith_wholeField?, not_failsWith_pure, and_false,
    exists_false, false_or, or_false]
  refine exists_congr fun r => and_congr_right fun _ => ?_
  refine exists_congr fun before => exists_congr fun stat => exists_congr fun after => ?_
  refine and_congr_right fun _ => and_congr (forall_congr' fun s => imp_congr_right fun _ => ?_) ?_
  · cases h : Json.member s.key r with
    | null => simp
    | _ => simp
  · cases h : Json.member stat.key r with
    | null => simp [Json.Huge]
    | _ => rw [failsWith_map, failsWith_amountField, h]

theorem not_failsWith_readType : ¬ FailsWith Flaw.Overruns (readType site v) := by
  unfold readType
  simp [failsWith_bind]

theorem not_failsWith_readGear : ¬ FailsWith Flaw.Overruns (readGear site v) := by
  unfold readGear
  simp [failsWith_bind]

end Records

/-! ### Sections -/

section Sections

variable {β : Type} {key : String} {reader : Site → Json α → Except (Flaw α) β}

/-- A list with a bad item behind items that can be read. -/
def FirstBad (key : String) (reader : Site → Json α → Except (Flaw α) β)
    (bad : Site → Json α → Prop) (items : List (Json α)) : Prop :=
  ∃ before v after, items = before ++ v :: after ∧ (∃ xs, readItems key reader before = .ok xs) ∧
    bad ⟨key, before.length⟩ v

theorem exists_readItems_eq_ok {items : List (Json α)} :
    (∃ xs, readItems key reader items = .ok xs) ↔
      (readUntilFlaw (fun index => reader ⟨key, index⟩) 0 items).2 = none := by
  unfold readItems
  split
  · rename_i h
    simp [h]
  · rename_i h
    simp [h]

theorem failsWith_readItems {P : Flaw α → Prop} {items : List (Json α)} :
    FailsWith P (readItems key reader items) ↔
      FirstBad key reader (fun site v => FailsWith P (reader site v)) items := by
  have hflaw : FailsWith P (readItems key reader items) ↔
      ∃ flaw, (readUntilFlaw (fun index => reader ⟨key, index⟩) 0 items).2 = some flaw ∧
        P flaw := by
    unfold readItems
    split
    · rename_i h
      simp [h]
    · rename_i h
      simp [h]
  rw [hflaw]
  unfold FirstBad
  constructor
  · rintro ⟨flaw, h, hp⟩
    obtain ⟨before, v, after, hitems, hn, hv⟩ := readUntilFlaw_flaw.1 h
    rw [Nat.zero_add] at hv
    exact ⟨before, v, after, hitems, exists_readItems_eq_ok.2 hn, flaw, hv, hp⟩
  · rintro ⟨before, v, after, hitems, hn, flaw, hv, hp⟩
    rw [← Nat.zero_add before.length] at hv
    exact ⟨flaw, readUntilFlaw_flaw.2
      ⟨before, v, after, hitems, exists_readItems_eq_ok.1 hn, hv⟩, hp⟩

theorem not_failsWith_readItems {P : Flaw α → Prop} {items : List (Json α)}
    (h : ∀ site v, ¬ FailsWith P (reader site v)) : ¬ FailsWith P (readItems key reader items) := by
  rw [failsWith_readItems]
  rintro ⟨before, v, after, -, -, hv⟩
  exact h _ v hv

variable [Numeral α]

/-- A huge number is met where a document is read. -/
inductive MeetsHuge (r : Record α) : Prop where
  | chart {types : List TypeInfo} {items : List (Json α)} (htypes : readTypes r = .ok types)
    (hitems : sectionItems "chart" r = .ok items) (h : FirstBad "chart" readChartRow HugeRow items)
  | species {types : List TypeInfo} {chart : List (ChartRow α)} {items : List (Json α)}
    (htypes : readTypes r = .ok types) (hchart : readChart r = .ok chart)
    (hitems : requiredItems "species" r = .ok items)
    (h : FirstBad "species" readSpecies HugeSpecies items)
  | change {types : List TypeInfo} {chart : List (ChartRow α)} {species : List (Species α)}
    {abilities gear : List Gear} {items : List (Json α)} (htypes : readTypes r = .ok types)
    (hchart : readChart r = .ok chart)
    (hspecies : requiredItems "species" r >>= readItems "species" readSpecies = .ok species)
    (habilities : sectionItems "abilities" r >>= readItems "abilities" readGear = .ok abilities)
    (hgear : sectionItems "items" r >>= readItems "items" readGear = .ok gear)
    (hitems : sectionItems "overrides" r = .ok items)
    (h : FirstBad "overrides" readChange HugeChange items)
  | settings {types : List TypeInfo} {chart : List (ChartRow α)} {roll : Roll α}
    {box : List BoxEntry} {slots : List (Option Int)} {members : Json.Members α}
    (htypes : readTypes r = .ok types) (hchart : readChart r = .ok chart)
    (hroll : readRoll r = .ok roll)
    (hbox : sectionItems "box" r >>= readItems "box" readBoxEntry = .ok box)
    (hslots : teamItems r >>= readItems "team" (fun site => readSlot site.index) = .ok slots)
    (hmembers : Json.member "settings" r = .object members) (h : Settings.MeetsHuge members)

variable {r : Record α}

theorem not_failsWith_readTypes : ¬ FailsWith Flaw.Overruns (readTypes r) := by
  have hitems (items : List (Json α)) :
      ¬ FailsWith Flaw.Overruns (readItems "types" readType items) :=
    not_failsWith_readItems fun _ _ => not_failsWith_readType
  unfold readTypes
  simp only [failsWith_bind, not_failsWith_requiredItems, hitems, false_or]
  rintro ⟨items, -, types, -, h⟩
  by_cases hn : types.isEmpty
  · simp [hn, Flaw.Overruns, Flaw.overrun?] at h
  · simp [hn] at h

theorem failsWith_readChart : FailsWith Flaw.Overruns (readChart r) ↔
    ∃ items, sectionItems "chart" r = .ok items ∧
      FirstBad "chart" readChartRow HugeRow items := by
  unfold readChart
  simp only [failsWith_bind, not_failsWith_sectionItems, false_or, failsWith_readItems,
    failsWith_readChartRow]

theorem failsWith_readRoll : FailsWith Flaw.Overruns (readRoll r) ↔
    (∃ items, requiredItems "species" r = .ok items ∧
      FirstBad "species" readSpecies HugeSpecies items) ∨
    ∃ species abilities gear,
      requiredItems "species" r >>= readItems "species" readSpecies = .ok species ∧
      sectionItems "abilities" r >>= readItems "abilities" readGear = .ok abilities ∧
      sectionItems "items" r >>= readItems "items" readGear = .ok gear ∧
      ∃ items, sectionItems "overrides" r = .ok items ∧
        FirstBad "overrides" readChange HugeChange items := by
  have hgear (key : String) (items : List (Json α)) :
      ¬ FailsWith Flaw.Overruns (readItems key readGear items) :=
    not_failsWith_readItems fun _ _ => not_failsWith_readGear
  unfold readRoll
  simp only [failsWith_bind, not_failsWith_requiredItems, not_failsWith_sectionItems, hgear,
    not_failsWith_pure, false_or, and_false, exists_false, or_false, failsWith_readItems,
    failsWith_readSpecies, failsWith_readChange, bind_eq_ok]
  constructor
  · rintro ⟨items, hitems, h | ⟨species, hs, is, his, abilities, ha, js, hjs, gear, hg, h⟩⟩
    · exact Or.inl ⟨items, hitems, h⟩
    · exact Or.inr ⟨species, abilities, gear, ⟨items, hitems, hs⟩, ⟨is, his, ha⟩, ⟨js, hjs, hg⟩, h⟩
  · rintro (⟨items, hitems, h⟩ | ⟨species, abilities, gear, ⟨items, hitems, hs⟩, ⟨is, his, ha⟩,
      ⟨js, hjs, hg⟩, h⟩)
    · exact ⟨items, hitems, Or.inl h⟩
    · exact ⟨items, hitems, Or.inr ⟨species, hs, is, his, abilities, ha, js, hjs, gear, hg, h⟩⟩

/-- The sections of a document are read one after the other. -/
theorem result_read_object (given : Option Text) (r : Record α) :
    (read given (.object r)).result = (do
      let types ← readTypes r
      let chart ← readChart r
      let roll ← readRoll r
      (readBoxAndTeam r given types chart roll).result) := by
  unfold read
  dsimp only
  cases readTypes r with
  | error flaw => rfl
  | ok types =>
    dsimp only
    cases readChart r with
    | error flaw => rfl
    | ok chart =>
      dsimp only
      cases readRoll r with
      | error flaw => rfl
      | ok roll => rfl

theorem result_readBoxAndTeam (r : Record α) (given : Option Text) (types : List TypeInfo)
    (chart : List (ChartRow α)) (roll : Roll α) :
    (readBoxAndTeam r given types chart roll).result = (do
      let entries ← sectionItems "box" r >>= readItems "box" readBoxEntry
      let slots ← teamItems r >>= readItems "team" (fun site => readSlot site.index)
      let settings ← (Settings.ofJson (Json.member "settings" r)).mapError .settings
      let box := entries.filter (hasSpecies roll.species)
      return {
        name := nameOf r given, types, chart, species := roll.species, abilities := roll.abilities
        items := roll.items, changes := roll.changes, box
        team := fillTeam (settleSlots box slots), settings }) := by
  unfold readBoxAndTeam readItems
  cases sectionItems "box" r with
  | error flaw => rfl
  | ok items =>
    dsimp only [bind, Except.bind]
    rcases readUntilFlaw (fun index => readBoxEntry ⟨"box", index⟩) 0 items with
      ⟨entries, flaw | _⟩
    · dsimp only
      cases teamItems r with
      | error flaw => rfl
      | ok items =>
        dsimp only
        rcases readUntilFlaw readSlot 0 items with ⟨slots, flaw | _⟩
        · dsimp only
          cases Settings.ofJson (Json.member "settings" r) with
          | error flaw => rfl
          | ok settings => rfl
        · rfl
    · rfl

theorem failsWith_readBoxAndTeam {given : Option Text} {types : List TypeInfo}
    {chart : List (ChartRow α)} {roll : Roll α} :
    FailsWith Flaw.Overruns (readBoxAndTeam r given types chart roll).result ↔
      (∃ box, sectionItems "box" r >>= readItems "box" readBoxEntry = .ok box) ∧
      (∃ slots, teamItems r >>= readItems "team" (fun site => readSlot site.index) = .ok slots) ∧
      ∃ members, Json.member "settings" r = .object members ∧ Settings.MeetsHuge members := by
  have hentries (items : List (Json α)) :
      ¬ FailsWith Flaw.Overruns (readItems "box" readBoxEntry items) :=
    not_failsWith_readItems fun _ _ => not_failsWith_readBoxEntry
  have hslots (items : List (Json α)) :
      ¬ FailsWith Flaw.Overruns (readItems "team" (fun site => readSlot site.index) items) :=
    not_failsWith_readItems fun site _ => not_failsWith_readSlot site.index
  rw [result_readBoxAndTeam]
  simp only [failsWith_bind, not_failsWith_sectionItems, not_failsWith_teamItems, hentries, hslots,
    failsWith_mapError, overruns_settings, Settings.failsWith_ofJson, not_failsWith_pure, false_or,
    and_false, exists_false, or_false, exists_and_right]

/-- A document that a number breaks off. -/
theorem failsWith_read {given : Option Text} {v : Json α} :
    FailsWith Flaw.Overruns (read given v).result ↔ ∃ r, v = .object r ∧ MeetsHuge r := by
  cases v with
  | object r =>
    rw [result_read_object]
    simp only [failsWith_bind, not_failsWith_readTypes, failsWith_readChart, failsWith_readRoll,
      failsWith_readBoxAndTeam, false_or, Json.object.injEq, exists_eq_left']
    constructor
    · rintro ⟨types, htypes, h⟩
      rcases h with ⟨items, hitems, h⟩ | ⟨chart, hchart, h⟩
      · exact .chart htypes hitems h
      · rcases h with (⟨items, hitems, h⟩ |
          ⟨species, abilities, gear, hspecies, habilities, hgear, items, hitems, h⟩) |
          ⟨roll, hroll, ⟨box, hbox⟩, ⟨slots, hslots⟩, members, hmembers, h⟩
        · exact .species htypes hchart hitems h
        · exact .change htypes hchart hspecies habilities hgear hitems h
        · exact .settings htypes hchart hroll hbox hslots hmembers h
    · intro h
      cases h with
      | chart htypes hitems h => exact ⟨_, htypes, Or.inl ⟨_, hitems, h⟩⟩
      | species htypes hchart hitems h =>
        exact ⟨_, htypes, Or.inr ⟨_, hchart, Or.inl (Or.inl ⟨_, hitems, h⟩)⟩⟩
      | change htypes hchart hspecies habilities hgear hitems h =>
        exact ⟨_, htypes, Or.inr ⟨_, hchart, Or.inl (Or.inr
          ⟨_, _, _, hspecies, habilities, hgear, _, hitems, h⟩)⟩⟩
      | settings htypes hchart hroll hbox hslots hmembers h =>
        exact ⟨_, htypes, Or.inr ⟨_, hchart, Or.inr
          ⟨_, hroll, ⟨_, hbox⟩, ⟨_, hslots⟩, _, hmembers, h⟩⟩⟩
  | _ => simp [read, Flaw.Overruns, Flaw.overrun?]

end Sections

end Game

end Roster
