import Roster.Proofs.Analysis.Switches
import Roster.Proofs.Game.Sections

/-!
# Changes written into species

A game keeps its changes beside its species, and the form of a creature is made of both when it is
scored. To write the last change of each species into the record of the species, and to leave the
changes out, is to the same effect.
-/

namespace Roster

namespace Keyed

variable {κ β γ : Type} [DecidableEq κ] (f : β → γ)

theorem get?_map (k : κ) (m : Keyed κ β) :
    get? k (m.map fun e => (e.1, f e.2)) = (get? k m).map f := by
  induction m with
  | nil => rfl
  | cons e rest ih =>
    rw [List.map_cons]
    unfold get?
    split
    · rfl
    · exact ih

omit f in
theorem get?_erase (k k' : κ) (m : Keyed κ β) :
    get? k (erase k' m) = if k = k' then none else get? k m := by
  rw [erase, get?_filter_key (fun j => decide (j ≠ k'))]
  by_cases h : k = k' <;> simp [h]

theorem put_map (k : κ) (v : β) (m : Keyed κ β) :
    put k (f v) (m.map fun e => (e.1, f e.2)) = (put k v m).map fun e => (e.1, f e.2) := by
  induction m with
  | nil => rfl
  | cons e rest ih =>
    rw [List.map_cons]
    unfold put
    split
    · rfl
    · rw [ih, List.map_cons]

/-- A map that is filled with other values under the same keys. -/
theorem ofList_map (entries : List (κ × β)) :
    ofList (entries.map fun e => (e.1, f e.2)) = (ofList entries).map fun e => (e.1, f e.2) := by
  suffices h : ∀ m : Keyed κ β,
      (entries.map fun e => (e.1, f e.2)).foldl (fun m e => put e.1 e.2 m)
          (m.map fun e => (e.1, f e.2)) =
        (entries.foldl (fun m e => put e.1 e.2 m) m).map fun e => (e.1, f e.2) from h []
  induction entries with
  | nil => exact fun m => rfl
  | cons e rest ih =>
    intro m
    rw [List.map_cons, List.foldl_cons, List.foldl_cons, ← ih]
    exact congrArg (List.foldl _ · _) (put_map f e.1 e.2 m)

end Keyed

variable {α : Type}

/-! ### Games -/

namespace Species

/-- A species with its change written into it, if there is one. -/
def settled (changes : Keyed Int (SpeciesChange α)) (s : Species α) : Species α :=
  match Keyed.get? s.id changes with
  | none => s
  | some c => s.changedBy c

variable (changes : Keyed Int (SpeciesChange α)) (s : Species α)

/-- All but types and stats are the species' own. -/
theorem settled_eq :
    s.settled changes =
      { s with
        type1 := (s.formUnder (Keyed.get? s.id changes)).type1
        type2 := (s.formUnder (Keyed.get? s.id changes)).type2
        stats := (s.formUnder (Keyed.get? s.id changes)).stats } := by
  unfold settled
  cases Keyed.get? s.id changes <;> rfl

@[simp] theorem settled_id : (s.settled changes).id = s.id := by rw [settled_eq]

@[simp] theorem settled_name : (s.settled changes).name = s.name := by rw [settled_eq]

@[simp] theorem settled_dexNumber : (s.settled changes).dexNumber = s.dexNumber := by
  rw [settled_eq]

@[simp] theorem settled_tags : (s.settled changes).tags = s.tags := by rw [settled_eq]

@[simp] theorem form_settled :
    (s.settled changes).form = s.formUnder (Keyed.get? s.id changes) := by
  rw [settled_eq]
  rfl

end Species

/-- A game with its changes written into its species. -/
def Game.settled (g : Game α) : Game α :=
  { g with species := g.species.map fun e => (e.1, e.2.settled g.changes), changes := [] }

namespace Analyzer

variable [Numeral α] (settings : Settings (Number α)) (g : Game α)

omit [Numeral α] in
theorem get?_settled (id : Int) :
    Keyed.get? id g.settled.species = (Keyed.get? id g.species).map (Species.settled g.changes) :=
  Keyed.get?_map _ id g.species

omit [Numeral α] in
theorem tags_settled (e : BoxEntry) (s : Species α) :
    (ofGame g.settled settings).tags g.settled e (s.settled g.changes) =
      (ofGame g settings).tags g e s := by
  unfold tags
  rw [Species.settled_tags]
  rfl

omit [Numeral α] in
/-- A species has the form under no change that it had under its own. -/
theorem formUnder_settled (s : Species α) :
    (s.settled g.changes).formUnder (Keyed.get? (s.settled g.changes).id g.settled.changes) =
      s.formUnder (Keyed.get? s.id g.changes) :=
  Species.form_settled g.changes s

theorem potentialsOf_settled (e : BoxEntry) (s : Species α) :
    (ofGame g.settled settings).potentialsOf g.settled e (s.settled g.changes) =
      (ofGame g settings).potentialsOf g e s := by
  unfold potentialsOf
  rw [tags_settled, formUnder_settled]
  rfl

theorem scoreWith_settled (e : BoxEntry) (s : Species α) (p : Potentials α) (names : List Text) :
    (ofGame g.settled settings).scoreWith g.settled e (s.settled g.changes) p names =
      (ofGame g settings).scoreWith g e s p names := by
  unfold scoreWith
  rw [tags_settled, formUnder_settled, Species.settled_name, Species.settled_dexNumber]
  rfl

theorem score_settled (e : BoxEntry) :
    (ofGame g.settled settings).score g.settled e = (ofGame g settings).score g e := by
  unfold score
  rw [get?_settled]
  cases Keyed.get? e.speciesId g.species with
  | none => rfl
  | some s =>
    simp only [Option.map_some, potentialsOf_settled, formUnder_settled, scoreWith_settled]
    rfl

theorem scoreNotices_settled (e : BoxEntry) :
    (ofGame g.settled settings).scoreNotices g.settled e =
      (ofGame g settings).scoreNotices g e := by
  unfold scoreNotices
  rw [get?_settled, score_settled]
  cases Keyed.get? e.speciesId g.species with
  | none => rfl
  | some s =>
    simp only [Option.map_some, tags_settled]
    rfl

/-- A game comes to the same with its changes written into its species. -/
theorem outcome_settled : outcome settings g.settled = outcome settings g := by
  have hagree : (ofGame g settings).Agree g (ofGame g.settled settings) g.settled id :=
    ⟨fun e => (score_settled settings g e).symm, fun e => (scoreNotices_settled settings g e).symm,
      fun _ => rfl, (List.map_id g.box).symm, rfl, rfl⟩
  exact (hagree.outcome_eq rfl rfl).symm

end Analyzer

/-! ### Records -/

/-- A value, or another one in the place of null. -/
def Json.orElse : Json α → Json α → Json α
  | .null, w => w
  | v, _ => v

theorem Json.orElse_orElse (v w : Json α) : v.orElse (v.orElse w) = v.orElse w := by
  cases v <;> rfl

namespace Game

/-- A record with a member of another one written into it, unless it is null there. -/
def writeMember (key : String) (source target : Record α) : Record α :=
  match Json.member key source with
  | .null => target
  | v => Keyed.put key v target

/-- A record with stats of another one written into it. -/
def writeStats (stats : List Stat) (source target : Record α) : Record α :=
  stats.foldl (fun target stat => writeMember stat.key source target) target

/-- The members of a species with a change written into them. The stats are written where the
species has its own. -/
def writeChange (change species : Record α) : Record α :=
  let typed := writeMember "type2_id" change (writeMember "type1_id" change species)
  match Json.member? "stats" species with
  | some (.object stats) => Keyed.put "stats" (.object (writeStats Stat.all change stats)) typed
  | _ => writeStats Stat.all change typed

/-- The last change in a document of the species with an id. -/
def lastChange? (r : Record α) (id : Int) : Option (Json α) :=
  (itemsAt "overrides" r).reverse.find? fun v => decide (wholeAt? "species_id" v = some id)

/-- A species with the last change of it in a document written into it. -/
def writeLastChange (r : Record α) (v : Json α) : Json α :=
  match (wholeAt? "id" v).bind (lastChange? r), v with
  | some (.object change), .object species => .object (writeChange change species)
  | _, _ => v

/-- A document with its changes written into its species and none left. -/
def overridesWritten (r : Record α) : Record α :=
  Keyed.erase "overrides" (editItems "species" (List.map (writeLastChange r)) r)

section Write

variable {key key' : String} {source target : Record α}

theorem member?_writeMember_of_ne (h : (key : Text) ≠ key') :
    Json.member? key' (writeMember key source target) = Json.member? key' target := by
  unfold writeMember
  split
  · rfl
  · exact Keyed.get?_put_of_ne h _ target

theorem member_writeMember_of_ne (h : (key : Text) ≠ key') :
    Json.member key' (writeMember key source target) = Json.member key' target := by
  rw [Json.member, Json.member, member?_writeMember_of_ne h]

theorem member_writeMember_self :
    Json.member key (writeMember key source target) =
      (Json.member key source).orElse (Json.member key target) := by
  unfold writeMember
  split
  · rename_i h
    rw [h]
    rfl
  · rw [member_put_self]
    cases h : Json.member key source with
    | null => contradiction
    | _ => rfl

theorem member?_writeStats_of_ne (h : ∀ stat : Stat, (stat.key : Text) ≠ key)
    (stats : List Stat) :
    Json.member? key (writeStats stats source target) = Json.member? key target := by
  unfold writeStats
  induction stats generalizing target with
  | nil => rfl
  | cons stat rest ih => rw [List.foldl_cons, ih, member?_writeMember_of_ne (h stat)]

/-- A stat that is written is that of the source, or else that of the target. -/
theorem member_writeStats (stat : Stat) (stats : List Stat) :
    Json.member stat.key (writeStats stats source target) =
      if stat ∈ stats then (Json.member stat.key source).orElse (Json.member stat.key target)
      else Json.member stat.key target := by
  unfold writeStats
  induction stats generalizing target with
  | nil => rfl
  | cons other rest ih =>
    rw [List.foldl_cons, ih]
    by_cases h : other = stat
    · subst h
      rw [member_writeMember_self, Json.orElse_orElse, if_pos List.mem_cons_self]
      split <;> rfl
    · have hkey : (other.key : Text) ≠ stat.key :=
        fun he => h (Stat.key_injective (Text.ofString_injective he))
      have hne : stat ≠ other := Ne.symm h
      rw [member_writeMember_of_ne hkey]
      simp only [List.mem_cons, hne, false_or]

end Write

/-! ### Reading what is written -/

/-- The keys under which a change may write. -/
def changedKeys : List Text :=
  "type1_id" :: "type2_id" :: "stats" :: Stat.all.map fun stat => (stat.key : Text)

theorem member_stat_writeStats (change target : Record α) (stat : Stat) :
    Json.member stat.key (writeStats Stat.all change target) =
      (Json.member stat.key change).orElse (Json.member stat.key target) := by
  rw [member_writeStats, if_pos (Stat.mem_all stat)]

theorem member_writeChange {key : String} (hstats : ("stats" : Text) ≠ key)
    (hstat : ∀ stat : Stat, (stat.key : Text) ≠ key) (change species : Record α) :
    Json.member key (writeChange change species) =
      Json.member key (writeMember "type2_id" change (writeMember "type1_id" change species)) := by
  unfold writeChange
  dsimp only
  split
  · exact member_put_of_ne hstats _ _
  · rw [Json.member, member?_writeStats_of_ne hstat, Json.member]

/-- What is no type and no stat of the species is as it was. -/
theorem member_writeChange_of_notMem {key : String} (h : (key : Text) ∉ changedKeys)
    (change species : Record α) :
    Json.member key (writeChange change species) = Json.member key species := by
  simp only [changedKeys, List.mem_cons, List.mem_map, not_or, not_exists, not_and] at h
  obtain ⟨h₁, h₂, hstats, hstat⟩ := h
  rw [member_writeChange (Ne.symm hstats) (fun stat => hstat stat (Stat.mem_all stat)),
    member_writeMember_of_ne (Ne.symm h₂), member_writeMember_of_ne (Ne.symm h₁)]

theorem member_type1_writeChange (change species : Record α) :
    Json.member "type1_id" (writeChange change species) =
      (Json.member "type1_id" change).orElse (Json.member "type1_id" species) := by
  rw [member_writeChange (by decide) (fun stat => by cases stat <;> decide),
    member_writeMember_of_ne (by decide), member_writeMember_self]

theorem member_type2_writeChange (change species : Record α) :
    Json.member "type2_id" (writeChange change species) =
      (Json.member "type2_id" change).orElse (Json.member "type2_id" species) := by
  rw [member_writeChange (by decide) (fun stat => by cases stat <;> decide),
    member_writeMember_self, member_writeMember_of_ne (by decide)]

theorem statsRecord_writeChange {site : Site} (change : Record α) {species source : Record α}
    (h : statsRecord site species = .ok source) :
    ∃ source', statsRecord site (writeChange change species) = .ok source' ∧ ∀ stat : Stat,
      Json.member stat.key source' =
        (Json.member stat.key change).orElse (Json.member stat.key source) := by
  unfold statsRecord at h
  split at h
  · -- The species has its stats among its own members.
    rename_i hmember
    obtain rfl := Except.ok.inj h
    have hwritten : writeChange change species = writeStats Stat.all change
        (writeMember "type2_id" change (writeMember "type1_id" change species)) := by
      unfold writeChange
      rw [hmember]
    have hstats : Json.member? "stats" (writeChange change species) = none := by
      rw [hwritten, member?_writeStats_of_ne (fun stat => by cases stat <;> decide),
        member?_writeMember_of_ne (by decide), member?_writeMember_of_ne (by decide), hmember]
    refine ⟨writeChange change species, by rw [statsRecord, hstats], fun stat => ?_⟩
    rw [hwritten, member_stat_writeStats,
      member_writeMember_of_ne (by cases stat <;> decide),
      member_writeMember_of_ne (by cases stat <;> decide)]
  · rename_i stats hmember
    obtain rfl := Except.ok.inj h
    have hstats : Json.member? "stats" (writeChange change species) =
        some (.object (writeStats Stat.all change stats)) := by
      unfold writeChange
      rw [hmember]
      exact Keyed.get?_put_self _ _ _
    exact ⟨writeStats Stat.all change stats, by rw [statsRecord, hstats],
      member_stat_writeStats change stats⟩
  · cases h

theorem wholeField?_orElse {site site' : Site} {key : String} {change species target : Record α}
    {n m : Option Int}
    (h : Json.member key target = (Json.member key change).orElse (Json.member key species))
    (hn : wholeField? site' key change = .ok n) (hm : wholeField? site key species = .ok m) :
    wholeField? site key target = .ok (n.or m) := by
  rw [wholeField?_eq_ok_iff] at hn
  rcases hn with ⟨hnull, rfl⟩ | ⟨k, hk, rfl⟩
  · rw [hnull] at h
    rw [Option.none_or, ← hm, wholeField?, h, wholeField?]
    rfl
  · rw [hk] at h
    exact wholeField?_eq_ok_iff.2 (.inr ⟨k, h, rfl⟩)

theorem wholeField_orElse {site site' : Site} {key : String} {change species target : Record α}
    {n : Option Int} {m : Int}
    (h : Json.member key target = (Json.member key change).orElse (Json.member key species))
    (hn : wholeField? site' key change = .ok n) (hm : wholeField site key species = .ok m) :
    wholeField site key target = .ok (n.getD m) := by
  have hm' : wholeField? site key species = .ok (some m) :=
    wholeField?_eq_ok_iff.2 (.inr ⟨m, wholeField_eq_ok_iff.1 hm, rfl⟩)
  unfold wholeField
  rw [wholeField?_orElse h hn hm']
  cases n <;> rfl

section Sections

variable {r : Record α}

/-- All but species and changes is as it was. -/
theorem member_overridesWritten {key : String}
    (h : (key : Text) ∉ (["species", "overrides"] : List Text)) :
    Json.member key (overridesWritten r) = Json.member key r := by
  rw [List.mem_cons, List.mem_singleton, not_or] at h
  unfold overridesWritten
  rw [Json.member, Json.member?, Keyed.get?_erase, if_neg h.2]
  exact member_editItems_of_ne (Ne.symm h.1)

theorem sectionItems_overrides_overridesWritten :
    sectionItems "overrides" (overridesWritten r) = .ok [] := by
  have hmember : Json.member "overrides" (overridesWritten r) = .null := by
    unfold overridesWritten
    rw [Json.member, Json.member?, Keyed.get?_erase, if_pos rfl, Option.getD_none]
  rw [sectionItems, hmember]

theorem requiredItems_species_overridesWritten {items : List (Json α)}
    (h : requiredItems "species" r = .ok items) :
    requiredItems "species" (overridesWritten r) = .ok (items.map (writeLastChange r)) := by
  rw [← requiredItems_editItems h]
  refine requiredItems_congr ?_
  unfold overridesWritten
  rw [Json.member, Json.member?, Keyed.get?_erase, if_neg (by decide)]
  rfl

end Sections

variable [Numeral α]

theorem amountField_eq_ok_iff {site : Site} {key : String} {r : Record α} {a : Number α × α} :
    amountField site key r = .ok a ↔ (Json.member key r).amount? = .ok a := by
  unfold amountField
  dsimp only
  split <;> simp_all

theorem readStats_eq_ok_iff {site : Site} {r : Record α} {stats : Stats (Number α)} :
    readStats site r = .ok stats ↔
      ∃ source, statsRecord site r = .ok source ∧ ∀ stat : Stat,
        ∃ x, (Json.member stat.key source).amount? = .ok (stats.get stat, x) := by
  unfold readStats
  rw [bind_eq_ok]
  refine exists_congr fun source => and_congr_right fun _ => ⟨fun h stat => ?_, fun h => ?_⟩
  · obtain ⟨⟨n, x⟩, ha, hn⟩ := map_eq_ok.1 (Stats.ofFnM_eq_ok h stat)
    rw [amountField_eq_ok_iff] at ha
    exact ⟨x, hn ▸ ha⟩
  · refine Stats.ofFnM_of_get fun stat => ?_
    obtain ⟨x, hx⟩ := h stat
    exact map_eq_ok.2 ⟨_, amountField_eq_ok_iff.2 hx, rfl⟩

/-- What a record says that is read to a change. -/
structure Says (r : Record α) (c : SpeciesChange α) : Prop where
  species (site : Site) : wholeField site "species_id" r = .ok c.speciesId
  type1 (site : Site) : wholeField? site "type1_id" r = .ok c.type1
  type2 (site : Site) : wholeField? site "type2_id" r = .ok c.type2
  stats (stat : Stat) :
    (Json.member stat.key r = .null ∧ c.stats.get stat = none) ∨
      ∃ n x, (Json.member stat.key r).amount? = .ok (n, x) ∧ c.stats.get stat = some n

theorem says_of_readChange {site : Site} {v : Json α} {c : SpeciesChange α}
    (h : readChange site v = .ok c) : ∃ r, v = .object r ∧ Says r c := by
  have hsite {key : String} {r : Record α} {n : Option Int}
      (h : wholeField? site key r = .ok n) (site' : Site) : wholeField? site' key r = .ok n :=
    wholeField?_eq_ok_iff.2 (wholeField?_eq_ok_iff.1 h)
  unfold readChange at h
  obtain ⟨r, hr, h⟩ := bind_eq_ok.1 h
  obtain ⟨stats, hstats, h⟩ := bind_eq_ok.1 h
  obtain ⟨species, hspecies, h⟩ := bind_eq_ok.1 h
  obtain ⟨type1, htype1, h⟩ := bind_eq_ok.1 h
  obtain ⟨type2, htype2, h⟩ := bind_eq_ok.1 h
  cases h
  refine ⟨r, asRecord_eq_ok.1 hr,
    fun _ => wholeField_eq_ok_iff.2 (wholeField_eq_ok_iff.1 hspecies), hsite htype1, hsite htype2,
    fun stat => ?_⟩
  have hstat := Stats.ofFnM_eq_ok hstats stat
  split at hstat
  · rename_i hnull
    exact .inl ⟨hnull, (Except.ok.inj hstat).symm⟩
  · obtain ⟨⟨n, x⟩, ha, hn⟩ := map_eq_ok.1 hstat
    exact .inr ⟨n, x, amountField_eq_ok_iff.1 ha, hn.symm⟩

/-- The stats of a species with a change written into it. -/
theorem readStats_writeChange {site : Site} {change species : Record α} {c : SpeciesChange α}
    {stats : Stats (Number α)} (hc : Says change c) (h : readStats site species = .ok stats) :
    readStats site (writeChange change species) =
      .ok (.ofFn fun stat => (c.stats.get stat).getD (stats.get stat)) := by
  obtain ⟨source, hsource, hstats⟩ := readStats_eq_ok_iff.1 h
  obtain ⟨source', hsource', hmember⟩ := statsRecord_writeChange change hsource
  refine readStats_eq_ok_iff.2 ⟨source', hsource', fun stat => ?_⟩
  rw [hmember, Stats.get_ofFn]
  rcases hc.stats stat with ⟨hnull, hnone⟩ | ⟨n, x, hn, hsome⟩
  · rw [hnull, hnone]
    exact hstats stat
  · rw [hsome]
    refine ⟨x, ?_⟩
    obtain ⟨hv, -⟩ := Json.amount?_eq_ok_iff.1 hn
    rw [hv] at hn ⊢
    exact hn

/-- A species with a change written into it is read to the changed species. -/
theorem readSpecies_writeChange {site : Site} {change species : Record α} {c : SpeciesChange α}
    {s : Species α} (hc : Says change c) (h : readSpecies site (.object species) = .ok s) :
    readSpecies site (.object (writeChange change species)) = .ok (s.changedBy c) := by
  unfold readSpecies at h
  obtain ⟨r, hr, h⟩ := bind_eq_ok.1 h
  obtain ⟨id, hid, h⟩ := bind_eq_ok.1 h
  obtain ⟨name, hname, h⟩ := bind_eq_ok.1 h
  obtain ⟨type1, htype1, h⟩ := bind_eq_ok.1 h
  obtain ⟨type2, htype2, h⟩ := bind_eq_ok.1 h
  obtain ⟨stats, hstats, h⟩ := bind_eq_ok.1 h
  obtain ⟨dex, hdex, h⟩ := bind_eq_ok.1 h
  obtain ⟨tags, htags, h⟩ := bind_eq_ok.1 h
  cases h
  cases hr
  have hother {key : String} (hkey : (key : Text) ∉ changedKeys) :=
    member_writeChange_of_notMem hkey change species
  have hid' : wholeField site "id" (writeChange change species) = .ok id := by
    rw [wholeField_eq_ok_iff, hother (by decide), ← wholeField_eq_ok_iff, hid]
  have hname' : nameField site (writeChange change species) = .ok name := by
    rw [nameField, textField?, hother (by decide), ← hname]
    rfl
  have hdex' : wholeField? site "dex_number" (writeChange change species) = .ok dex := by
    rw [wholeField?, hother (by decide), ← hdex]
    rfl
  have htags' : tagsField site (writeChange change species) = .ok tags := by
    rw [tagsField, hother (by decide), ← htags]
    rfl
  have htype1' := wholeField_orElse (member_type1_writeChange change species) (hc.type1 site) htype1
  have htype2' :=
    wholeField?_orElse (member_type2_writeChange change species) (hc.type2 site) htype2
  unfold readSpecies
  refine bind_eq_ok.2 ⟨_, rfl, bind_eq_ok.2 ⟨id, hid', bind_eq_ok.2 ⟨name, hname',
    bind_eq_ok.2 ⟨_, htype1', bind_eq_ok.2 ⟨_, htype2', bind_eq_ok.2
      ⟨_, readStats_writeChange hc hstats, bind_eq_ok.2 ⟨dex, hdex',
        bind_eq_ok.2 ⟨tags, htags', rfl⟩⟩⟩⟩⟩⟩⟩⟩

/-! ### The document -/

section Document

variable {r : Record α} {changes : List (SpeciesChange α)}
  (hchanges : (sectionItems "overrides" r >>= readItems "overrides" readChange) = .ok changes)

include hchanges in
/-- Of the changes of a species the game keeps the last one. -/
theorem rel_lastChange? (id : Int) :
    Option.Rel (fun v c => ∃ change, v = .object change ∧ Says change c) (lastChange? r id)
      (Keyed.get? id (.ofList (changes.map fun c => (c.speciesId, c)))) := by
  obtain ⟨items, hitems, hread⟩ := bind_eq_ok.1 hchanges
  have hget : Keyed.get? id (.ofList (changes.map fun c => (c.speciesId, c))) =
      changes.reverse.find? fun c => decide (c.speciesId = id) := by
    rw [Keyed.get?_ofList, ← List.map_reverse, List.find?_map, Option.map_map]
    exact Option.map_id'
  rw [hget, lastChange?, itemsAt_of_sectionItems hitems]
  refine rel_find? (List.rel_reverse ((forall₂_of_readItems hread).imp
    fun v c ⟨site, hv⟩ => says_of_readChange hv)) fun v c ⟨change, hv, hc⟩ => ?_
  have hspecies : wholeAt? "species_id" (.object change) = some c.speciesId :=
    wholeAt?_object.2 (wholeField_eq_ok_iff.1 (hc.species ⟨"overrides", 0⟩))
  rw [hv, hspecies]
  exact decide_eq_decide.2 Option.some_inj

include hchanges in
theorem readSpecies_writeLastChange {site : Site} {v : Json α} {s : Species α}
    (h : readSpecies site v = .ok s) :
    readSpecies site (writeLastChange r v) =
      .ok (s.settled (.ofList (changes.map fun c => (c.speciesId, c)))) := by
  have hrel := rel_lastChange? hchanges s.id
  unfold writeLastChange Species.settled
  rw [wholeAt?_of_readSpecies h, Option.bind_some]
  generalize lastChange? r s.id = change at hrel
  generalize Keyed.get? s.id (.ofList (changes.map fun c => (c.speciesId, c))) = c at hrel
  cases hrel with
  | none => exact h
  | some hsays =>
    obtain ⟨members, rfl, hc⟩ := hsays
    cases v with
    | object species => exact readSpecies_writeChange hc h
    | _ => cases h

theorem readRoll_overridesWritten {roll : Roll α} (h : readRoll r = .ok roll) :
    readRoll (overridesWritten r) =
      .ok { roll with
        species := roll.species.map fun e => (e.1, e.2.settled roll.changes), changes := [] } := by
  obtain ⟨species, abilities, items, changes, hs, ha, hi, hc, rfl⟩ := readRoll_eq_ok_iff.1 h
  obtain ⟨speciesItems, hspeciesItems, hs⟩ := bind_eq_ok.1 hs
  have hother {key : String} (hkey : (key : Text) ∉ (["species", "overrides"] : List Text)) :
      sectionItems key (overridesWritten r) = sectionItems key r :=
    sectionItems_congr (member_overridesWritten hkey)
  have hs' := readItems_map (fun _ _ _ => readSpecies_writeLastChange hc) hs
  rw [← hother (by decide)] at ha hi
  refine readRoll_eq_ok_iff.2 ⟨_, abilities, items, [],
    bind_eq_ok.2 ⟨_, requiredItems_species_overridesWritten hspeciesItems, hs'⟩, ha, hi,
    bind_eq_ok.2 ⟨[], sectionItems_overrides_overridesWritten, rfl⟩, ?_⟩
  rw [← Keyed.ofList_map, List.map_map, List.map_map]
  simp only [Function.comp_def, Species.settled_id]
  rfl

end Document

/-- The number that a value has under a key, if it is an object with one there. -/
def numberAt? (key : String) : Json α → Option (Number α)
  | .object r =>
    match Json.member key r with
    | .number n => some n
    | _ => none
  | _ => none

/-- A species, and what a record makes of it: types and stats are those that the record has, and the
species' own where it has none. -/
structure ChangedAs (record : Option (Json α)) (s s' : Species α) : Prop where
  type1 : s'.type1 = (record.bind (wholeAt? "type1_id")).getD s.type1
  type2 : s'.type2 = (record.bind (wholeAt? "type2_id")).or s.type2
  stats (stat : Stat) :
    s'.stats.get stat = (record.bind (numberAt? stat.key)).getD (s.stats.get stat)
  own : s'.id = s.id ∧ s'.name = s.name ∧ s'.dexNumber = s.dexNumber ∧ s'.tags = s.tags

theorem Says.numberAt? {r : Record α} {c : SpeciesChange α} (h : Says r c) (stat : Stat) :
    Game.numberAt? stat.key (.object r) = c.stats.get stat := by
  unfold Game.numberAt?
  dsimp only
  rcases h.stats stat with ⟨hnull, hnone⟩ | ⟨n, x, hn, hsome⟩
  · rw [hnull, hnone]
  · obtain ⟨hv, -⟩ := Json.amount?_eq_ok_iff.1 hn
    rw [hv, hsome]

theorem changedAs_settled {changes : Keyed Int (SpeciesChange α)} {record : Option (Json α)}
    {s : Species α}
    (h : Option.Rel (fun v c => ∃ change, v = .object change ∧ Says change c) record
      (Keyed.get? s.id changes)) : ChangedAs record s (s.settled changes) := by
  have hown := And.intro (Species.settled_id changes s) (And.intro (Species.settled_name changes s)
    (And.intro (Species.settled_dexNumber changes s) (Species.settled_tags changes s)))
  rw [Species.settled_eq] at hown ⊢
  generalize Keyed.get? s.id changes = c at h hown ⊢
  cases h with
  | none => exact ⟨rfl, rfl, fun _ => rfl, hown⟩
  | some hsays =>
    obtain ⟨change, rfl, hc⟩ := hsays
    refine ⟨?_, ?_, fun stat => ?_, hown⟩
    · rw [Option.bind_some, wholeAt?_of_wholeField? (hc.type1 ⟨"overrides", 0⟩)]
      rfl
    · rw [Option.bind_some, wholeAt?_of_wholeField? (hc.type2 ⟨"overrides", 0⟩)]
      rfl
    · rw [Option.bind_some, hc.numberAt?]
      exact Stats.get_ofFn _ stat

/-- A document whose last changes are written into its species, with none left, is read if it was
read before, and box, team and warnings come to the same under all settings. The species have the
types and stats that the last change of them has, and their own where it has none. -/
theorem outcome_overridesWritten {given : Option Text} {r : Record α} {g : Game α}
    (h : (read given (.object r)).result = .ok g) :
    ∃ g', (read given (.object (overridesWritten r))).result = .ok g' ∧ g'.changes = [] ∧
      g'.settings = g.settings ∧
      (∀ settings, Analyzer.outcome settings g' = Analyzer.outcome settings g) ∧
      ∀ id s, Keyed.get? id g.species = some s →
        ∃ s', Keyed.get? id g'.species = some s' ∧ ChangedAs (lastChange? r id) s s' := by
  obtain ⟨types, chart, roll, entries, slots, settings, ht, hc, hr, he, hs, hset, rfl⟩ :=
    result_read_eq_ok_iff.1 h
  have hother {key : String} (hkey : (key : Text) ∉ (["species", "overrides"] : List Text)) :
      Json.member key (overridesWritten r) = Json.member key r := member_overridesWritten hkey
  have hr' := readRoll_overridesWritten hr
  rw [← readTypes_congr (hother (by decide))] at ht
  rw [← readChart_congr (hother (by decide))] at hc
  rw [← sectionItems_congr (hother (by decide))] at he
  rw [← teamItems_congr (hother (by decide))] at hs
  rw [← hother (by decide)] at hset
  have hspecies : hasSpecies (roll.species.map fun e => (e.1, e.2.settled roll.changes)) =
      hasSpecies roll.species := by
    funext e
    rw [hasSpecies, Keyed.get?_map, Option.isSome_map]
    rfl
  refine ⟨settled _, result_read_eq_ok_iff.2 ⟨types, chart, _, entries, slots, settings, ht, hc,
    hr', he, hs, hset, ?_⟩, rfl, rfl, fun settings' => Analyzer.outcome_settled settings' _,
    fun id s hget => ⟨s.settled roll.changes, ?_, ?_⟩⟩
  · rw [hspecies, nameOf_congr (hother (by decide))]
    rfl
  · exact (Keyed.get?_map _ id roll.species).trans (congrArg (Option.map _) hget)
  · obtain ⟨species, abilities, items, changes, -, -, -, hchanges, rfl⟩ :=
      readRoll_eq_ok_iff.1 hr
    obtain ⟨s', -, hs'⟩ := List.mem_map.1 (Keyed.mem_ofList (Keyed.mem_of_get? hget))
    obtain ⟨rfl, rfl⟩ := Prod.mk.inj hs'
    exact changedAs_settled (rel_lastChange? hchanges s'.id)

/-- One value for all stats, as members of a record. -/
def statMembers (n : Int) : List (String × Json Float) :=
  Stat.all.map fun stat => (stat.key, .number (.whole n))

/-- A document with two changes of one species, of which the last one has nulls, a change of a
species that keeps its stats in a record of their own, and one of a species that is not there. -/
def changedMembers : Record Float :=
  [("types", .array
      [.record [("id", .number (.whole 1)), ("name", .string "Plain")],
        .record [("id", .number (.whole 2)), ("name", .string "Odd")]]),
    ("species", .array
      [.record ([("id", .number (.whole 1)), ("name", .string "Flat"),
          ("type1_id", .number (.whole 1))] ++ statMembers 80),
        .record [("id", .number (.whole 2)), ("name", .string "Nested"),
          ("type1_id", .number (.whole 1)), ("stats", .record (statMembers 60))]]),
    ("overrides", .array
      [.record (("species_id", .number (.whole 1)) :: statMembers 10),
        .record [("species_id", .number (.whole 1)), ("type1_id", .null),
          ("type2_id", .number (.whole 2)), ("hp", .number (.whole 100)), ("spe", .null)],
        .record [("species_id", .number (.whole 2)), ("spe", .number (.whole 5))],
        .record [("species_id", .number (.whole 9))]]),
    ("box", .array
      [.record [("id", .number (.whole 1)), ("species_id", .number (.whole 1))],
        .record [("id", .number (.whole 2)), ("species_id", .number (.whole 2))]])]

def flatSpecies : Species Float := ⟨1, "Flat", 1, none, .const (.whole 80), 1, []⟩

theorem read_changedMembers :
    ∃ g, (read none (.object changedMembers)).result = .ok g ∧ g.changes.keys = [1, 2, 9] ∧
      Keyed.get? 1 g.species = some flatSpecies := by
  have h : (read none (.object changedMembers)).result.toOption.map
      (fun g => (g.changes.keys, Keyed.get? 1 g.species)) = some ([1, 2, 9], some flatSpecies) := by
    decide +kernel
  obtain ⟨g, hg, hgame⟩ := Option.map_eq_some_iff.1 h
  exact ⟨g, toOption_eq_some.1 hg, congrArg Prod.fst hgame, congrArg Prod.snd hgame⟩

/-- Of the first species only the second type and one stat are other than its own. -/
theorem outcome_overridesWritten_changed :
    ∃ g g' : Game Float, (read none (.object changedMembers)).result = .ok g ∧
      g.changes.keys = [1, 2, 9] ∧
      (read none (.object (overridesWritten changedMembers))).result = .ok g' ∧
      g'.changes = [] ∧ (∀ settings, Analyzer.outcome settings g' = Analyzer.outcome settings g) ∧
      ∃ s, Keyed.get? 1 g'.species = some s ∧ s.type1 = 1 ∧ s.type2 = some 2 ∧
        s.stats = (Stats.const (.whole 80)).set .hp (.whole 100) := by
  obtain ⟨g, hg, hchanges, hflat⟩ := read_changedMembers
  obtain ⟨g', hg', hnone, -, houtcome, hspecies⟩ := outcome_overridesWritten hg
  obtain ⟨s, hs, hchanged⟩ := hspecies 1 flatSpecies hflat
  refine ⟨g, g', hg, hchanges, hg', hnone, houtcome, s, hs, hchanged.type1, hchanged.type2,
    Stats.ext_get fun stat => (hchanged.stats stat).trans ?_⟩
  cases stat <;> rfl

end Game

end Roster
