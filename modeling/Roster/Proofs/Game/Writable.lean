import Roster.Proofs.Game.Sections
import Roster.Proofs.Game.WellFormed
import Roster.Proofs.Json.Writable

/-!
# Games of documents that can be shown

Where no whole number of a document is too long to be written, neither is the id of a type of its
game, be it that of a species or that of a change.
-/

namespace Roster

variable {α : Type}

/-- Whether the types of a box entry's creature can be shown: no id of them is too long to be
written. -/
def Game.ShowsTypes (g : Game α) (e : BoxEntry) : Prop :=
  ∀ species ∈ Keyed.get? e.speciesId g.species,
    let form := species.formUnder (Keyed.get? species.id g.changes)
    ∀ id ∈ form.type1 :: form.type2.toList, (Decimal.wholeText? id).isSome

namespace Game

/-! ### Fields -/

section Fields

variable {site : Site} {key : String} {r : Record α} (hr : (Json.object r).isWritable = true)

include hr

theorem isSome_wholeText?_of_wholeField? {n : Option Int} (h : wholeField? site key r = .ok n) :
    ∀ id ∈ n, (Decimal.wholeText? id).isSome := by
  have hmember := Json.isWritable_member hr key
  unfold wholeField? at h
  split at h
  · cases h
    exact fun id hid => by cases hid
  · rename_i m hm
    cases h
    rintro id ⟨⟩
    rw [hm] at hmember
    exact hmember
  · cases h

theorem isSome_wholeText?_of_wholeField {n : Int} (h : wholeField site key r = .ok n) :
    (Decimal.wholeText? n).isSome := by
  obtain ⟨m, hm, h⟩ := bind_eq_ok.1 h
  cases m with
  | none => cases h
  | some m =>
    cases h
    exact isSome_wholeText?_of_wholeField? hr hm _ rfl

theorem isWritable_of_mem_itemsAt {v : Json α} (hv : v ∈ itemsAt key r) : v.isWritable = true := by
  have hmember := Json.isWritable_member hr key
  unfold itemsAt at hv
  split at hv
  · rename_i items hitems
    rw [hitems, Json.isWritable] at hmember
    exact Json.areWritable_iff.1 hmember v hv
  · cases hv

end Fields

/-! ### Types of species and changes -/

section Types

variable [Numeral α] {site : Site} {v : Json α} (hv : v.isWritable = true)

include hv

theorem types_of_readSpecies {s : Species α} (h : readSpecies site v = .ok s) :
    ∀ id ∈ s.type1 :: s.type2.toList, (Decimal.wholeText? id).isSome := by
  unfold readSpecies at h
  obtain ⟨r, hr, h⟩ := bind_eq_ok.1 h
  obtain ⟨id, -, h⟩ := bind_eq_ok.1 h
  obtain ⟨name, -, h⟩ := bind_eq_ok.1 h
  obtain ⟨type1, htype1, h⟩ := bind_eq_ok.1 h
  obtain ⟨type2, htype2, h⟩ := bind_eq_ok.1 h
  obtain ⟨stats, -, h⟩ := bind_eq_ok.1 h
  obtain ⟨dexNumber, -, h⟩ := bind_eq_ok.1 h
  obtain ⟨tags, -, h⟩ := bind_eq_ok.1 h
  cases h
  obtain rfl := asRecord_eq_ok.1 hr
  refine List.forall_mem_cons.2 ⟨isSome_wholeText?_of_wholeField hv htype1, fun id hid => ?_⟩
  exact isSome_wholeText?_of_wholeField? hv htype2 id (Option.mem_toList.1 hid)

theorem types_of_readChange {c : SpeciesChange α} (h : readChange site v = .ok c) :
    ∀ id ∈ c.type1.toList ++ c.type2.toList, (Decimal.wholeText? id).isSome := by
  unfold readChange at h
  obtain ⟨r, hr, h⟩ := bind_eq_ok.1 h
  obtain ⟨stats, -, h⟩ := bind_eq_ok.1 h
  obtain ⟨speciesId, -, h⟩ := bind_eq_ok.1 h
  obtain ⟨type1, htype1, h⟩ := bind_eq_ok.1 h
  obtain ⟨type2, htype2, h⟩ := bind_eq_ok.1 h
  cases h
  obtain rfl := asRecord_eq_ok.1 hr
  intro id hid
  rcases List.mem_append.1 hid with hid | hid
  · exact isSome_wholeText?_of_wholeField? hv htype1 id (Option.mem_toList.1 hid)
  · exact isSome_wholeText?_of_wholeField? hv htype2 id (Option.mem_toList.1 hid)

end Types

/-- What a change does not give stays. -/
theorem mem_types_formUnder {s : Species α} {change : Option (SpeciesChange α)} {id : Int}
    (h : id ∈ (s.formUnder change).type1 :: (s.formUnder change).type2.toList) :
    id ∈ s.type1 :: s.type2.toList ∨ ∃ c ∈ change, id ∈ c.type1.toList ++ c.type2.toList := by
  cases change with
  | none => exact .inl h
  | some c =>
    change id ∈ c.type1.getD s.type1 :: (c.type2.or s.type2).toList at h
    cases h1 : c.type1 <;> cases h2 : c.type2 <;> simp_all
    all_goals tauto

/-- A game that is read from a document that can be shown has creatures whose types can be shown. -/
theorem showsTypes_of_read [Numeral α] {v : Json α} (hv : v.isWritable = true)
    {given : Option Text} {g : Game α} (h : (read given v).result = .ok g) (e : BoxEntry) :
    g.ShowsTypes e := by
  cases v with
  | object r =>
    obtain ⟨types, chart, roll, entries, slots, settings, -, -, hr, -, -, -, rfl⟩ :=
      result_read_eq_ok_iff.1 h
    obtain ⟨species, abilities, items, changes, hspecies, -, -, hchanges, rfl⟩ :=
      readRoll_eq_ok_iff.1 hr
    obtain ⟨speciesItems, hspeciesItems, hspecies⟩ := bind_eq_ok.1 hspecies
    obtain ⟨changeItems, hchangeItems, hchanges⟩ := bind_eq_ok.1 hchanges
    intro s hs _ id hid
    rcases mem_types_formUnder hid with hid | ⟨c, hc, hid⟩
    · obtain ⟨s', hmem, hs'⟩ := List.mem_map.1 (Keyed.mem_ofList (Keyed.mem_of_get? hs))
      obtain ⟨site, w, hw, hread⟩ := mem_readItems hspecies hmem
      rw [← itemsAt_of_requiredItems hspeciesItems] at hw
      obtain rfl := congrArg Prod.snd hs'
      exact types_of_readSpecies (isWritable_of_mem_itemsAt hv hw) hread id hid
    · obtain ⟨c', hmem, hc'⟩ := List.mem_map.1 (Keyed.mem_ofList (Keyed.mem_of_get? hc))
      obtain ⟨site, w, hw, hread⟩ := mem_readItems hchanges hmem
      rw [← itemsAt_of_sectionItems hchangeItems] at hw
      obtain rfl := congrArg Prod.snd hc'
      exact types_of_readChange (isWritable_of_mem_itemsAt hv hw) hread id hid
  | _ => cases h

end Game

end Roster
