/-!
# Entries by key

A finite map that remembers the order in which its keys came. Putting a value under a key that is
already there keeps the key's place.
-/

namespace Roster

/-- Entries by key, in the order in which the keys were first put. -/
abbrev Keyed (κ β : Type) := List (κ × β)

namespace Keyed

variable {κ β : Type} [DecidableEq κ]

/-- The value under a key. -/
def get? (k : κ) : Keyed κ β → Option β
  | [] => none
  | (k', v) :: rest => if k' = k then some v else get? k rest

/-- Puts a value under a key, in the key's place if it has one. -/
def put (k : κ) (v : β) : Keyed κ β → Keyed κ β
  | [] => [(k, v)]
  | (k', v') :: rest => if k' = k then (k, v) :: rest else (k', v') :: put k v rest

/-- Takes a key out. -/
def erase (k : κ) (m : Keyed κ β) : Keyed κ β := m.filter fun e => e.1 ≠ k

/-- The keys in their order. -/
def keys (m : Keyed κ β) : List κ := m.map Prod.fst

/-- The values in the order of their keys. -/
def values (m : Keyed κ β) : List β := m.map Prod.snd

/-- The map that a list of entries fills, a later entry replacing an earlier one of its key. -/
def ofList (entries : List (κ × β)) : Keyed κ β :=
  entries.foldl (fun m e => put e.1 e.2 m) []

@[simp] theorem get?_nil (k : κ) : get? k ([] : Keyed κ β) = none := rfl

/-- Keeping the entries of some keys keeps what stands under them. -/
theorem get?_filter_key (p : κ → Bool) (k : κ) (m : Keyed κ β) :
    get? k (m.filter fun e => p e.1) = if p k then get? k m else none := by
  induction m with
  | nil => simp [get?]
  | cons e rest ih =>
    by_cases he : e.1 = k
    · subst he
      by_cases hp : p e.1
      · simp [get?, hp]
      · simp [hp, ih]
    · by_cases hp : p e.1
      · simp [get?, he, hp, ih]
      · simp [get?, he, hp, ih]

@[simp] theorem get?_put_self (k : κ) (v : β) (m : Keyed κ β) : get? k (put k v m) = some v := by
  induction m with
  | nil => simp [put, get?]
  | cons e rest ih =>
    unfold put
    split
    · simp [get?]
    · rename_i h
      simp [get?, h, ih]

theorem get?_put_of_ne {k k' : κ} (h : k' ≠ k) (v : β) (m : Keyed κ β) :
    get? k (put k' v m) = get? k m := by
  induction m with
  | nil => simp [put, get?, h]
  | cons e rest ih =>
    unfold put
    split
    · rename_i he
      have : e.1 ≠ k := by rw [he]; exact h
      simp [get?, h, this]
    · simp [get?, ih]

/-- A put value hides what was there and nothing else. -/
theorem get?_put (k k' : κ) (v : β) (m : Keyed κ β) :
    get? k (put k' v m) = if k' = k then some v else get? k m := by
  split
  · rename_i h
    subst h
    exact get?_put_self ..
  · rename_i h
    exact get?_put_of_ne h v m

/-- A new key comes last; one that is there keeps its place. -/
theorem keys_put (k : κ) (v : β) (m : Keyed κ β) :
    keys (put k v m) = if k ∈ keys m then keys m else keys m ++ [k] := by
  induction m with
  | nil => rfl
  | cons e rest ih =>
    have hkeys : keys (e :: rest) = e.1 :: keys rest := rfl
    unfold put
    split
    · rename_i h
      simp [keys, h]
    · rename_i h
      have hne : k ≠ e.1 := Ne.symm h
      change e.1 :: keys (put k v rest) = _
      rw [ih, hkeys]
      by_cases hk : k ∈ keys rest <;> simp [hk, hne]

/-- Keys stay apart. -/
theorem nodup_keys_put {k : κ} {v : β} {m : Keyed κ β} (h : (keys m).Nodup) :
    (keys (put k v m)).Nodup := by
  rw [keys_put]
  split
  · exact h
  · rename_i hk
    refine List.nodup_append.2 ⟨h, List.pairwise_singleton _ k, fun x hx y hy hxy => hk ?_⟩
    rw [← List.mem_singleton.1 hy, ← hxy]
    exact hx

theorem get?_isSome_iff {k : κ} {m : Keyed κ β} : (get? k m).isSome ↔ k ∈ keys m := by
  induction m with
  | nil => simp [keys]
  | cons e rest ih =>
    unfold get?
    split
    · rename_i h
      simp [keys, h]
    · rename_i h
      rw [ih]
      simp only [keys, List.map_cons, List.mem_cons]
      grind

theorem mem_of_get? {k : κ} {v : β} {m : Keyed κ β} (h : get? k m = some v) : (k, v) ∈ m := by
  induction m with
  | nil => cases h
  | cons e rest ih =>
    unfold get? at h
    split at h
    · rename_i hk
      obtain rfl := Option.some.inj h
      rw [← hk]
      exact List.mem_cons_self
    · exact List.mem_cons_of_mem e (ih h)

/-- A map whose keys are apart is told by its keys and by what it shows under them. -/
theorem eq_map_keys {m : Keyed κ β} (h : (keys m).Nodup) (default : β) :
    m = (keys m).map fun k => (k, (get? k m).getD default) := by
  induction m with
  | nil => rfl
  | cons e rest ih =>
    obtain ⟨k, v⟩ := e
    simp only [keys, List.map_cons, List.nodup_cons] at h ih ⊢
    refine List.cons_eq_cons.2 ⟨by simp [get?], ?_⟩
    refine (ih h.2).trans (List.map_congr_left fun k' hk' => ?_)
    have hne : k ≠ k' := fun he => h.1 (he ▸ hk')
    rw [get?, if_neg hne]

theorem mem_put {k : κ} {v : β} {m : Keyed κ β} {e : κ × β} (h : e ∈ put k v m) :
    e = (k, v) ∨ e ∈ m := by
  induction m with
  | nil => exact Or.inl (List.mem_singleton.1 h)
  | cons e' rest ih =>
    unfold put at h
    split at h
    · rcases List.mem_cons.1 h with h | h
      · exact Or.inl h
      · exact Or.inr (List.mem_cons_of_mem e' h)
    · rcases List.mem_cons.1 h with h | h
      · exact Or.inr (h ▸ List.mem_cons_self)
      · exact (ih h).imp_right (List.mem_cons_of_mem e')

/-- A filled map has no other entries than those that it was filled with. -/
theorem mem_ofList {entries : List (κ × β)} {e : κ × β} (h : e ∈ ofList entries) : e ∈ entries := by
  suffices hm : ∀ m : Keyed κ β, e ∈ entries.foldl (fun m e => put e.1 e.2 m) m →
      e ∈ m ∨ e ∈ entries by
    exact (hm [] h).resolve_left (List.not_mem_nil)
  clear h
  induction entries with
  | nil => exact fun m hm => Or.inl hm
  | cons e' rest ih =>
    intro m hm
    rcases ih _ hm with h | h
    · rcases mem_put h with rfl | h
      · exact Or.inr List.mem_cons_self
      · exact Or.inl h
    · exact Or.inr (List.mem_cons_of_mem e' h)

/-- The last entry of a key is the one that a filled map shows. -/
theorem get?_ofList (k : κ) (entries : List (κ × β)) :
    get? k (ofList entries) = (entries.reverse.find? fun e => e.1 = k).map Prod.snd := by
  suffices h : ∀ m : Keyed κ β, get? k (entries.foldl (fun m e => put e.1 e.2 m) m) =
      ((entries.reverse.find? fun e => e.1 = k).map Prod.snd).or (get? k m) by
    simpa [ofList] using h []
  induction entries with
  | nil => simp
  | cons e rest ih =>
    intro m
    simp only [List.foldl_cons, List.reverse_cons, List.find?_append, ih, get?_put]
    by_cases h : e.1 = k
    · simp [h]
    · simp [h]

theorem isSome_get?_ofList {k : κ} {entries : List (κ × β)} :
    (get? k (ofList entries)).isSome ↔ k ∈ entries.map Prod.fst := by
  rw [get?_ofList, Option.isSome_map, List.find?_isSome]
  simp

theorem mem_keys_ofList {k : κ} {entries : List (κ × β)} :
    k ∈ keys (ofList entries) ↔ k ∈ entries.map Prod.fst :=
  get?_isSome_iff.symm.trans isSome_get?_ofList

/-- The keys of a filled map are apart. -/
theorem nodup_keys_ofList (entries : List (κ × β)) : (keys (ofList entries)).Nodup := by
  suffices h : ∀ m : Keyed κ β, (keys m).Nodup →
      (keys (entries.foldl (fun m e => put e.1 e.2 m) m)).Nodup from h [] List.nodup_nil
  induction entries with
  | nil => exact fun m hm => hm
  | cons e rest ih => exact fun m hm => ih _ (nodup_keys_put hm)

end Keyed

end Roster
