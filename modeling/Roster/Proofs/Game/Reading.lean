import Roster.Game.Document

/-!
# Reading step by step

A document is read by steps of which the first that fails decides. A sequence of steps succeeds if
all of them do; it fails as one of them does, if those before it succeed.
-/

namespace Roster

section Steps

variable {ε β γ : Type}

theorem bind_eq_ok {x : Except ε β} {f : β → Except ε γ} {c : γ} :
    x >>= f = .ok c ↔ ∃ b, x = .ok b ∧ f b = .ok c := by
  cases x with
  | error e =>
    constructor
    · intro h
      cases h
    · rintro ⟨b, h, -⟩
      cases h
  | ok b =>
    constructor
    · intro h
      exact ⟨b, rfl, h⟩
    · rintro ⟨b', h, hf⟩
      cases h
      exact hf

theorem bind_eq_error {x : Except ε β} {f : β → Except ε γ} {e : ε} :
    x >>= f = .error e ↔ x = .error e ∨ ∃ b, x = .ok b ∧ f b = .error e := by
  cases x with
  | error e' =>
    constructor
    · intro h
      cases h
      exact Or.inl rfl
    · rintro (h | ⟨b, h, -⟩)
      · cases h
        rfl
      · cases h
  | ok b =>
    constructor
    · intro h
      exact Or.inr ⟨b, rfl, h⟩
    · rintro (h | ⟨b', h, hf⟩)
      · cases h
      · cases h
        exact hf

theorem toOption_eq_some {x : Except ε β} {b : β} : x.toOption = some b ↔ x = .ok b := by
  cases x with
  | error e => exact iff_of_false nofun nofun
  | ok b' => exact Option.some_inj.trans (Except.ok.injEq b' b).symm.to_iff

theorem mapError_eq_ok {x : Except ε β} {f : ε → γ} {b : β} :
    x.mapError f = .ok b ↔ x = .ok b := by
  cases x with
  | error e => exact iff_of_false nofun nofun
  | ok b' =>
    constructor
    · intro h
      cases h
      rfl
    · intro h
      cases h
      rfl

theorem map_eq_ok {x : Except ε β} {f : β → γ} {c : γ} :
    x.map f = .ok c ↔ ∃ b, x = .ok b ∧ f b = c := by
  cases x with
  | error e =>
    constructor
    · intro h
      cases h
    · rintro ⟨b, h, -⟩
      cases h
  | ok b =>
    constructor
    · intro h
      cases h
      exact ⟨b, rfl, rfl⟩
    · rintro ⟨b', h, rfl⟩
      cases h
      rfl

@[simp] theorem exists_map_eq_ok {x : Except ε β} {f : β → γ} :
    (∃ c, x.map f = .ok c) ↔ ∃ b, x = .ok b := by
  cases x <;> simp [Except.map]

theorem map_eq_error {x : Except ε β} {f : β → γ} {e : ε} :
    x.map f = .error e ↔ x = .error e := by
  cases x with
  | error e' =>
    constructor
    · intro h
      cases h
      rfl
    · intro h
      cases h
      rfl
  | ok b =>
    constructor
    · intro h
      cases h
    · intro h
      cases h

/-- Values that are found for all stats are found for each of them. -/
theorem Stats.ofFnM_eq_ok {f : Stat → Except ε β} {s : Stats β} (h : Stats.ofFnM f = .ok s)
    (stat : Stat) : f stat = .ok (s.get stat) := by
  unfold Stats.ofFnM at h
  obtain ⟨hp, h₁, h⟩ := bind_eq_ok.1 h
  obtain ⟨attack, h₂, h⟩ := bind_eq_ok.1 h
  obtain ⟨defense, h₃, h⟩ := bind_eq_ok.1 h
  obtain ⟨specialAttack, h₄, h⟩ := bind_eq_ok.1 h
  obtain ⟨specialDefense, h₅, h⟩ := bind_eq_ok.1 h
  obtain ⟨speed, h₆, h⟩ := bind_eq_ok.1 h
  cases h
  cases stat
  · exact h₁
  · exact h₂
  · exact h₃
  · exact h₄
  · exact h₅
  · exact h₆

/-- Values for all stats are found if each of them is. -/
theorem Stats.ofFnM_of_get {f : Stat → Except ε β} {s : Stats β}
    (h : ∀ stat, f stat = .ok (s.get stat)) : Stats.ofFnM f = .ok s := by
  unfold Stats.ofFnM
  rw [h .hp, h .attack, h .defense, h .specialAttack, h .specialDefense, h .speed]
  rfl

/-! ### Kinds of errors -/

variable {δ : Type} {P : ε → Prop}

/-- A step fails with an error of a kind. -/
def FailsWith (P : ε → Prop) (x : Except ε β) : Prop := ∃ e, x = .error e ∧ P e

@[simp] theorem not_failsWith_ok (b : β) : ¬ FailsWith P (.ok b) := by
  rintro ⟨e, h, -⟩
  cases h

@[simp] theorem not_failsWith_pure (b : β) : ¬ FailsWith P (pure b) := not_failsWith_ok b

@[simp] theorem failsWith_error {e : ε} : FailsWith P (.error e : Except ε β) ↔ P e := by
  constructor
  · rintro ⟨e', h, hp⟩
    cases h
    exact hp
  · intro hp
    exact ⟨e, rfl, hp⟩

/-- Of two steps the first fails, or the second after the first. -/
theorem failsWith_bind {x : Except ε β} {f : β → Except ε γ} :
    FailsWith P (x >>= f) ↔ FailsWith P x ∨ ∃ b, x = .ok b ∧ FailsWith P (f b) := by
  cases x with
  | error e =>
    change FailsWith P (.error e) ↔ _
    simp
  | ok b =>
    change FailsWith P (f b) ↔ _
    simp

@[simp] theorem failsWith_map {x : Except ε β} {f : β → γ} :
    FailsWith P (x.map f) ↔ FailsWith P x := by
  cases x <;> simp [Except.map]

@[simp] theorem failsWith_fmap {x : Except ε β} {f : β → γ} :
    FailsWith P (f <$> x) ↔ FailsWith P x :=
  failsWith_map

@[simp] theorem failsWith_mapError {Q : δ → Prop} {x : Except ε β} {f : ε → δ} :
    FailsWith Q (x.mapError f) ↔ FailsWith (fun e => Q (f e)) x := by
  cases x with
  | error e => rw [failsWith_error]; exact failsWith_error
  | ok b => exact iff_of_false (not_failsWith_ok b) (not_failsWith_ok b)

/-- A step that does not fail with errors of a kind gives a result, or an error of another kind. -/
theorem not_failsWith_iff {x : Except ε β} :
    ¬ FailsWith P x ↔ (∃ b, x = .ok b) ∨ ∃ e, x = .error e ∧ ¬ P e := by
  cases x <;> simp

/-- A step fails with errors of a kind only. -/
def FailsOnlyWith (P : ε → Prop) (x : Except ε β) : Prop := ∀ e, x = .error e → P e

@[simp] theorem failsOnlyWith_ok (b : β) : FailsOnlyWith P (.ok b) := by
  intro e h
  cases h

@[simp] theorem failsOnlyWith_pure (b : β) : FailsOnlyWith P (pure b) := failsOnlyWith_ok b

@[simp] theorem failsOnlyWith_error {e : ε} :
    FailsOnlyWith P (.error e : Except ε β) ↔ P e := by
  constructor
  · intro h
    exact h e rfl
  · intro hp e' h
    cases h
    exact hp

theorem FailsOnlyWith.bind {x : Except ε β} {f : β → Except ε γ} (hx : FailsOnlyWith P x)
    (hf : ∀ b, FailsOnlyWith P (f b)) : FailsOnlyWith P (x >>= f) := by
  intro e h
  rcases bind_eq_error.1 h with h | ⟨b, -, h⟩
  · exact hx e h
  · exact hf b e h

theorem FailsOnlyWith.map {x : Except ε β} (hx : FailsOnlyWith P x) (f : β → γ) :
    FailsOnlyWith P (x.map f) := by
  intro e h
  exact hx e (map_eq_error.1 h)

theorem FailsOnlyWith.mapError {Q : δ → Prop} {x : Except ε β} {f : ε → δ}
    (hx : FailsOnlyWith (fun e => Q (f e)) x) : FailsOnlyWith Q (x.mapError f) := by
  cases x with
  | error e => exact failsOnlyWith_error.2 (hx e rfl)
  | ok b => exact failsOnlyWith_ok b

theorem FailsOnlyWith.ofFnM {f : Stat → Except ε β} (hf : ∀ stat, FailsOnlyWith P (f stat)) :
    FailsOnlyWith P (Stats.ofFnM f) :=
  .bind (hf .hp) fun _ => .bind (hf .attack) fun _ => .bind (hf .defense) fun _ =>
    .bind (hf .specialAttack) fun _ => .bind (hf .specialDefense) fun _ =>
      .bind (hf .speed) fun _ => failsOnlyWith_pure _

/-- Steps for the items of a list fail as one of them does after those before it. -/
theorem failsWith_forM {ι : Type} {f : ι → Except ε β} {l : List ι} :
    FailsWith P (l.forM fun i => (f i).map fun _ => ()) ↔
      ∃ before i after, l = before ++ i :: after ∧ (∀ j ∈ before, ∃ b, f j = .ok b) ∧
        FailsWith P (f i) := by
  induction l with
  | nil =>
    constructor
    · intro h
      exact absurd h (not_failsWith_ok ())
    · rintro ⟨before, i, after, h, -⟩
      cases before <;> cases h
  | cons i rest ih =>
    refine failsWith_bind.trans ?_
    rw [failsWith_map, ih]
    constructor
    · rintro (h | ⟨⟨⟩, hi, before, j, after, rfl, hbefore, hj⟩)
      · exact ⟨[], i, rest, rfl, fun _ h => absurd h List.not_mem_nil, h⟩
      · obtain ⟨b, hb, -⟩ := map_eq_ok.1 hi
        exact ⟨i :: before, j, after, rfl, List.forall_mem_cons.2 ⟨⟨b, hb⟩, hbefore⟩, hj⟩
    · rintro ⟨before, j, after, h, hbefore, hj⟩
      cases before with
      | nil =>
        cases h
        exact Or.inl hj
      | cons k before =>
        cases h
        obtain ⟨⟨b, hb⟩, hbefore⟩ := List.forall_mem_cons.1 hbefore
        exact Or.inr ⟨(), map_eq_ok.2 ⟨b, hb, rfl⟩, before, j, after, rfl, hbefore, hj⟩

/-- Of the stats the first that fails counts. -/
theorem failsWith_ofFnM {f : Stat → Except ε β} :
    FailsWith P (Stats.ofFnM f) ↔ ∃ before stat after, Stat.all = before ++ stat :: after ∧
      (∀ s ∈ before, ∃ b, f s = .ok b) ∧ FailsWith P (f stat) := by
  rw [← failsWith_forM]
  unfold Stats.ofFnM Stat.all
  simp [failsWith_bind, map_eq_ok]

end Steps

namespace Game

variable {α β : Type} {reader : Nat → Json α → Except (Flaw α) β}

theorem readUntilFlaw_of_error {index : Nat} {v : Json α} {flaw : Flaw α}
    (h : reader index v = .error flaw) (rest : List (Json α)) :
    readUntilFlaw reader index (v :: rest) = ([], some flaw) := by
  rw [readUntilFlaw, h]

theorem readUntilFlaw_of_ok {index : Nat} {v : Json α} {x : β} (h : reader index v = .ok x)
    (rest : List (Json α)) :
    readUntilFlaw reader index (v :: rest) =
      (x :: (readUntilFlaw reader (index + 1) rest).1,
        (readUntilFlaw reader (index + 1) rest).2) := by
  rw [readUntilFlaw, h]

/-- What is read from items was read from one of them. -/
theorem mem_readUntilFlaw {items : List (Json α)} {index : Nat} {x : β}
    (h : x ∈ (readUntilFlaw reader index items).1) :
    ∃ place, ∃ v ∈ items, reader place v = .ok x := by
  induction items generalizing index with
  | nil => exact absurd h List.not_mem_nil
  | cons v rest ih =>
    cases hv : reader index v with
    | error flaw =>
      rw [readUntilFlaw_of_error hv] at h
      exact absurd h List.not_mem_nil
    | ok y =>
      rw [readUntilFlaw_of_ok hv] at h
      rcases List.mem_cons.1 h with rfl | h
      · exact ⟨index, v, List.mem_cons_self, hv⟩
      · obtain ⟨place, w, hw, hr⟩ := ih h
        exact ⟨place, w, List.mem_cons_of_mem v hw, hr⟩

/-- The flaw of items is that of the first item that cannot be read. -/
theorem readUntilFlaw_flaw {items : List (Json α)} {index : Nat} {flaw : Flaw α} :
    (readUntilFlaw reader index items).2 = some flaw ↔
      ∃ before v after, items = before ++ v :: after ∧
        (readUntilFlaw reader index before).2 = none ∧
        reader (index + before.length) v = .error flaw := by
  induction items generalizing index with
  | nil =>
    constructor
    · intro h
      cases h
    · rintro ⟨before, v, after, h, -⟩
      cases before <;> cases h
  | cons v rest ih =>
    cases hv : reader index v with
    | error flaw' =>
      rw [readUntilFlaw_of_error hv]
      constructor
      · intro h
        cases h
        exact ⟨[], v, rest, rfl, rfl, hv⟩
      · rintro ⟨before, w, after, h, hn, hw⟩
        cases before with
        | nil =>
          cases h
          rw [List.length_nil, Nat.add_zero, hv] at hw
          cases hw
          rfl
        | cons u before =>
          cases h
          rw [readUntilFlaw_of_error hv] at hn
          cases hn
    | ok x =>
      rw [readUntilFlaw_of_ok hv]
      refine ih.trans ?_
      constructor
      · rintro ⟨before, w, after, rfl, hn, hw⟩
        refine ⟨v :: before, w, after, rfl, ?_, ?_⟩
        · rw [readUntilFlaw_of_ok hv]
          exact hn
        · rw [List.length_cons, ← hw, Nat.add_assoc, Nat.add_comm 1]
      · rintro ⟨before, w, after, h, hn, hw⟩
        cases before with
        | nil =>
          cases h
          rw [List.length_nil, Nat.add_zero, hv] at hw
          cases hw
        | cons u before =>
          cases h
          refine ⟨before, w, after, rfl, ?_, ?_⟩
          · rw [readUntilFlaw_of_ok hv] at hn
            exact hn
          · rw [List.length_cons, Nat.add_comm before.length, ← Nat.add_assoc] at hw
            exact hw

end Game

end Roster
