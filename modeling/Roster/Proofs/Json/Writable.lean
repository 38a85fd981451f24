import Mathlib.Data.Nat.Digits.Defs
import Roster.Json.File
import Roster.Proofs.Game.Reading

/-!
# Values that can be shown

A value cannot be shown if a whole number in it is too long to be written. Texts and files hold no
such values: their whole numbers have at most as many digits as can be written.
-/

namespace Roster

namespace Text

theorem of_mem_charsWhile {p : Char → Bool} {s : List CodePoint} {c : Char}
    (h : c ∈ charsWhile p s) : p c = true := by
  induction s with
  | nil => cases h
  | cons d rest ih =>
    cases d with
    | half index => cases h
    | char d =>
      unfold charsWhile at h
      split at h
      · rename_i hd
        rcases List.mem_cons.1 h with rfl | h
        · exact hd
        · exact ih h
      · cases h

/-- A number is below the power of ten to the number of its digits. -/
theorem digitsValue_lt {ds : List Char} (h : ∀ c ∈ ds, isAsciiDigit c = true) :
    digitsValue ds < 10 ^ ds.length := by
  have hfrom (n : Nat) : ds.foldl (fun n c => 10 * n + (c.toNat - 48)) n + 1 ≤
      (n + 1) * 10 ^ ds.length := by
    induction ds generalizing n with
    | nil => simp
    | cons c rest ih =>
      obtain ⟨hc, hrest⟩ := List.forall_mem_cons.1 h
      have hdigit : c.toNat - 48 ≤ 9 := by
        have hnine : c.toNat ≤ ('9' : Char).toNat := by
          unfold isAsciiDigit at hc
          exact of_decide_eq_true (Bool.and_eq_true_iff.1 hc).2
        have : ('9' : Char).toNat = 57 := rfl
        omega
      calc
        _ ≤ (10 * n + (c.toNat - 48) + 1) * 10 ^ rest.length := ih hrest _
        _ ≤ ((n + 1) * 10) * 10 ^ rest.length := Nat.mul_le_mul_right _ (by omega)
        _ = (n + 1) * 10 ^ (c :: rest).length := by
          rw [List.length_cons, Nat.pow_succ, Nat.mul_assoc, Nat.mul_comm 10]
  have hzero := hfrom 0
  rw [Nat.zero_add, Nat.one_mul] at hzero
  exact hzero

end Text

/-- A whole number has a text if its digits keep within the limit; its sign does not count. -/
theorem Decimal.isSome_wholeText?_iff {n : Int} :
    (wholeText? n).isSome ↔ n.natAbs < 10 ^ wholeDigitLimit := by
  rw [← Nat.length_repr_le_iff (by decide), ← Nat.not_lt, wholeText?, ← Nat.toString_eq_repr]
  split
  · rename_i h
    exact iff_of_false Bool.false_ne_true fun hnot => hnot h
  · rename_i h
    exact iff_of_true rfl h

namespace Json

variable {α : Type}

/-! ### Parts -/

theorem areWritable_iff {items : List (Json α)} :
    areWritable items = true ↔ ∀ v ∈ items, v.isWritable = true := by
  induction items with
  | nil => simp [areWritable]
  | cons v rest ih => rw [areWritable, Bool.and_eq_true, ih, List.forall_mem_cons]

theorem membersWritable_iff {members : Members α} :
    membersWritable members = true ↔ ∀ e ∈ members, e.2.isWritable = true := by
  induction members with
  | nil => simp [membersWritable]
  | cons e rest ih =>
    obtain ⟨key, v⟩ := e
    rw [membersWritable, Bool.and_eq_true, ih, List.forall_mem_cons]

theorem membersWritable_put (key : Text) {v : Json α} {members : Members α}
    (hv : v.isWritable = true) (h : membersWritable members = true) :
    membersWritable (Keyed.put key v members) = true := by
  rw [membersWritable_iff] at h ⊢
  intro e he
  rcases Keyed.mem_put he with rfl | he
  · exact hv
  · exact h e he

/-- A member can be shown if its object can; where it is missing, null can. -/
theorem isWritable_member {members : Members α} (h : (object members).isWritable = true)
    (key : String) : (member key members).isWritable = true := by
  unfold isWritable at h
  unfold member member?
  cases hget : Keyed.get? (key : Text) members with
  | none => rfl
  | some v => exact membersWritable_iff.1 h _ (Keyed.mem_of_get? hget)

/-! ### Reading -/

variable [Numeral α]

/-- A whole number that is read has not too many digits. -/
theorem isWritable_of_readNumber {p q : Place} {n : Number α} (h : readNumber p = .ok (n, q)) :
    (number n).isWritable = true := by
  unfold readNumber at h
  extract_lets negative body ds behind places behind' at h
  have hdigits : ∀ c ∈ ds, Text.isAsciiDigit c = true := by
    unfold ds
    split
    · exact List.forall_mem_singleton.2 rfl
    · exact fun c hc => Text.of_mem_charsWhile hc
  split at h
  · cases h
  · split at h
    · split at h
      · cases h
      · rename_i hlength
        obtain ⟨rfl, -⟩ := Prod.mk.inj (Except.ok.inj h)
        have hlt : Text.digitsValue ds < 10 ^ Decimal.wholeDigitLimit :=
          Nat.lt_of_lt_of_le (Text.digitsValue_lt hdigits)
            (Nat.pow_le_pow_right (by decide) (Nat.not_lt.1 hlength))
        rw [isWritable, Decimal.isSome_wholeText?_iff]
        split
        · rwa [Int.natAbs_neg, Int.natAbs_natCast]
        · rwa [Int.natAbs_natCast]
    · obtain ⟨rfl, -⟩ := Prod.mk.inj (Except.ok.inj h)
      rfl

theorem isWritable_of_wordAt? {p : Place} {found : Json α × Place} (h : wordAt? p = some found) :
    found.1.isWritable = true := by
  have hwords : ∀ e ∈ words (α := α), e.2.isWritable = true := by
    unfold words
    simp [isWritable]
  obtain ⟨⟨w, v⟩, hmem, h⟩ := List.exists_of_findSome?_eq_some h
  dsimp only at h
  split at h
  · cases h
    exact hwords _ hmem
  · cases h

/-- What is read at a place can be shown. -/
theorem isWritable_of_readValue (fuel : Nat) :
    (∀ {depth : Nat} {p q : Place} {v : Json α}, readValue fuel depth p = .ok (v, q) →
        v.isWritable = true) ∧
      (∀ {depth : Nat} {p q : Place} {items : List (Json α)},
        readItems fuel depth p = .ok (items, q) → areWritable items = true) ∧
      ∀ {depth : Nat} {p q : Place} {members members' : Members α},
        membersWritable members = true → readMembers fuel depth members p = .ok (members', q) →
        membersWritable members' = true := by
  induction fuel with
  | zero =>
    refine ⟨fun h => ?_, fun h => ?_, fun _ h => ?_⟩
    · unfold readValue at h
      cases h
    · unfold readItems at h
      cases h
    · unfold readMembers at h
      cases h
  | succ fuel ih =>
    obtain ⟨hvalue, hitems, hmembers⟩ := ih
    refine ⟨fun h => ?_, fun h => ?_, fun hbefore h => ?_⟩
    · unfold readValue at h
      split at h
      · obtain ⟨⟨s, q⟩, -, h⟩ := bind_eq_ok.1 h
        cases h
        rfl
      · cases h
      · dsimp only at h
        split at h
        · cases h
          rfl
        · obtain ⟨⟨members, q⟩, hm, h⟩ := bind_eq_ok.1 h
          cases h
          exact hmembers rfl hm
      · cases h
      · dsimp only at h
        split at h
        · cases h
          rfl
        · obtain ⟨⟨items, q⟩, hi, h⟩ := bind_eq_ok.1 h
          cases h
          exact hitems hi
      · split at h
        · rename_i found hfound
          cases h
          exact isWritable_of_wordAt? hfound
        · obtain ⟨⟨n, q⟩, hn, h⟩ := bind_eq_ok.1 h
          cases h
          exact isWritable_of_readNumber hn
    · unfold readItems at h
      obtain ⟨⟨v, q⟩, hv, h⟩ := bind_eq_ok.1 h
      dsimp only at h
      split at h
      · cases h
        rw [areWritable, hvalue hv]
        rfl
      · obtain ⟨⟨vs, q⟩, hvs, h⟩ := bind_eq_ok.1 h
        cases h
        rw [areWritable, hvalue hv, hitems hvs]
        rfl
      · cases h
    · unfold readMembers at h
      split at h
      · obtain ⟨⟨key, q⟩, -, h⟩ := bind_eq_ok.1 h
        dsimp only at h
        split at h
        · obtain ⟨⟨v, q⟩, hv, h⟩ := bind_eq_ok.1 h
          have hput := membersWritable_put key (hvalue hv) hbefore
          dsimp only at h
          split at h
          · cases h
            exact hput
          · exact hmembers hput h
          · cases h
        · cases h
      · cases h

/-- A document that a text holds can be shown. -/
theorem isWritable_of_ofText {text : Text} {v : Json α} (h : ofText text = .ok v) :
    v.isWritable = true := by
  have hread : read text = .ok v := mapError_eq_ok.1 h
  unfold read at hread
  split at hread
  · cases hread
  · obtain ⟨⟨w, q⟩, hw, hread⟩ := bind_eq_ok.1 hread
    dsimp only at hread
    split at hread
    · cases hread
      exact (isWritable_of_readValue _).1 hw
    · cases hread

end Json

end Roster
