import Mathlib.Data.List.Infix
import Roster.Text.Casing
import Roster.Text.Split

/-!
# Lower case inside longer texts

The lower case of a text is found in that of every text that holds it, but for its capital sigmas:
whether one closes a word may change with what stands around the text. It does not for a sigma with
a character before it that has no case, or one behind it that has a case, or with both neighbours
inside the text, characters that are passed over not counting.
-/

namespace Roster.Text

theorem occursIn_iff_infix {β : Type} [DecidableEq β] {needle s : List β} :
    occursIn needle s = true ↔ needle <:+: s := by
  induction s with
  | nil => rw [occursIn, List.isEmpty_iff, List.infix_nil]
  | cons c rest ih =>
    rw [occursIn, Bool.or_eq_true, ih, List.isPrefixOf_iff_prefix, List.infix_cons_iff]

/-! ### Neighbours -/

/-- Whether the first code point that is not passed over has a case, if there is one. -/
def nextCase? (s : List CodePoint) : Option Bool :=
  (s.find? fun c => !c.satisfies isCaseIgnorable).map (CodePoint.satisfies isCased)

/-- Whether the last code point that is not passed over has a case, if there is one. -/
def lastCase? (s : List CodePoint) : Option Bool := nextCase? s.reverse

theorem nextCase?_append (s t : List CodePoint) :
    nextCase? (s ++ t) = (nextCase? s).or (nextCase? t) := by
  rw [nextCase?, List.find?_append, Option.map_or]
  rfl

theorem lastCase?_append (s t : List CodePoint) :
    lastCase? (s ++ t) = (lastCase? t).or (lastCase? s) := by
  rw [lastCase?, List.reverse_append, nextCase?_append]
  rfl

theorem nextCase?_sigma (s : List CodePoint) : nextCase? (.char 'Σ' :: s) = some true := by
  have hsigma : nextCase? [.char 'Σ'] = some true := by decide +kernel
  rw [← List.singleton_append, nextCase?_append, hsigma, Option.some_or]

theorem startsCased_eq (s : List CodePoint) : startsCased s = (nextCase? s).getD false := by
  induction s with
  | nil => rfl
  | cons c rest ih =>
    cases c with
    | half index => rfl
    | char c =>
      unfold startsCased nextCase?
      by_cases hc : isCaseIgnorable c = true
      · rw [if_pos hc, ih, List.find?_cons_of_neg (by simp [hc])]
        rfl
      · rw [if_neg hc, List.find?_cons_of_pos (by simp [hc])]
        rfl

theorem foldl_caseAfter (cased : Bool) (s : List CodePoint) :
    s.foldl caseAfter cased = (lastCase? s).getD cased := by
  have hone (cased : Bool) (c : CodePoint) :
      caseAfter cased c = (lastCase? [c]).getD cased := by
    cases c with
    | half index => rfl
    | char c =>
      by_cases hc : isCaseIgnorable c = true <;>
        simp [caseAfter, lastCase?, nextCase?, hc]
  induction s generalizing cased with
  | nil => rfl
  | cons c rest ih =>
    have hcons : lastCase? (c :: rest) = (lastCase? rest).or (lastCase? [c]) :=
      lastCase?_append [c] rest
    rw [List.foldl_cons, ih, hone, hcons]
    cases lastCase? rest <;> rfl

/-! ### The lower case of a part of a text -/

/-- The lower case of a part of a text that follows a cased character or not, with what stands
behind the part. -/
def lowerBetween (cased : Bool) (behind : List CodePoint) : List CodePoint → List CodePoint
  | [] => []
  | .half index :: rest => .half index :: lowerBetween false behind rest
  | .char c :: rest =>
    (lowerWithin cased c (rest ++ behind)).map .char ++
      lowerBetween (caseAfter cased (.char c)) behind rest

theorem lowerBetween_nil (cased : Bool) (s : List CodePoint) :
    lowerBetween cased [] s = lowerAfter cased s := by
  induction s generalizing cased with
  | nil => rfl
  | cons c rest ih =>
    cases c with
    | half index => rw [lowerBetween, lowerAfter, ih]
    | char c => rw [lowerBetween, lowerAfter, ih, List.append_nil]

theorem lowerAfter_append (cased : Bool) (s t : List CodePoint) :
    lowerAfter cased (s ++ t) =
      lowerBetween cased t s ++ lowerAfter (s.foldl caseAfter cased) t := by
  induction s generalizing cased with
  | nil => rfl
  | cons c rest ih =>
    cases c with
    | half index => rw [List.cons_append, lowerAfter, ih]; rfl
    | char c =>
      rw [List.cons_append, lowerAfter, ih, lowerBetween, List.foldl_cons, List.append_assoc]

/-- What stands behind counts by its first character alone that is not passed over. -/
theorem lowerBetween_congr {behind behind' : List CodePoint}
    (h : nextCase? behind = nextCase? behind') (cased : Bool) (s : List CodePoint) :
    lowerBetween cased behind s = lowerBetween cased behind' s := by
  induction s generalizing cased with
  | nil => rfl
  | cons c rest ih =>
    cases c with
    | half index => rw [lowerBetween, lowerBetween, ih]
    | char c =>
      have hstarts : startsCased (rest ++ behind) = startsCased (rest ++ behind') := by
        rw [startsCased_eq, startsCased_eq, nextCase?_append, nextCase?_append, h]
      rw [lowerBetween, lowerBetween, ih]
      unfold lowerWithin
      rw [hstarts]

/-- Without a capital sigma it does not matter what stands around. -/
theorem lowerBetween_eq_of_notMem {s : List CodePoint} (h : .char 'Σ' ∉ s) (cased cased' : Bool)
    (behind behind' : List CodePoint) :
    lowerBetween cased behind s = lowerBetween cased' behind' s := by
  induction s generalizing cased cased' with
  | nil => rfl
  | cons c rest ih =>
    obtain ⟨hc, hrest⟩ := not_or.1 (mt List.mem_cons.2 h)
    cases c with
    | half index => rw [lowerBetween, lowerBetween, ih hrest]
    | char c =>
      have hsigma : c ≠ 'Σ' := fun he => hc (he ▸ rfl)
      have hwithin (cased : Bool) (rest : List CodePoint) :
          lowerWithin cased c rest = lowerChar c := if_neg hsigma
      rw [lowerBetween, lowerBetween, hwithin, hwithin,
        ih hrest (caseAfter cased (.char c)) (caseAfter cased' (.char c))]

/-! ### Settled sigmas -/

/-- Whether what stands around two texts does not change what a capital sigma between them becomes:
the character before it has no case, or the one behind it has a case, or both are there. -/
def SettledBetween (before behind : List CodePoint) : Prop :=
  lastCase? before = some false ∨ nextCase? behind = some true ∨
    (lastCase? before).isSome ∧ (nextCase? behind).isSome

/-- Whether every capital sigma of a text is settled. -/
def Settled (s : List CodePoint) : Prop :=
  ∀ before behind, s = before ++ .char 'Σ' :: behind → SettledBetween before behind

theorem settled_of_notMem {s : List CodePoint} (h : .char 'Σ' ∉ s) : Settled s := by
  rintro before behind rfl
  exact absurd (List.mem_append_right before List.mem_cons_self) h

theorem lowerWithin_of_settled {before behind : List CodePoint} (h : SettledBetween before behind)
    (cased : Bool) (post : List CodePoint) :
    lowerWithin (before.foldl caseAfter cased) 'Σ' (behind ++ post) =
      lowerWithin (before.foldl caseAfter false) 'Σ' behind := by
  unfold lowerWithin
  rw [foldl_caseAfter, foldl_caseAfter, startsCased_eq, startsCased_eq, nextCase?_append]
  rcases h with hlast | hnext | ⟨hlast, hnext⟩
  · simp [hlast]
  · simp [hnext]
  · obtain ⟨b, hb⟩ := Option.isSome_iff_exists.1 hlast
    obtain ⟨b', hb'⟩ := Option.isSome_iff_exists.1 hnext
    simp [hb, hb']

/-- A part whose sigmas are settled becomes the same in a text as without what stands around. -/
theorem lowerBetween_of_settled {s : List CodePoint} (done : List CodePoint)
    (h : ∀ before behind, s = before ++ .char 'Σ' :: behind →
      SettledBetween (done ++ before) behind) (cased : Bool) (post : List CodePoint) :
    lowerBetween (done.foldl caseAfter cased) post s =
      lowerAfter (done.foldl caseAfter false) s := by
  -- What is lowered of the part goes over to `done`: each sigma then stands between the two texts
  -- between which it is settled.
  induction s generalizing done with
  | nil => rfl
  | cons c rest ih =>
    have hrest : ∀ before behind, rest = before ++ .char 'Σ' :: behind →
        SettledBetween (done ++ [c] ++ before) behind := by
      rintro before behind rfl
      rw [List.append_assoc, List.singleton_append]
      exact h (c :: before) behind rfl
    have hbehind := ih (done ++ [c]) hrest
    rw [List.foldl_concat, List.foldl_concat] at hbehind
    cases c with
    | half index => exact congrArg (CodePoint.half index :: ·) hbehind
    | char c =>
      have hwithin : lowerWithin (done.foldl caseAfter cased) c (rest ++ post) =
          lowerWithin (done.foldl caseAfter false) c rest := by
        by_cases hc : c = 'Σ'
        · subst hc
          have hsettled : SettledBetween (done ++ []) rest := h [] rest rfl
          rw [List.append_nil] at hsettled
          exact lowerWithin_of_settled hsettled cased post
        · exact (if_neg hc).trans (if_neg hc).symm
      rw [lowerBetween, lowerAfter, hwithin, hbehind]

theorem lowered_infix_of_settled {s t : List CodePoint} (h : Settled s) (hst : s <:+: t) :
    lowered s <:+: lowered t := by
  obtain ⟨pre, post, rfl⟩ := hst
  have hs : lowerBetween (pre.foldl caseAfter false) post s = lowered s :=
    lowerBetween_of_settled [] h _ post
  refine ⟨lowerBetween false (s ++ post) pre,
    lowerAfter ((pre ++ s).foldl caseAfter false) post, ?_⟩
  rw [lowered, lowered, List.append_assoc pre, lowerAfter_append, lowerAfter_append, hs,
    List.foldl_append, List.append_assoc]
  rfl

/-! ### Sigmas that are not settled -/

/-- What a capital sigma between two texts becomes. -/
def sigmaBetween (before behind : List CodePoint) : Char :=
  if (lastCase? before).getD false && !(nextCase? behind).getD false then 'ς' else 'σ'

/-- The lower case of a text around one of its capital sigmas. -/
theorem lowered_around (before behind : List CodePoint) :
    lowered (before ++ .char 'Σ' :: behind) =
      lowerBetween false [.char 'Σ'] before ++
        .char (sigmaBetween before behind) :: lowerAfter true behind := by
  have hwithin : lowerWithin ((lastCase? before).getD false) 'Σ' behind =
      [sigmaBetween before behind] := by
    rw [lowerWithin, if_pos rfl, startsCased_eq]
    rfl
  have hcase (cased : Bool) : caseAfter cased (.char 'Σ') = true := by
    have hignorable : isCaseIgnorable 'Σ' = false := by decide +kernel
    have hcased : isCased 'Σ' = true := by decide +kernel
    rw [caseAfter, hignorable, hcased]
    rfl
  have hbefore : lowerBetween false (.char 'Σ' :: behind) before =
      lowerBetween false [.char 'Σ'] before :=
    lowerBetween_congr (by rw [nextCase?_sigma, nextCase?_sigma]) false before
  rw [lowered, lowerAfter_append, foldl_caseAfter, lowerAfter, hwithin, hcase, hbefore]
  rfl

/-- A text is not found where one of its elements is another one: there are too few of the first. -/
theorem not_infix_of_changed {β : Type} [DecidableEq β] {x y : β} (hxy : x ≠ y)
    {pre post : List β} (hpre : x ∉ pre) (hpost : x ∉ post) (before behind : List β) :
    ¬ before ++ x :: behind <:+: pre ++ (before ++ y :: behind) ++ post := by
  intro h
  have hcount := h.sublist.count_le x
  simp only [List.count_append, List.count_cons_self, List.count_cons_of_ne hxy.symm,
    List.count_eq_zero_of_not_mem hpre, List.count_eq_zero_of_not_mem hpost] at hcount
  omega

theorem sigma_notMem_of_nextCase? {s : List CodePoint} (h : nextCase? s = none) :
    .char 'Σ' ∉ s := by
  intro hmem
  obtain ⟨before, behind, rfl⟩ := List.append_of_mem hmem
  rw [nextCase?_append, nextCase?_sigma] at h
  cases hb : nextCase? before <;> rw [hb] at h <;> cases h

theorem sigma_notMem_of_lastCase? {s : List CodePoint} (h : lastCase? s = none) :
    .char 'Σ' ∉ s := fun hmem => sigma_notMem_of_nextCase? h (List.mem_reverse.2 hmem)

/-- A sigma that nothing stands before becomes final behind a letter. -/
theorem not_infix_behind_letter {before behind : List CodePoint} (hlast : lastCase? before = none)
    (hnext : nextCase? behind ≠ some true) :
    ¬ lowered (before ++ .char 'Σ' :: behind) <:+:
      lowered ([.char 'a'] ++ (before ++ .char 'Σ' :: behind)) := by
  have halone : sigmaBetween before behind = 'σ' := by rw [sigmaBetween, hlast]; rfl
  have hletter : sigmaBetween ([.char 'a'] ++ before) behind = 'ς' := by
    have ha : lastCase? [.char 'a'] = some true := by decide +kernel
    have hbehind : (nextCase? behind).getD false = false := by
      cases hb : nextCase? behind with
      | none => rfl
      | some cased =>
        cases cased with
        | false => rfl
        | true => exact absurd hb hnext
    rw [sigmaBetween, lastCase?_append, hlast, ha, hbehind]
    rfl
  have hfront : lowerBetween false [.char 'Σ'] ([.char 'a'] ++ before) =
      [.char 'a'] ++ lowerBetween false [.char 'Σ'] before :=
    congrArg (CodePoint.char 'a' :: ·)
      (lowerBetween_eq_of_notMem (sigma_notMem_of_lastCase? hlast) true false _ _)
  rw [← List.append_assoc, lowered_around, lowered_around, halone, hletter, hfront,
    List.append_assoc, ← List.append_nil ([CodePoint.char 'a'] ++ _)]
  exact not_infix_of_changed (by decide) (by decide) (by decide) _ _

/-- A sigma that nothing stands behind is not final in front of a letter. -/
theorem not_infix_before_letter {before behind : List CodePoint}
    (hlast : lastCase? before = some true) (hnext : nextCase? behind = none) :
    ¬ lowered (before ++ .char 'Σ' :: behind) <:+:
      lowered (before ++ .char 'Σ' :: behind ++ [.char 'a']) := by
  have halone : sigmaBetween before behind = 'ς' := by rw [sigmaBetween, hlast, hnext]; rfl
  have hletter : sigmaBetween before (behind ++ [.char 'a']) = 'σ' := by
    have ha : nextCase? [.char 'a'] = some true := by decide +kernel
    rw [sigmaBetween, hlast, nextCase?_append, hnext, ha]
    rfl
  have hback : lowerAfter true (behind ++ [.char 'a']) = lowerAfter true behind ++ [.char 'a'] := by
    rw [lowerAfter_append, ← lowerBetween_nil true behind,
      lowerBetween_eq_of_notMem (sigma_notMem_of_nextCase? hnext) true true _ []]
    rfl
  have hsigmas : CodePoint.char 'ς' ≠ .char 'σ' := by decide
  have ha : CodePoint.char 'ς' ∉ [.char 'a'] := by decide
  have hchanged := not_infix_of_changed hsigmas List.not_mem_nil ha
    (lowerBetween false [.char 'Σ'] before) (lowerAfter true behind)
  rw [List.append_assoc, List.cons_append, lowered_around, lowered_around, halone, hletter, hback]
  simpa only [List.nil_append, List.append_assoc, List.cons_append] using hchanged

/-- The lower case of a text is found in that of every text that holds it exactly if all its capital
sigmas are settled. -/
theorem lowered_infix_iff {s : List CodePoint} :
    (∀ t, s <:+: t → lowered s <:+: lowered t) ↔ Settled s := by
  refine ⟨fun h => ?_, fun h _ => lowered_infix_of_settled h⟩
  rintro before behind rfl
  by_contra hsettled
  -- A sigma with nothing before it is put behind a letter, else one in front of a letter.
  obtain ⟨hlast, hnext, hboth⟩ : lastCase? before ≠ some false ∧ nextCase? behind ≠ some true ∧
      ¬ ((lastCase? before).isSome ∧ (nextCase? behind).isSome) := by
    simpa only [SettledBetween, not_or] using hsettled
  cases hbefore : lastCase? before with
  | none => exact not_infix_behind_letter hbefore hnext (h _ (List.suffix_append _ _).isInfix)
  | some cased =>
    have hnone : nextCase? behind = none := by simpa [hbefore] using hboth
    cases cased with
    | false => exact hlast hbefore
    | true => exact not_infix_before_letter hbefore hnone (h _ (List.prefix_append _ _).isInfix)

end Roster.Text
