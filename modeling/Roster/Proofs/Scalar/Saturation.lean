import Mathlib.Algebra.BigOperators.Group.List.Basic
import Mathlib.Algebra.Order.BigOperators.Group.List
import Mathlib.Algebra.Order.BigOperators.GroupWithZero.List
import Mathlib.Data.Real.Basic
import Mathlib.Tactic.Linarith
import Mathlib.Tactic.Ring

/-!
# Saturating folds

Products and sums of real numbers that are brought back into an interval after each step. Whether
they depend on the order is decided by two parts of the terms, those that lead away from the start
and those that lead back: the order counts exactly if both are there and the first alone leave the
interval.
-/

namespace Roster.Saturation

/-- A number brought into the interval from `-g` to `g`. -/
noncomputable def bounded (g x : ℝ) : ℝ := max (-g) (min x g)

/-- A product from a start, brought back into the interval after each factor. -/
noncomputable def boundedProduct (g c : ℝ) (fs : List ℝ) : ℝ :=
  fs.foldl (fun acc f => bounded g (acc * f)) c

/-- A sum from a start, brought back into the interval after each term. -/
noncomputable def boundedSum (g s : ℝ) (xs : List ℝ) : ℝ :=
  xs.foldl (fun acc x => bounded g (acc + x)) s

variable {g : ℝ}

theorem bounded_of_mem {x : ℝ} (h₁ : -g ≤ x) (h₂ : x ≤ g) : bounded g x = x := by
  rw [bounded, min_eq_left h₂, max_eq_right h₁]

theorem bounded_neg (hg : 0 ≤ g) (x : ℝ) : bounded g (-x) = -bounded g x := by
  unfold bounded
  rcases le_total x g with h | h
  · rcases le_total (-g) x with h' | h'
    · rw [min_eq_left h, max_eq_right h', min_eq_left (by linarith), max_eq_right (by linarith)]
    · rw [min_eq_left h, max_eq_left h', min_eq_right (by linarith), max_eq_right (by linarith),
        neg_neg]
  · have hx : -x ≤ -g := by linarith
    rw [min_eq_right h, max_eq_right (show -g ≤ g by linarith),
      min_eq_left (hx.trans (by linarith)), max_eq_left hx]

theorem bounded_mono {x y : ℝ} (h : x ≤ y) : bounded g x ≤ bounded g y :=
  max_le_max_left _ (min_le_min_right _ h)

theorem bounded_nonneg (hg : 0 ≤ g) {x : ℝ} (h : 0 ≤ x) : 0 ≤ bounded g x :=
  le_max_of_le_right (le_min h hg)

theorem bounded_le (hg : 0 ≤ g) (x : ℝ) : bounded g x ≤ g :=
  max_le (by linarith) (min_le_right _ _)

theorem bounded_of_nonneg (hg : 0 ≤ g) {x : ℝ} (h : 0 ≤ x) : bounded g x = min x g := by
  rw [bounded, max_eq_right]
  exact le_min (by linarith) (by linarith)

/-! ### Products -/

theorem boundedProduct_append (c : ℝ) (fs fs' : List ℝ) :
    boundedProduct g c (fs ++ fs') = boundedProduct g (boundedProduct g c fs) fs' :=
  List.foldl_append

theorem boundedProduct_neg (hg : 0 ≤ g) (c : ℝ) (fs : List ℝ) :
    boundedProduct g (-c) fs = -boundedProduct g c fs := by
  induction fs generalizing c with
  | nil => rfl
  | cons f rest ih =>
    change boundedProduct g (bounded g (-c * f)) rest = -boundedProduct g (bounded g (c * f)) rest
    rw [neg_mul, bounded_neg hg, ih]

theorem boundedProduct_zero (hg : 0 ≤ g) (fs : List ℝ) : boundedProduct g 0 fs = 0 := by
  induction fs with
  | nil => rfl
  | cons f rest ih =>
    change boundedProduct g (bounded g (0 * f)) rest = 0
    rw [zero_mul, bounded_of_mem (by linarith) hg, ih]

theorem boundedProduct_of_zero_mem (hg : 0 ≤ g) {fs : List ℝ} (h : 0 ∈ fs) (c : ℝ) :
    boundedProduct g c fs = 0 := by
  obtain ⟨before, after, rfl⟩ := List.append_of_mem h
  rw [boundedProduct_append]
  change boundedProduct g (bounded g (_ * 0)) after = 0
  rw [mul_zero, bounded_of_mem (by linarith) hg, boundedProduct_zero hg]

/-- Where the products after each factor keep within the interval, nothing is brought back. -/
theorem boundedProduct_of_partials {c : ℝ} {fs : List ℝ}
    (h : ∀ x ∈ (fs.scanl (· * ·) c).tail, -g ≤ x ∧ x ≤ g) :
    boundedProduct g c fs = c * fs.prod := by
  induction fs generalizing c with
  | nil => exact (mul_one c).symm
  | cons f rest ih =>
    have hmem : c * f ∈ ((f :: rest).scanl (· * ·) c).tail := by
      cases rest <;> simp
    have hrest : ∀ x ∈ (rest.scanl (· * ·) (c * f)).tail, -g ≤ x ∧ x ≤ g := by
      intro x hx
      refine h x ?_
      rw [List.scanl_cons, List.tail_cons]
      exact List.mem_of_mem_tail hx
    change boundedProduct g (bounded g (c * f)) rest = _
    rw [bounded_of_mem (h _ hmem).1 (h _ hmem).2, ih hrest, List.prod_cons, mul_assoc]

/-- From a start that is not negative, factors that are not negative lead to nothing negative. -/
theorem partials_nonneg {c : ℝ} (hc : 0 ≤ c) {fs : List ℝ} (hfs : ∀ f ∈ fs, 0 ≤ f) :
    ∀ x ∈ fs.scanl (· * ·) c, 0 ≤ x := by
  induction fs generalizing c with
  | nil => exact fun x hx => List.mem_singleton.1 hx ▸ hc
  | cons f rest ih =>
    rw [List.scanl_cons, List.forall_mem_cons]
    rw [List.forall_mem_cons] at hfs
    exact ⟨hc, ih (mul_nonneg hc hfs.1) hfs.2⟩

/-- The factors above one. -/
noncomputable def growing (fs : List ℝ) : List ℝ := fs.filter fun f => decide (1 < f)

/-- The factors that are not above one. -/
noncomputable def shrinking (fs : List ℝ) : List ℝ := fs.filter fun f => !decide (1 < f)

theorem mem_growing {f : ℝ} {fs : List ℝ} : f ∈ growing fs ↔ f ∈ fs ∧ 1 < f := by
  simp [growing]

theorem mem_shrinking {f : ℝ} {fs : List ℝ} : f ∈ shrinking fs ↔ f ∈ fs ∧ f ≤ 1 := by
  simp [shrinking]

theorem growing_of_le_one {fs : List ℝ} (h : ∀ f ∈ fs, f ≤ 1) : growing fs = [] := by
  refine List.filter_eq_nil_iff.2 fun f hf => ?_
  simpa using h f hf

theorem one_le_prod_growing (fs : List ℝ) : 1 ≤ (growing fs).prod :=
  List.one_le_prod fun _ hf => (mem_growing.1 hf).2.le

/-- Where the growing factors alone do not leave the interval, nothing does. -/
theorem boundedProduct_eq_mul {c : ℝ} {fs : List ℝ} (hc : 0 ≤ c) (hfs : ∀ f ∈ fs, 0 ≤ f)
    (h : c * (growing fs).prod ≤ g) : boundedProduct g c fs = c * fs.prod := by
  induction fs generalizing c with
  | nil => exact (mul_one c).symm
  | cons f rest ih =>
    obtain ⟨hf, hrest⟩ := List.forall_mem_cons.1 hfs
    have hone := one_le_prod_growing rest
    have hcf : 0 ≤ c * f := mul_nonneg hc hf
    have hkeep : c * f * (growing rest).prod ≤ g := by
      by_cases hgrow : 1 < f
      · have hcons : growing (f :: rest) = f :: growing rest := by
          simp [growing, hgrow]
        rwa [hcons, List.prod_cons, ← mul_assoc] at h
      · have hcons : growing (f :: rest) = growing rest := by
          simp [growing, hgrow]
        rw [hcons] at h
        refine le_trans ?_ h
        exact mul_le_mul_of_nonneg_right (mul_le_of_le_one_right hc (not_lt.1 hgrow))
          (by linarith)
    have hle : c * f ≤ g := (le_mul_of_one_le_right hcf hone).trans hkeep
    change boundedProduct g (bounded g (c * f)) rest = _
    rw [bounded_of_mem (by linarith) hle, ih hcf hrest hkeep, List.prod_cons, mul_assoc]

/-- Without shrinking factors a product is the lesser of the exact one and the bound. -/
theorem boundedProduct_eq_min {c : ℝ} {fs : List ℝ} (hc : 0 ≤ c) (hcg : c ≤ g)
    (hfs : ∀ f ∈ fs, 1 ≤ f) : boundedProduct g c fs = min (c * fs.prod) g := by
  induction fs generalizing c with
  | nil =>
    rw [List.prod_nil, mul_one, min_eq_left hcg]
    rfl
  | cons f rest ih =>
    obtain ⟨hf, hrest⟩ := List.forall_mem_cons.1 hfs
    have hg : 0 ≤ g := hc.trans hcg
    have hcf : 0 ≤ c * f := mul_nonneg hc (by linarith)
    have hone : 1 ≤ rest.prod := List.one_le_prod hrest
    change boundedProduct g (bounded g (c * f)) rest = _
    rw [bounded_of_nonneg hg hcf, ih (le_min hcf hg) (min_le_right _ _) hrest, List.prod_cons,
      ← mul_assoc]
    rcases le_total (c * f) g with h | h
    · rw [min_eq_left h]
    · have hg' : g ≤ g * rest.prod := le_mul_of_one_le_right hg hone
      have hcf' : g * rest.prod ≤ c * f * rest.prod := mul_le_mul_of_nonneg_right h (by linarith)
      rw [min_eq_right h, min_eq_right hg', min_eq_right (hg'.trans hcf')]

/-- A product from a start that does not depend on the order of its factors. -/
def SteadyProduct (g c : ℝ) (fs : List ℝ) : Prop :=
  c * (growing fs).prod ≤ g ∨ (∀ f ∈ fs, 1 ≤ f) ∨ 0 ∈ fs

/-- Factors that are all at most one, or all at least one, or of which one is zero. -/
def OneSided (fs : List ℝ) : Prop := (∀ f ∈ fs, f ≤ 1) ∨ (∀ f ∈ fs, 1 ≤ f) ∨ 0 ∈ fs

theorem boundedProduct_perm {c : ℝ} {fs fs' : List ℝ} (hc : 0 ≤ c) (hcg : c ≤ g)
    (hfs : ∀ f ∈ fs, 0 ≤ f) (h : SteadyProduct g c fs) (hp : fs.Perm fs') :
    boundedProduct g c fs' = boundedProduct g c fs := by
  have hfs' : ∀ f ∈ fs', 0 ≤ f := fun f hf => hfs f (hp.mem_iff.2 hf)
  rcases h with h | h | h
  · have h' : c * (growing fs').prod ≤ g := by
      rw [growing, ← (hp.filter _).prod_eq]
      exact h
    rw [boundedProduct_eq_mul hc hfs h, boundedProduct_eq_mul hc hfs' h', hp.prod_eq]
  · have h' : ∀ f ∈ fs', 1 ≤ f := fun f hf => h f (hp.mem_iff.2 hf)
    rw [boundedProduct_eq_min hc hcg h, boundedProduct_eq_min hc hcg h', hp.prod_eq]
  · have hg : 0 ≤ g := hc.trans hcg
    rw [boundedProduct_of_zero_mem hg h, boundedProduct_of_zero_mem hg (hp.mem_iff.1 h)]

theorem prod_le_one {fs : List ℝ} (hpos : ∀ f ∈ fs, 0 < f) (hle : ∀ f ∈ fs, f ≤ 1) :
    fs.prod ≤ 1 := by
  induction fs with
  | nil => exact le_rfl
  | cons f rest ih =>
    obtain ⟨-, hposr⟩ := List.forall_mem_cons.1 hpos
    obtain ⟨hf, hler⟩ := List.forall_mem_cons.1 hle
    rw [List.prod_cons]
    exact mul_le_one₀ hf (List.prod_pos hposr).le (ih hposr hler)

theorem prod_lt_one {fs : List ℝ} (hpos : ∀ f ∈ fs, 0 < f) (hle : ∀ f ∈ fs, f ≤ 1)
    (hlt : ∃ f ∈ fs, f < 1) : fs.prod < 1 := by
  obtain ⟨f, hf, hlt⟩ := hlt
  have hp := List.perm_cons_erase hf
  have hsub : ∀ x ∈ fs.erase f, x ∈ fs := fun x hx => List.mem_of_mem_erase hx
  have hrest := prod_le_one (fun x hx => hpos x (hsub x hx)) (fun x hx => hle x (hsub x hx))
  rw [hp.prod_eq, List.prod_cons]
  calc
    f * (fs.erase f).prod ≤ f * 1 := mul_le_mul_of_nonneg_left hrest (hpos f hf).le
    _ < 1 := by rwa [mul_one]

/-- With the growing factors first a product that is not steady is less than with the shrinking
ones first. -/
theorem boundedProduct_lt {c : ℝ} {fs : List ℝ} (hc : 0 < c) (hcg : c ≤ g)
    (hfs : ∀ f ∈ fs, 0 ≤ f) (h : ¬ SteadyProduct g c fs) :
    boundedProduct g c (growing fs ++ shrinking fs) <
      boundedProduct g c (shrinking fs ++ growing fs) := by
  obtain ⟨hgrow, hshrink, hzero⟩ : g < c * (growing fs).prod ∧ (∃ f ∈ fs, f < 1) ∧ 0 ∉ fs := by
    simpa [SteadyProduct, not_or] using h
  have hpos : ∀ f ∈ fs, 0 < f := by
    intro f hf
    refine lt_of_le_of_ne (hfs f hf) fun hz => hzero ?_
    rwa [hz]
  have hone : ∀ f ∈ growing fs, 1 ≤ f := fun f hf => (mem_growing.1 hf).2.le
  have hle : ∀ f ∈ shrinking fs, f ≤ 1 := fun f hf => (mem_shrinking.1 hf).2
  have hspos : ∀ f ∈ shrinking fs, 0 < f := fun f hf => hpos f (mem_shrinking.1 hf).1
  have hslt : (shrinking fs).prod < 1 := by
    obtain ⟨f, hf, hlt⟩ := hshrink
    exact prod_lt_one hspos hle ⟨f, mem_shrinking.2 ⟨hf, hlt.le⟩, hlt⟩
  have hsprod := List.prod_pos hspos
  have hkeep (x : ℝ) (hx : x ≤ g) : x * (growing (shrinking fs)).prod ≤ g := by
    rwa [growing_of_le_one hle, List.prod_nil, mul_one]
  have hg : 0 < g := hc.trans_le hcg
  have hcs : c * (shrinking fs).prod ≤ g := (mul_le_of_le_one_right hc.le hslt.le).trans hcg
  -- The growing factors reach the bound, from where the others lead down.
  have hfirst : boundedProduct g c (growing fs ++ shrinking fs) = g * (shrinking fs).prod := by
    rw [boundedProduct_append, boundedProduct_eq_min hc.le hcg hone, min_eq_right hgrow.le,
      boundedProduct_eq_mul hg.le (fun f hf => (hspos f hf).le) (hkeep g le_rfl)]
  -- The other way round nothing is lost before the bound.
  have hlast : boundedProduct g c (shrinking fs ++ growing fs) =
      min (c * (shrinking fs).prod * (growing fs).prod) g := by
    rw [boundedProduct_append,
      boundedProduct_eq_mul hc.le (fun f hf => (hspos f hf).le) (hkeep c hcg),
      boundedProduct_eq_min (mul_pos hc hsprod).le hcs hone]
  rw [hfirst, hlast]
  refine lt_min ?_ (mul_lt_of_lt_one_right hg hslt)
  calc
    g * (shrinking fs).prod < c * (growing fs).prod * (shrinking fs).prod :=
      mul_lt_mul_of_pos_right hgrow hsprod
    _ = c * (shrinking fs).prod * (growing fs).prod := by ring

/-! ### Sums -/

theorem boundedSum_append (s : ℝ) (xs xs' : List ℝ) :
    boundedSum g s (xs ++ xs') = boundedSum g (boundedSum g s xs) xs' :=
  List.foldl_append

theorem boundedSum_neg (hg : 0 ≤ g) (s : ℝ) (xs : List ℝ) :
    boundedSum g (-s) (xs.map (-·)) = -boundedSum g s xs := by
  induction xs generalizing s with
  | nil => rfl
  | cons x rest ih =>
    change boundedSum g (bounded g (-s + -x)) (rest.map (-·)) =
      -boundedSum g (bounded g (s + x)) rest
    rw [← neg_add, bounded_neg hg, ih]

/-- The terms above zero. -/
noncomputable def rising (xs : List ℝ) : List ℝ := xs.filter fun x => decide (0 < x)

/-- The terms that are not above zero. -/
noncomputable def sinking (xs : List ℝ) : List ℝ := xs.filter fun x => !decide (0 < x)

theorem mem_rising {x : ℝ} {xs : List ℝ} : x ∈ rising xs ↔ x ∈ xs ∧ 0 < x := by
  simp [rising]

theorem mem_sinking {x : ℝ} {xs : List ℝ} : x ∈ sinking xs ↔ x ∈ xs ∧ x ≤ 0 := by
  simp [sinking]

theorem sum_rising_nonneg (xs : List ℝ) : 0 ≤ (rising xs).sum :=
  List.sum_nonneg fun _ hx => (mem_rising.1 hx).2.le

theorem sum_nonpos {xs : List ℝ} (h : ∀ x ∈ xs, x ≤ 0) : xs.sum ≤ 0 := by
  induction xs with
  | nil => exact le_rfl
  | cons x rest ih =>
    obtain ⟨hx, hrest⟩ := List.forall_mem_cons.1 h
    have := ih hrest
    rw [List.sum_cons]
    linarith

theorem sum_sinking_nonpos (xs : List ℝ) : (sinking xs).sum ≤ 0 :=
  sum_nonpos fun _ hx => (mem_sinking.1 hx).2

theorem sum_rising_neg (xs : List ℝ) : (rising (xs.map (-·))).sum = -(sinking xs).sum := by
  induction xs with
  | nil => simp [rising, sinking]
  | cons x rest ih =>
    unfold rising sinking at ih ⊢
    rcases lt_trichotomy x 0 with h | rfl | h
    · simp [h, h.le, ih, add_comm]
    · simpa using ih
    · simp [h, h.le, ih]

/-- Where neither the rising nor the sinking terms alone leave the interval, nothing does. -/
theorem boundedSum_eq_add {s : ℝ} {xs : List ℝ} (hu : s + (rising xs).sum ≤ g)
    (hl : -g ≤ s + (sinking xs).sum) : boundedSum g s xs = s + xs.sum := by
  induction xs generalizing s with
  | nil => exact (add_zero s).symm
  | cons x rest ih =>
    have hr := sum_rising_nonneg rest
    have hs := sum_sinking_nonpos rest
    have hkeep : s + x + (rising rest).sum ≤ g ∧ -g ≤ s + x + (sinking rest).sum := by
      by_cases hx : 0 < x
      · have hrise : rising (x :: rest) = x :: rising rest := by
          simp [rising, hx]
        have hsink : sinking (x :: rest) = sinking rest := by
          simp [sinking, hx]
        rw [hrise, List.sum_cons] at hu
        rw [hsink] at hl
        constructor <;> linarith
      · have hrise : rising (x :: rest) = rising rest := by
          simp [rising, hx]
        have hsink : sinking (x :: rest) = x :: sinking rest := by
          simp [sinking, hx]
        rw [hrise] at hu
        rw [hsink, List.sum_cons] at hl
        constructor <;> linarith
    obtain ⟨hu, hl⟩ := hkeep
    change boundedSum g (bounded g (s + x)) rest = _
    rw [bounded_of_mem (by linarith) (by linarith), ih hu hl, List.sum_cons, add_assoc]

/-- Without sinking terms a sum is the lesser of the exact one and the bound. -/
theorem boundedSum_eq_min {s : ℝ} {xs : List ℝ} (hsl : -g ≤ s) (hsu : s ≤ g)
    (hxs : ∀ x ∈ xs, 0 ≤ x) : boundedSum g s xs = min (s + xs.sum) g := by
  induction xs generalizing s with
  | nil =>
    rw [List.sum_nil, add_zero, min_eq_left hsu]
    rfl
  | cons x rest ih =>
    obtain ⟨hx, hrest⟩ := List.forall_mem_cons.1 hxs
    have hsum := List.sum_nonneg hrest
    change boundedSum g (bounded g (s + x)) rest = _
    rw [List.sum_cons, ← add_assoc]
    rcases le_total (s + x) g with h | h
    · rw [bounded_of_mem (by linarith) h, ih (by linarith) h hrest]
    · have hg : bounded g (s + x) = g := by
        rw [bounded, min_eq_right h, max_eq_right (by linarith)]
      rw [hg, ih (by linarith) le_rfl hrest, min_eq_right (by linarith), min_eq_right (by linarith)]

/-- Without rising terms a sum is the greater of the exact one and the bound. -/
theorem boundedSum_eq_max {s : ℝ} {xs : List ℝ} (hsl : -g ≤ s) (hsu : s ≤ g)
    (hxs : ∀ x ∈ xs, x ≤ 0) : boundedSum g s xs = max (s + xs.sum) (-g) := by
  have hg : 0 ≤ g := by linarith
  have hneg : ∀ x ∈ xs.map (-·), 0 ≤ x := by
    intro x hx
    obtain ⟨y, hy, rfl⟩ := List.mem_map.1 hx
    exact neg_nonneg.2 (hxs y hy)
  have hsum : (xs.map (-·)).sum = -xs.sum := (List.sum_neg xs).symm
  have h := boundedSum_eq_min (g := g) (s := -s) (by linarith) (by linarith) hneg
  rw [boundedSum_neg hg, hsum, ← neg_add, ← neg_neg g, min_neg_neg, neg_neg] at h
  exact neg_injective h

/-- A sum from zero that does not depend on the order of its terms. -/
def SteadySum (g : ℝ) (xs : List ℝ) : Prop :=
  ((rising xs).sum ≤ g ∧ -g ≤ (sinking xs).sum) ∨ (∀ x ∈ xs, 0 ≤ x) ∨ ∀ x ∈ xs, x ≤ 0

theorem boundedSum_perm (hg : 0 ≤ g) {xs xs' : List ℝ} (h : SteadySum g xs) (hp : xs.Perm xs') :
    boundedSum g 0 xs' = boundedSum g 0 xs := by
  have hlow : -g ≤ 0 := by linarith
  rcases h with ⟨hu, hl⟩ | h | h
  · have hu' : (rising xs').sum ≤ g := by
      rw [rising, ← (hp.filter _).sum_eq]
      exact hu
    have hl' : -g ≤ (sinking xs').sum := by
      rw [sinking, ← (hp.filter _).sum_eq]
      exact hl
    rw [boundedSum_eq_add (by rwa [zero_add]) (by rwa [zero_add]),
      boundedSum_eq_add (by rwa [zero_add]) (by rwa [zero_add]), hp.sum_eq]
  · have h' : ∀ x ∈ xs', 0 ≤ x := fun x hx => h x (hp.mem_iff.2 hx)
    rw [boundedSum_eq_min hlow hg h, boundedSum_eq_min hlow hg h', hp.sum_eq]
  · have h' : ∀ x ∈ xs', x ≤ 0 := fun x hx => h x (hp.mem_iff.2 hx)
    rw [boundedSum_eq_max hlow hg h, boundedSum_eq_max hlow hg h', hp.sum_eq]

/-- With the rising terms first a sum whose rising terms leave the interval is less than with the
others first, unless none of these is below zero. -/
theorem boundedSum_lt (hg : 0 < g) {xs : List ℝ} (hu : g < (rising xs).sum)
    (hneg : ∃ x ∈ xs, x < 0) :
    boundedSum g 0 (rising xs ++ sinking xs) < boundedSum g 0 (sinking xs ++ rising xs) := by
  have hpos : ∀ x ∈ rising xs, 0 ≤ x := fun x hx => (mem_rising.1 hx).2.le
  have hle : ∀ x ∈ sinking xs, x ≤ 0 := fun x hx => (mem_sinking.1 hx).2
  have hsum : (sinking xs).sum < 0 := by
    obtain ⟨x, hx, hlt⟩ := hneg
    have hp := List.perm_cons_erase (mem_sinking.2 ⟨hx, hlt.le⟩)
    have hmem : ∀ y ∈ (sinking xs).erase x, y ≤ 0 := fun y hy => hle y (List.mem_of_mem_erase hy)
    have hrest := sum_nonpos hmem
    rw [hp.sum_eq, List.sum_cons]
    linarith
  have hlow : -g ≤ 0 := by linarith
  -- The rising terms reach the bound, from where the others lead down.
  have hfirst : boundedSum g 0 (rising xs ++ sinking xs) = max (g + (sinking xs).sum) (-g) := by
    rw [boundedSum_append, boundedSum_eq_min hlow hg.le hpos, zero_add, min_eq_right hu.le,
      boundedSum_eq_max (by linarith) le_rfl hle]
  -- The other way round nothing is lost before the bound.
  have hlast : boundedSum g 0 (sinking xs ++ rising xs) =
      min (max (sinking xs).sum (-g) + (rising xs).sum) g := by
    rw [boundedSum_append, boundedSum_eq_max hlow hg.le hle, zero_add,
      boundedSum_eq_min (le_max_right _ _) (max_le (by linarith) (by linarith)) hpos]
  have hmax := le_max_left (sinking xs).sum (-g)
  have hmax' := le_max_right (sinking xs).sum (-g)
  rw [hfirst, hlast]
  refine max_lt ?_ ?_
  · exact lt_min (by linarith) (by linarith)
  · exact lt_min (by linarith) (by linarith)

/-! ### Orders -/

section Orders

variable {β : Type}

theorem filterMap_filter {γ : Type} (e : β → Option γ) (q : γ → Bool) (l : List β) :
    (l.filter fun t => (e t).any q).filterMap e = (l.filterMap e).filter q := by
  induction l with
  | nil => rfl
  | cons t rest ih =>
    cases he : e t with
    | none => simp [he, ih]
    | some f => by_cases hf : q f <;> simp [he, hf, ih]

theorem filterMap_filter_not {γ : Type} (e : β → Option γ) (q : γ → Bool) (l : List β) :
    (l.filter fun t => !(e t).any q).filterMap e = (l.filterMap e).filter fun f => !q f := by
  induction l with
  | nil => rfl
  | cons t rest ih =>
    cases he : e t with
    | none => simp [he, ih]
    | some f => by_cases hf : q f <;> simp [he, hf, ih]

/-- The factors that things stand for have one product in all orders of the things exactly if it is
steady. -/
theorem steadyProduct_iff {c : ℝ} (hc : 0 < c) (hcg : c ≤ g) {e : β → Option ℝ}
    (he : ∀ t f, e t = some f → 0 ≤ f) (l : List β) :
    (∀ l', l.Perm l' →
      boundedProduct g c (l'.filterMap e) = boundedProduct g c (l.filterMap e)) ↔
      SteadyProduct g c (l.filterMap e) := by
  have hfs : ∀ f ∈ l.filterMap e, 0 ≤ f := by
    intro f hf
    obtain ⟨t, -, ht⟩ := List.mem_filterMap.1 hf
    exact he t f ht
  constructor
  · intro h
    by_contra hn
    have hlt := boundedProduct_lt hc hcg hfs hn
    have hp := List.filter_append_perm (fun t => (e t).any fun f => decide (1 < f)) l
    have h₁ := h _ hp.symm
    have h₂ := h _ (hp.symm.trans List.perm_append_comm)
    rw [List.filterMap_append, filterMap_filter, filterMap_filter_not] at h₁ h₂
    rw [growing, shrinking, h₁, h₂] at hlt
    exact lt_irrefl _ hlt
  · intro h l' hp
    exact boundedProduct_perm hc.le hcg hfs h (hp.filterMap e)

/-- So they have from every start in the interval exactly if they do not lead both away from the
start and back. -/
theorem oneSided_iff (hg : 0 < g) {e : β → Option ℝ} (he : ∀ t f, e t = some f → 0 ≤ f)
    (l : List β) :
    (∀ c, -g ≤ c → c ≤ g → ∀ l', l.Perm l' →
      boundedProduct g c (l'.filterMap e) = boundedProduct g c (l.filterMap e)) ↔
      OneSided (l.filterMap e) := by
  have hfs : ∀ f ∈ l.filterMap e, 0 ≤ f := by
    intro f hf
    obtain ⟨t, -, ht⟩ := List.mem_filterMap.1 hf
    exact he t f ht
  constructor
  · intro h
    have hsteady := (steadyProduct_iff hg le_rfl he l).1 (h g (by linarith) le_rfl)
    rcases hsteady with hgrow | h | h
    · refine Or.inl fun f hf => not_lt.1 fun hlt => ?_
      have hone : (growing (l.filterMap e)).prod ≤ 1 := le_of_mul_le_mul_left (by linarith) hg
      have hp := List.perm_cons_erase (mem_growing.2 ⟨hf, hlt⟩)
      have hmem : ∀ x ∈ (growing (l.filterMap e)).erase f, 1 ≤ x := fun x hx =>
        (mem_growing.1 (List.mem_of_mem_erase hx)).2.le
      rw [hp.prod_eq, List.prod_cons] at hone
      have := le_mul_of_one_le_right (by linarith : 0 ≤ f) (List.one_le_prod hmem)
      linarith
    · exact Or.inr (Or.inl h)
    · exact Or.inr (Or.inr h)
  · intro h c hl hu l' hp
    have hsteady (c : ℝ) (hc : c ≤ g) : SteadyProduct g c (l.filterMap e) := by
      rcases h with h | h | h
      · refine Or.inl ?_
        rwa [growing_of_le_one h, List.prod_nil, mul_one]
      · exact Or.inr (Or.inl h)
      · exact Or.inr (Or.inr h)
    rcases le_total 0 c with hc | hc
    · exact boundedProduct_perm hc hu hfs (hsteady c hu) (hp.filterMap e)
    · have hc' : -c ≤ g := by linarith
      have := boundedProduct_perm (neg_nonneg.2 hc) hc' hfs (hsteady (-c) hc') (hp.filterMap e)
      rw [boundedProduct_neg hg.le, boundedProduct_neg hg.le] at this
      exact neg_injective this

theorem sum_rising_le (hg : 0 < g) {e : β → Option ℝ} {l : List β}
    (h : ∀ l', l.Perm l' →
      boundedSum g 0 (l'.filterMap e) = boundedSum g 0 (l.filterMap e))
    (hneg : ∃ x ∈ l.filterMap e, x < 0) : (rising (l.filterMap e)).sum ≤ g := by
  by_contra hu
  have hlt := boundedSum_lt hg (not_le.1 hu) hneg
  have hp := List.filter_append_perm (fun t => (e t).any fun x => decide (0 < x)) l
  have h₁ := h _ hp.symm
  have h₂ := h _ (hp.symm.trans List.perm_append_comm)
  rw [List.filterMap_append, filterMap_filter, filterMap_filter_not] at h₁ h₂
  rw [rising, sinking, h₁, h₂] at hlt
  exact lt_irrefl _ hlt

/-- The terms that things stand for have one sum in all orders of the things exactly if it is
steady. -/
theorem steadySum_iff (hg : 0 < g) (e : β → Option ℝ) (l : List β) :
    (∀ l', l.Perm l' → boundedSum g 0 (l'.filterMap e) = boundedSum g 0 (l.filterMap e)) ↔
      SteadySum g (l.filterMap e) := by
  constructor
  · intro h
    unfold SteadySum
    by_cases hneg : ∃ x ∈ l.filterMap e, x < 0
    · by_cases hpos : ∃ x ∈ l.filterMap e, 0 < x
      · -- Turning all terms round turns the sums round.
        have hmap (l : List β) : (l.filterMap fun t => (e t).map (-·)) = (l.filterMap e).map (-·) :=
          List.map_filterMap.symm
        have hturn : ∀ l', l.Perm l' →
            boundedSum g 0 (l'.filterMap fun t => (e t).map (-·)) =
              boundedSum g 0 (l.filterMap fun t => (e t).map (-·)) := by
          intro l' hp
          rw [hmap, hmap, ← neg_zero, boundedSum_neg hg.le, boundedSum_neg hg.le, h l' hp]
        have hneg' : ∃ x ∈ l.filterMap (fun t => (e t).map (-·)), x < 0 := by
          obtain ⟨x, hx, hlt⟩ := hpos
          rw [hmap]
          exact ⟨-x, List.mem_map_of_mem hx, neg_lt_zero.2 hlt⟩
        have hl := sum_rising_le hg hturn hneg'
        rw [hmap, sum_rising_neg] at hl
        exact Or.inl ⟨sum_rising_le hg h hneg, by linarith⟩
      · exact Or.inr (Or.inr fun x hx => not_lt.1 fun hlt => hpos ⟨x, hx, hlt⟩)
    · exact Or.inr (Or.inl fun x hx => not_lt.1 fun hlt => hneg ⟨x, hx, hlt⟩)
  · intro h l' hp
    exact boundedSum_perm hg.le h (hp.filterMap e)

end Orders

end Roster.Saturation
