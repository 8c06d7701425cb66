import Mathlib.Algebra.Order.Field.Basic
import Mathlib.Algebra.BigOperators.Group.List.Basic
import Mathlib.Tactic

/-!
# Taking from the cheapest

Items with sizes, in the order of their costs; an amount is taken from the first of them, then from the
next, until it is reached.

* `spent` is what is taken, weighed; with the weight one it is the amount taken (`taken_eq`).
* `spent_le_mul` bounds it by the largest weight.
* `spent_le_of_sum_eq`: no other way to take as much of the items costs less.
-/

namespace BpEngine.Greedy

variable {α K : Type} [Field K] [LinearOrder K] [IsStrictOrderedRing K] (size : α → K)

/-- What is taken of the items until `r` is reached, each weighed. -/
def spent (weight : α → K) : K → List α → K
  | _, [] => 0
  | r, x :: l => min (size x) r * weight x + spent weight (r - min (size x) r) l

/-- How much is taken. -/
def taken (r : K) (l : List α) : K := spent size (fun _ => 1) r l

variable {size} {weight : α → K}

theorem rest_nonneg (size : α → K) (r : K) (x : α) : 0 ≤ r - min (size x) r :=
  sub_nonneg.mpr (min_le_right _ _)

omit [IsStrictOrderedRing K] in
theorem spent_add (weight other : α → K) (r : K) (l : List α) :
    spent size (fun x => weight x + other x) r l = spent size weight r l + spent size other r l := by
  induction l generalizing r with
  | nil => simp [spent]
  | cons x l ih =>
    unfold spent
    rw [ih]
    ring

/-- Weights between two bounds. -/
theorem spent_bounds {l : List α} (hsize : ∀ x ∈ l, 0 ≤ size x) {r : K} (hr : 0 ≤ r) {m M : K}
    (hm : ∀ x ∈ l, m ≤ weight x) (hM : ∀ x ∈ l, weight x ≤ M) :
    m * taken size r l ≤ spent size weight r l ∧ spent size weight r l ≤ M * taken size r l := by
  induction l generalizing r with
  | nil => simp [spent, taken]
  | cons x l ih =>
    have hx : 0 ≤ min (size x) r := le_min (hsize x List.mem_cons_self) hr
    obtain ⟨hlow, hhigh⟩ := ih (fun y hy => hsize y (List.mem_cons_of_mem x hy))
      (rest_nonneg size r x) (fun y hy => hm y (List.mem_cons_of_mem x hy))
      fun y hy => hM y (List.mem_cons_of_mem x hy)
    have h1 := mul_le_mul_of_nonneg_left (hm x List.mem_cons_self) hx
    have h2 := mul_le_mul_of_nonneg_left (hM x List.mem_cons_self) hx
    unfold taken at hlow hhigh ⊢
    unfold spent
    constructor
    · linarith
    · linarith

/-- **What is taken is the amount asked for, or all there is.** -/
theorem taken_eq {l : List α} (hsize : ∀ x ∈ l, 0 ≤ size x) {r : K} (hr : 0 ≤ r) :
    taken size r l = min r (l.map size).sum := by
  induction l generalizing r with
  | nil => simp [taken, spent, hr]
  | cons x l ih =>
    have hrest := ih (fun y hy => hsize y (List.mem_cons_of_mem x hy)) (rest_nonneg size r x)
    have hx := hsize x List.mem_cons_self
    have hsum : 0 ≤ (l.map size).sum := by
      refine List.sum_nonneg fun v hv => ?_
      obtain ⟨y, hy, rfl⟩ := List.mem_map.mp hv
      exact hsize y (List.mem_cons_of_mem x hy)
    unfold taken at hrest ⊢
    unfold spent
    rw [hrest, List.map_cons, List.sum_cons]
    rcases le_total (size x) r with h | h
    · rw [min_eq_left h, mul_one, ← min_add_add_left]
      congr 1
      ring
    · rw [min_eq_right h, sub_self, min_eq_left hsum, min_eq_left (by linarith)]
      ring

omit [IsStrictOrderedRing K] in
/-- Nothing is taken when nothing is asked for. -/
theorem spent_zero {l : List α} (hsize : ∀ x ∈ l, 0 ≤ size x) : spent size weight 0 l = 0 := by
  induction l with
  | nil => rfl
  | cons x l ih =>
    unfold spent
    rw [min_eq_right (hsize x List.mem_cons_self), sub_self,
      ih fun y hy => hsize y (List.mem_cons_of_mem x hy)]
    ring

/-- What is spent more than from the cheapest, for an amount that is at least as large, is at least
what the excess costs at a price below all others. -/
theorem excess_le {cost amount : α → K} {l : List α}
    (hamount : ∀ x ∈ l, 0 ≤ amount x ∧ amount x ≤ size x)
    (hsorted : l.Pairwise fun x y => cost x ≤ cost y) {r m : K} (hr : 0 ≤ r)
    (hm : ∀ x ∈ l, m ≤ cost x) (hle : taken size r l ≤ (l.map amount).sum) :
    m * ((l.map amount).sum - taken size r l) ≤
      (l.map fun x => amount x * cost x).sum - spent size cost r l := by
  have hsize : ∀ x ∈ l, 0 ≤ size x := fun x hx => (hamount x hx).1.trans (hamount x hx).2
  induction l generalizing r m with
  | nil => simp [taken, spent]
  | cons x l ih =>
    have hx := hamount x List.mem_cons_self
    have htail : ∀ y ∈ l, 0 ≤ amount y ∧ amount y ≤ size y :=
      fun y hy => hamount y (List.mem_cons_of_mem x hy)
    have hsizes : ∀ y ∈ l, 0 ≤ size y := fun y hy => hsize y (List.mem_cons_of_mem x hy)
    obtain ⟨hfirst, hrest⟩ := List.pairwise_cons.mp hsorted
    have hmx := hm x List.mem_cons_self
    unfold taken at hle ih ⊢
    unfold spent at hle ⊢
    rw [List.map_cons, List.map_cons, List.sum_cons, List.sum_cons]
    rw [List.map_cons, List.sum_cons] at hle
    rw [mul_one] at hle ⊢
    rcases le_or_gt (amount x) (min (size x) r) with hmore | hless
    · -- what is not taken of the first item is taken of later ones, which cost as much at least
      have hstep := ih htail hrest (rest_nonneg size r x) hfirst (by linarith) hsizes
      have hdiff : 0 ≤ (cost x - m) *
          (amount x + (l.map amount).sum -
            (min (size x) r + spent size (fun _ => 1) (r - min (size x) r) l)) :=
        mul_nonneg (by linarith) (by linarith)
      linarith
    · -- all that is asked for is taken of the first item
      have hall : min (size x) r = r := by
        rcases min_choice (size x) r with h | h
        · rw [h] at hless
          exact absurd hx.2 (not_le.mpr hless)
        · exact h
      rw [hall, sub_self, spent_zero hsizes, spent_zero hsizes]
      have hothers : m * (l.map amount).sum ≤ (l.map fun y => amount y * cost y).sum := by
        rw [← List.sum_map_mul_left]
        refine List.sum_le_sum fun y hy => ?_
        rw [mul_comm m]
        exact mul_le_mul_of_nonneg_left (hm y (List.mem_cons_of_mem x hy)) (htail y hy).1
      rw [hall] at hless
      have hdiff : 0 ≤ (cost x - m) * (amount x - r) := mul_nonneg (by linarith) (by linarith)
      linarith

/-- **No other way to take as much of the items costs less.** -/
theorem spent_le_of_sum_eq {cost amount : α → K} {l : List α}
    (hamount : ∀ x ∈ l, 0 ≤ amount x ∧ amount x ≤ size x)
    (hsorted : l.Pairwise fun x y => cost x ≤ cost y) {r m : K} (hr : 0 ≤ r)
    (hm : ∀ x ∈ l, m ≤ cost x) (hsum : (l.map amount).sum = taken size r l) :
    spent size cost r l ≤ (l.map fun x => amount x * cost x).sum := by
  have hexcess := excess_le hamount hsorted hr hm hsum.ge
  rw [hsum, sub_self, mul_zero] at hexcess
  exact sub_nonneg.mp hexcess

end BpEngine.Greedy
