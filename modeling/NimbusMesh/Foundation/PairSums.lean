import Mathlib.Algebra.BigOperators.Ring.List
import Mathlib.Algebra.Order.BigOperators.Group.List
import Mathlib.Tactic.Linarith
import Mathlib.Tactic.LinearCombination

namespace Foundation.PairSums

def pairSum {α K : Type} [AddMonoid K] (f : α → α → K) : List α → K
  | [] => 0
  | a :: rest => (rest.map (f a)).sum + pairSum f rest

section Ordered

variable {α K : Type} [CommRing K] [LinearOrder K] [IsStrictOrderedRing K] {f : α → α → K} {values : List α}

theorem sum_nonneg_of_forall {g : α → K} (nonneg : ∀ a ∈ values, 0 ≤ g a) : 0 ≤ (values.map g).sum := by
  apply List.sum_nonneg
  intro x member
  obtain ⟨a, inside, rfl⟩ := List.mem_map.mp member
  exact nonneg a inside

theorem sum_eq_zero_iff_forall {g : α → K} (nonneg : ∀ a ∈ values, 0 ≤ g a) :
    (values.map g).sum = 0 ↔ ∀ a ∈ values, g a = 0 := by
  constructor
  · intro total a member
    apply List.all_zero_of_le_zero_le_of_sum_eq_zero _ total (List.mem_map_of_mem member)
    intro x inside
    obtain ⟨b, found, rfl⟩ := List.mem_map.mp inside
    exact nonneg b found
  · intro zero
    rw [List.map_congr_left zero]
    simp

theorem pairSum_nonneg (nonneg : values.Pairwise (fun a b => 0 ≤ f a b)) : 0 ≤ pairSum f values := by
  induction nonneg with
  | nil => exact le_refl 0
  | cons first _ ih => exact add_nonneg (sum_nonneg_of_forall first) ih

theorem pairSum_eq_zero_iff (nonneg : values.Pairwise (fun a b => 0 ≤ f a b)) :
    pairSum f values = 0 ↔ values.Pairwise (fun a b => f a b = 0) := by
  induction nonneg with
  | nil => simp [pairSum]
  | cons first later ih =>
    have head := sum_nonneg_of_forall first
    have tail := pairSum_nonneg later
    rw [List.pairwise_cons, ← ih, ← sum_eq_zero_iff_forall first, pairSum]
    constructor
    · intro total
      constructor
      · linarith
      · linarith
    · rintro ⟨left, right⟩
      rw [left, right, add_zero]

end Ordered

section Squares

variable {K : Type} [CommRing K]

theorem sum_sq_eq (values : List K) :
    values.sum ^ 2 = (values.map (fun v => v * v)).sum + 2 * pairSum (fun v w => v * w) values := by
  induction values with
  | nil => simp [pairSum]
  | cons v rest ih =>
    have cross : (rest.map (fun w => v * w)).sum = v * rest.sum := by
      simpa using List.sum_map_mul_left rest (fun w => w) v
    rw [List.map_cons, List.sum_cons, List.sum_cons, pairSum, cross]
    linear_combination ih

theorem sum_sq_sub (v : K) (values : List K) :
    (values.map (fun w => (v - w) ^ 2)).sum =
      values.length * (v * v) - 2 * v * values.sum + (values.map (fun w => w * w)).sum := by
  induction values with
  | nil => simp
  | cons w rest ih =>
    simp only [List.map_cons, List.sum_cons, List.length_cons, Nat.cast_add, Nat.cast_one]
    linear_combination ih

theorem length_mul_sum_sq (values : List K) :
    values.length * (values.map (fun v => v * v)).sum =
      values.sum ^ 2 + pairSum (fun v w => (v - w) ^ 2) values := by
  induction values with
  | nil => simp [pairSum]
  | cons v rest ih =>
    have apart := sum_sq_sub v rest
    simp only [List.map_cons, List.sum_cons, List.length_cons, Nat.cast_add, Nat.cast_one, pairSum]
    linear_combination ih - apart

theorem pairwise_mul_eq_zero_iff [NoZeroDivisors K] [DecidableEq K] (values : List K) :
    values.Pairwise (fun v w => v * w = 0) ↔ values.countP (fun v => v ≠ 0) ≤ 1 := by
  induction values with
  | nil => simp
  | cons v rest ih =>
    rw [List.pairwise_cons, ih, List.countP_cons]
    by_cases zero : v = 0
    · simp [zero]
    · have others : (∀ w ∈ rest, v * w = 0) ↔ rest.countP (fun w => w ≠ 0) = 0 := by
        rw [List.countP_eq_zero]
        simp [zero]
      rw [others]
      simp only [zero, ne_eq, not_false_eq_true, decide_true, if_true]
      omega

end Squares

end Foundation.PairSums
