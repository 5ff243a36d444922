import Mathlib.Algebra.Order.Floor.Ring
import Mathlib.Data.List.Forall2
import Mathlib.Data.List.GetD
import Mathlib.Data.List.Sort
import Mathlib.Tactic.Linarith

namespace Foundation.OrderStatistics

section Sorting

variable {α : Type} [LinearOrder α]

theorem insertionSort_eq_of_perm {left right : List α} (perm : left.Perm right) :
    left.insertionSort (· ≤ ·) = right.insertionSort (· ≤ ·) := by
  have sorted : (left.insertionSort (· ≤ ·)).Perm (right.insertionSort (· ≤ ·)) :=
    (List.perm_insertionSort _ left).trans (perm.trans (List.perm_insertionSort _ right).symm)
  exact sorted.eq_of_pairwise' (List.pairwise_insertionSort _ left) (List.pairwise_insertionSort _ right)

theorem orderedInsert_head {a : α} {rest : List α} (sorted : (a :: rest).Pairwise (· ≤ ·)) :
    rest.orderedInsert (· ≤ ·) a = a :: rest := by
  cases rest with
  | nil => rfl
  | cons b rest =>
    have first : a ≤ b := (List.pairwise_cons.mp sorted).1 b (by simp)
    simp [first]

theorem orderedInsert_le {left right : List α} (below : List.Forall₂ (· ≤ ·) left right)
    (leftSorted : left.Pairwise (· ≤ ·)) (rightSorted : right.Pairwise (· ≤ ·)) {a b : α} (le : a ≤ b) :
    List.Forall₂ (· ≤ ·) (left.orderedInsert (· ≤ ·) a) (right.orderedInsert (· ≤ ·) b) := by
  induction below generalizing a b with
  | nil => simpa using le
  | cons head tail ih =>
    rename_i x y xs ys
    have inner := fun {c d : α} => ih (List.pairwise_cons.mp leftSorted).2
      (List.pairwise_cons.mp rightSorted).2 (a := c) (b := d)
    by_cases beforeX : a ≤ x
    · by_cases beforeY : b ≤ y
      · simpa [beforeX, beforeY] using ⟨le, head, tail⟩
      · -- `x` stays in front of its tail while `b` goes into the other tail.
        have shifted := inner (head.trans (le_of_not_ge beforeY))
        rw [orderedInsert_head leftSorted] at shifted
        simpa [beforeX, beforeY] using ⟨beforeX.trans head, shifted⟩
    · by_cases beforeY : b ≤ y
      · have shifted := inner (le.trans beforeY)
        rw [orderedInsert_head rightSorted] at shifted
        simpa [beforeX, beforeY] using ⟨(le_of_not_ge beforeX).trans le, shifted⟩
      · simpa [beforeX, beforeY] using ⟨head, inner le⟩

theorem insertionSort_le {left right : List α} (below : List.Forall₂ (· ≤ ·) left right) :
    List.Forall₂ (· ≤ ·) (left.insertionSort (· ≤ ·)) (right.insertionSort (· ≤ ·)) := by
  induction below with
  | nil => exact List.Forall₂.nil
  | cons head tail ih =>
    exact orderedInsert_le ih (List.pairwise_insertionSort _ _) (List.pairwise_insertionSort _ _) head

end Sorting

section Interpolation

variable {K : Type} [Field K] [LinearOrder K] [IsStrictOrderedRing K] [FloorRing K]

/-- The values at whole positions, joined by straight lines. -/
def interpolate (value : ℤ → K) (position : K) : K :=
  value ⌊position⌋ + (value ⌈position⌉ - value ⌊position⌋) * (position - ⌊position⌋)

variable {value : ℤ → K} {position : K}

theorem floor_le_interpolate (rising : value ⌊position⌋ ≤ value ⌈position⌉) :
    value ⌊position⌋ ≤ interpolate value position := by
  have fraction : 0 ≤ position - ⌊position⌋ := Int.fract_nonneg position
  have step := mul_nonneg (sub_nonneg.mpr rising) fraction
  unfold interpolate
  linarith

theorem interpolate_le_ceil (rising : value ⌊position⌋ ≤ value ⌈position⌉) :
    interpolate value position ≤ value ⌈position⌉ := by
  have fraction : position - ⌊position⌋ ≤ 1 := (Int.fract_lt_one position).le
  have step := mul_le_of_le_one_right (sub_nonneg.mpr rising) fraction
  unfold interpolate
  linarith

def RisingWithin (value : ℤ → K) (least greatest : ℤ) : Prop :=
  ∀ i j, least ≤ i → i ≤ j → j ≤ greatest → value i ≤ value j

/-- Monotone in the position, within one interval along its line and across intervals through
    the whole positions between them. -/
theorem interpolate_mono {lower upper : K} (le : lower ≤ upper)
    (rising : RisingWithin value ⌊lower⌋ ⌈upper⌉) :
    interpolate value lower ≤ interpolate value upper := by
  have floors : ⌊lower⌋ ≤ ⌊upper⌋ := Int.floor_mono le
  have ceils : ⌈lower⌉ ≤ ⌈upper⌉ := Int.ceil_mono le
  have start := Int.floor_le_ceil lower
  have stop := Int.floor_le_ceil upper
  have first : value ⌊lower⌋ ≤ value ⌈lower⌉ := rising _ _ (le_refl _) start ceils
  have last : value ⌊upper⌋ ≤ value ⌈upper⌉ := rising _ _ floors stop (le_refl _)
  rcases le_or_gt ⌈lower⌉ ⌊upper⌋ with apart | together
  · calc interpolate value lower ≤ value ⌈lower⌉ := interpolate_le_ceil first
      _ ≤ value ⌊upper⌋ := rising _ _ start apart stop
      _ ≤ interpolate value upper := floor_le_interpolate last
  · have sameFloor : ⌊lower⌋ = ⌊upper⌋ := by
      have close := Int.ceil_le_floor_add_one lower
      omega
    have sameCeil : ⌈lower⌉ = ⌈upper⌉ := by
      have close := Int.ceil_le_floor_add_one upper
      omega
    have slope : 0 ≤ value ⌈upper⌉ - value ⌊upper⌋ := sub_nonneg.mpr last
    have scaled := mul_le_mul_of_nonneg_left (sub_le_sub_right le (⌊upper⌋ : K)) slope
    unfold interpolate
    rw [sameFloor, sameCeil]
    linarith

theorem interpolate_le {other : ℤ → K} (floor : value ⌊position⌋ ≤ other ⌊position⌋)
    (ceil : value ⌈position⌉ ≤ other ⌈position⌉) :
    interpolate value position ≤ interpolate other position := by
  have fraction : 0 ≤ position - ⌊position⌋ := Int.fract_nonneg position
  have remainder : 0 ≤ 1 - (position - ⌊position⌋) := sub_nonneg.mpr (Int.fract_lt_one position).le
  have upper := mul_le_mul_of_nonneg_right ceil fraction
  have lower := mul_le_mul_of_nonneg_right floor remainder
  unfold interpolate
  linarith

end Interpolation

end Foundation.OrderStatistics
