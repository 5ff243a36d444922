import Mathlib.Algebra.Order.Round
import Mathlib.Data.Rat.Floor
import Mathlib.Tactic.FieldSimp
import Mathlib.Tactic.Linarith
import Mathlib.Tactic.Positivity

namespace Foundation.Decimal

/-- The nearest integer, and the even one of two equally near integers. -/
def roundHalfEven (x : ℚ) : ℤ :=
  let low := ⌊x⌋
  if x - low < 1 / 2 then low
  else if 1 / 2 < x - low then low + 1
  else if low % 2 = 0 then low
  else low + 1

def roundTo (digits : ℕ) (x : ℚ) : ℚ := roundHalfEven (x * 10 ^ digits) / 10 ^ digits

def truncate (x : ℚ) : ℤ := if 0 ≤ x then ⌊x⌋ else ⌈x⌉

theorem roundHalfEven_ge_floor (x : ℚ) : ⌊x⌋ ≤ roundHalfEven x := by
  simp only [roundHalfEven]
  split_ifs <;> omega

theorem roundHalfEven_le_floor_succ (x : ℚ) : roundHalfEven x ≤ ⌊x⌋ + 1 := by
  simp only [roundHalfEven]
  split_ifs <;> omega

theorem roundHalfEven_mono {x y : ℚ} (le : x ≤ y) : roundHalfEven x ≤ roundHalfEven y := by
  rcases (Int.floor_le_floor le).lt_or_eq with below | same
  · have upper := roundHalfEven_le_floor_succ x
    have lower := roundHalfEven_ge_floor y
    omega
  · simp only [roundHalfEven, same]
    split_ifs <;> first | omega | linarith

theorem roundTo_mono (digits : ℕ) {x y : ℚ} (le : x ≤ y) : roundTo digits x ≤ roundTo digits y := by
  have scaled : x * 10 ^ digits ≤ y * 10 ^ digits := mul_le_mul_of_nonneg_right le (by positivity)
  unfold roundTo
  gcongr
  exact roundHalfEven_mono scaled

theorem roundTo_nonneg (digits : ℕ) {x : ℚ} (nonneg : 0 ≤ x) : 0 ≤ roundTo digits x := by
  have scaled : 0 ≤ ⌊x * 10 ^ digits⌋ := Int.floor_nonneg.mpr (by positivity)
  have rounded := scaled.trans (roundHalfEven_ge_floor (x * 10 ^ digits))
  unfold roundTo
  exact div_nonneg (by exact_mod_cast rounded) (by positivity)

@[simp] theorem roundTo_zero (digits : ℕ) : roundTo digits 0 = 0 := by
  simp [roundTo, roundHalfEven]

theorem truncate_le {x : ℚ} {bound : ℤ} (nonneg : 0 ≤ bound) (le : x ≤ bound) : truncate x ≤ bound := by
  unfold truncate
  split
  · exact Int.cast_le.mp ((Int.floor_le x).trans le)
  · rename_i negative
    exact (Int.ceil_le.mpr (by simpa using le_of_not_ge negative)).trans nonneg

theorem truncate_nonneg_iff (x : ℚ) : 0 ≤ truncate x ↔ -1 < x := by
  unfold truncate
  split
  · rename_i nonneg
    have whole := Int.floor_nonneg.mpr nonneg
    constructor
    · intro _
      linarith
    · intro _
      exact whole
  · have shifted : 0 ≤ ⌈x⌉ ↔ (-1 : ℤ) < ⌈x⌉ := by omega
    rw [shifted, Int.lt_ceil]
    norm_num

section Grid

/-- A multiple of the last of so many decimal digits. -/
def OnGrid (digits : ℕ) (x : ℚ) : Prop := ∃ n : ℤ, x * 10 ^ digits = n

instance (digits : ℕ) (x : ℚ) : Decidable (OnGrid digits x) :=
  decidable_of_iff ((⌊x * 10 ^ digits⌋ : ℚ) = x * 10 ^ digits) (by
    constructor
    · exact fun whole => ⟨_, whole.symm⟩
    · rintro ⟨n, whole⟩
      rw [whole, Int.floor_intCast])

variable {digits : ℕ} {x y : ℚ}

@[simp] theorem onGrid_zero : OnGrid digits 0 := ⟨0, by simp⟩

theorem OnGrid.add (left : OnGrid digits x) (right : OnGrid digits y) : OnGrid digits (x + y) := by
  obtain ⟨n, whole⟩ := left
  obtain ⟨m, wholeToo⟩ := right
  exact ⟨n + m, by rw [add_mul, whole, wholeToo, Int.cast_add]⟩

theorem OnGrid.sub (left : OnGrid digits x) (right : OnGrid digits y) : OnGrid digits (x - y) := by
  obtain ⟨n, whole⟩ := left
  obtain ⟨m, wholeToo⟩ := right
  exact ⟨n - m, by rw [sub_mul, whole, wholeToo, Int.cast_sub]⟩

theorem OnGrid.max (left : OnGrid digits x) (right : OnGrid digits y) : OnGrid digits (max x y) := by
  rcases max_choice x y with same | same
  · rwa [same]
  · rwa [same]

theorem OnGrid.finer (coarse : OnGrid digits x) (more : ℕ) : OnGrid (digits + more) x := by
  obtain ⟨n, whole⟩ := coarse
  refine ⟨n * 10 ^ more, ?_⟩
  rw [pow_add, ← mul_assoc, whole]
  push_cast
  rfl

theorem OnGrid.shift_up {more : ℕ} (fine : OnGrid (digits + more) x) : OnGrid digits (x * 10 ^ more) := by
  obtain ⟨n, whole⟩ := fine
  refine ⟨n, ?_⟩
  rw [← whole, pow_add, mul_assoc, mul_comm (10 ^ more)]

theorem OnGrid.shift_down (coarse : OnGrid digits x) (more : ℕ) : OnGrid (digits + more) (x / 10 ^ more) := by
  obtain ⟨n, whole⟩ := coarse
  refine ⟨n, ?_⟩
  rw [← whole, pow_add]
  field_simp

@[simp] theorem onGrid_roundTo (digits : ℕ) (x : ℚ) : OnGrid digits (roundTo digits x) := by
  refine ⟨roundHalfEven (x * 10 ^ digits), ?_⟩
  unfold roundTo
  field_simp

@[simp] theorem roundHalfEven_intCast (n : ℤ) : roundHalfEven n = n := by
  simp [roundHalfEven]

theorem roundHalfEven_neg (x : ℚ) : roundHalfEven (-x) = -roundHalfEven x := by
  have low := Int.floor_le x
  have high := Int.lt_floor_add_one x
  rcases low.eq_or_lt with whole | above
  · rw [← whole, roundHalfEven_intCast, ← Int.cast_neg, roundHalfEven_intCast]
  · have mirrored : ⌊-x⌋ = -⌊x⌋ - 1 := by
      rw [Int.floor_eq_iff]
      push_cast
      constructor <;> linarith
    simp only [roundHalfEven, mirrored]
    push_cast
    split_ifs <;> first | omega | linarith

@[simp] theorem OnGrid.roundTo_eq (exact : OnGrid digits x) : roundTo digits x = x := by
  obtain ⟨n, whole⟩ := exact
  unfold roundTo
  rw [whole, roundHalfEven_intCast, ← whole]
  field_simp

end Grid

section Errors

variable {digits : ℕ} {x y : ℚ}

theorem abs_roundHalfEven_sub_le (x : ℚ) : |(roundHalfEven x : ℚ) - x| ≤ 1 / 2 := by
  have low := Int.floor_le x
  have high := Int.lt_floor_add_one x
  rw [abs_le]
  simp only [roundHalfEven]
  split_ifs <;> push_cast <;> constructor <;> linarith

theorem abs_roundTo_sub_le (digits : ℕ) (x : ℚ) : |roundTo digits x - x| ≤ 1 / 2 / 10 ^ digits := by
  have scale : (0 : ℚ) < 10 ^ digits := by positivity
  have split : roundTo digits x - x = (roundHalfEven (x * 10 ^ digits) - x * 10 ^ digits) / 10 ^ digits := by
    rw [roundTo, sub_div, mul_div_cancel_right₀ x scale.ne']
  rw [split, abs_div, abs_of_pos scale]
  exact div_le_div_of_nonneg_right (abs_roundHalfEven_sub_le _) scale.le

theorem OnGrid.eq_of_near (left : OnGrid digits x) (right : OnGrid digits y) (near : |x - y| < 1 / 10 ^ digits) :
    x = y := by
  have scale : (0 : ℚ) < 10 ^ digits := by positivity
  obtain ⟨n, whole⟩ := left.sub right
  have small : |(n : ℚ)| < 1 := by
    rw [← whole, abs_mul, abs_of_pos scale]
    exact (lt_div_iff₀ scale).mp near
  have zero : n = 0 := Int.abs_lt_one_iff.mp (by exact_mod_cast small)
  rw [zero, Int.cast_zero] at whole
  exact sub_eq_zero.mp ((mul_eq_zero.mp whole).resolve_right scale.ne')

theorem OnGrid.roundTo_of_near (exact : OnGrid digits y) (near : |x - y| < 1 / 2 / 10 ^ digits) :
    roundTo digits x = y := by
  apply (onGrid_roundTo digits x).eq_of_near exact
  calc |roundTo digits x - y| ≤ |roundTo digits x - x| + |x - y| := abs_sub_le _ x _
    _ < 1 / 2 / 10 ^ digits + 1 / 2 / 10 ^ digits := add_lt_add_of_le_of_lt (abs_roundTo_sub_le digits x) near
    _ = 1 / 10 ^ digits := by rw [← add_div, add_halves]

/-- A sum of rounded numbers is off by half a step for each number that is not on the grid. -/
theorem abs_sum_roundTo_sub_le {α : Type} (digits : ℕ) (value : α → ℚ) (items : List α) :
    |(items.map (fun item => roundTo digits (value item))).sum - (items.map value).sum| ≤
      items.countP (fun item => ¬ OnGrid digits (value item)) * (1 / 2 / 10 ^ digits) := by
  induction items with
  | nil => simp
  | cons item rest ih =>
    simp only [List.map_cons, List.sum_cons, List.countP_cons, decide_eq_true_eq]
    rw [add_sub_add_comm]
    apply (abs_add_le _ _).trans
    by_cases exact : OnGrid digits (value item)
    · rw [exact.roundTo_eq, sub_self, abs_zero, zero_add, if_neg (not_not.mpr exact), add_zero]
      exact ih
    · rw [if_pos exact, Nat.cast_add, Nat.cast_one, add_mul, one_mul, add_comm]
      exact add_le_add ih (abs_roundTo_sub_le digits (value item))

end Errors

end Foundation.Decimal
