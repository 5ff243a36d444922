import NimbusMesh.Foundation.PairSums
import NimbusMesh.Metrics

namespace NimbusMesh

open Foundation.PairSums

def divide (numerator denominator : ℚ) : Except PyError ℚ :=
  if denominator = 0 then .error .zeroDivisionError else .ok (numerator / denominator)

def jainsIndexDivided (values : List ℚ) : Except PyError ℚ :=
  if values = [] then .ok 1
  else
    let numerator := values.sum ^ 2
    let denominator := values.length * (values.map (fun v => v * v)).sum
    if denominator = 0 then .ok 1 else divide numerator denominator

theorem jainsIndexDivided_eq (values : List ℚ) : jainsIndexDivided values = .ok (jainsIndex values) := by
  unfold jainsIndexDivided jainsIndex
  split
  · rfl
  · simp only
    split
    · rfl
    · rename_i nonzero
      rw [divide, if_neg nonzero]

theorem jainsIndex_perm {values permuted : List ℚ} (same : values.Perm permuted) :
    jainsIndex permuted = jainsIndex values := by
  have empty : permuted = [] ↔ values = [] := ⟨fun h => (h ▸ same).eq_nil, fun h => (h ▸ same).symm.eq_nil⟩
  unfold jainsIndex
  simp only [empty, same.sum_eq, same.length_eq, (same.map (fun v => v * v)).sum_eq]

theorem jainsIndex_scaled (values : List ℚ) {factor : ℚ} (positive : 0 < factor) :
    jainsIndex (values.map (fun v => factor * v)) = jainsIndex values := by
  have total : (values.map (fun v => factor * v)).sum = factor * values.sum := by
    simpa using List.sum_map_mul_left values (fun v => v) factor
  have squares : ((values.map (fun v => factor * v)).map (fun v => v * v)).sum =
      factor ^ 2 * (values.map (fun v => v * v)).sum := by
    rw [List.map_map, ← List.sum_map_mul_left values (fun v => v * v) (factor ^ 2)]
    congr 2
    funext v
    show factor * v * (factor * v) = factor ^ 2 * (v * v)
    ring
  have scale : factor ^ 2 ≠ 0 := (pow_pos positive 2).ne'
  have same : (values.length : ℚ) * (factor ^ 2 * (values.map (fun v => v * v)).sum) =
      factor ^ 2 * (values.length * (values.map (fun v => v * v)).sum) := by ring
  unfold jainsIndex
  simp only [List.map_eq_nil_iff, total, squares, List.length_map, same, mul_pow, mul_eq_zero, scale, false_or]
  rw [mul_div_mul_left _ _ scale]

section Bounds

variable {values : List ℚ}

theorem sum_squares_pos (nonzero : ∃ v ∈ values, v ≠ 0) : 0 < (values.map (fun v => v * v)).sum := by
  obtain ⟨v, member, nonzero⟩ := nonzero
  have nonneg : ∀ w ∈ values, 0 ≤ w * w := fun w _ => mul_self_nonneg w
  apply lt_of_le_of_ne (sum_nonneg_of_forall nonneg)
  intro zero
  have square := (sum_eq_zero_iff_forall nonneg).mp zero.symm v member
  exact nonzero (mul_self_eq_zero.mp square)

theorem length_pos_of_exists (nonzero : ∃ v ∈ values, v ≠ 0) : (0 : ℚ) < values.length := by
  obtain ⟨v, member, _⟩ := nonzero
  exact_mod_cast List.length_pos_of_mem member

theorem jainsIndex_of_nonzero (nonzero : ∃ v ∈ values, v ≠ 0) :
    jainsIndex values = values.sum ^ 2 / (values.length * (values.map (fun v => v * v)).sum) := by
  have count := length_pos_of_exists nonzero
  have squares := sum_squares_pos nonzero
  obtain ⟨v, member, _⟩ := nonzero
  unfold jainsIndex
  rw [if_neg (List.ne_nil_of_mem member)]
  simp only
  rw [if_neg (mul_pos count squares).ne']

theorem jainsIndex_le_one (nonzero : ∃ v ∈ values, v ≠ 0) : jainsIndex values ≤ 1 := by
  have apart := length_mul_sum_sq values
  have spread : 0 ≤ pairSum (fun v w => (v - w) ^ 2) values :=
    pairSum_nonneg (List.pairwise_of_forall (fun v w => sq_nonneg (v - w)))
  rw [jainsIndex_of_nonzero nonzero,
    div_le_one (mul_pos (length_pos_of_exists nonzero) (sum_squares_pos nonzero))]
  linarith

theorem jainsIndex_eq_one_iff (nonzero : ∃ v ∈ values, v ≠ 0) :
    jainsIndex values = 1 ↔ ∀ v ∈ values, ∀ w ∈ values, v = w := by
  have apart := length_mul_sum_sq values
  have spread : values.Pairwise (fun v w => 0 ≤ (v - w) ^ 2) :=
    List.pairwise_of_forall (fun v w => sq_nonneg (v - w))
  have denominator := mul_pos (length_pos_of_exists nonzero) (sum_squares_pos nonzero)
  calc jainsIndex values = 1
      ↔ pairSum (fun v w => (v - w) ^ 2) values = 0 := by
        rw [jainsIndex_of_nonzero nonzero, div_eq_one_iff_eq denominator.ne', apart]
        exact left_eq_add
    _ ↔ values.Pairwise (fun v w => v = w) := by
        rw [pairSum_eq_zero_iff spread]
        simp [sub_eq_zero]
    _ ↔ ∀ v ∈ values, ∀ w ∈ values, v = w := by
        constructor
        · intro equal v left w right
          exact List.Pairwise.forall_of_forall (fun _ _ => rfl) equal left right
        · intro equal
          exact List.pairwise_of_forall_mem_list (fun v left w right => equal v left w right)

theorem jainsIndex_sub (nonzero : ∃ v ∈ values, v ≠ 0) :
    jainsIndex values - 1 / values.length =
      2 * pairSum (fun v w => v * w) values / (values.length * (values.map (fun v => v * v)).sum) := by
  have count := (length_pos_of_exists nonzero).ne'
  have squares := (sum_squares_pos nonzero).ne'
  rw [jainsIndex_of_nonzero nonzero, sum_sq_eq]
  generalize (values.map (fun v => v * v)).sum = total at squares ⊢
  field_simp
  ring

theorem products_nonneg (nonneg : ∀ v ∈ values, 0 ≤ v) : values.Pairwise (fun v w => 0 ≤ v * w) :=
  List.pairwise_of_forall_mem_list (fun v left w right => mul_nonneg (nonneg v left) (nonneg w right))

theorem inv_length_le_jainsIndex (nonneg : ∀ v ∈ values, 0 ≤ v) (nonzero : ∃ v ∈ values, v ≠ 0) :
    1 / values.length ≤ jainsIndex values := by
  have products := pairSum_nonneg (products_nonneg nonneg)
  have denominator := mul_pos (length_pos_of_exists nonzero) (sum_squares_pos nonzero)
  rw [← sub_nonneg, jainsIndex_sub nonzero]
  exact div_nonneg (mul_nonneg zero_le_two products) denominator.le

theorem jainsIndex_eq_inv_length_iff (nonneg : ∀ v ∈ values, 0 ≤ v) (nonzero : ∃ v ∈ values, v ≠ 0) :
    jainsIndex values = 1 / values.length ↔ values.countP (fun v => v ≠ 0) = 1 := by
  have denominator := mul_pos (length_pos_of_exists nonzero) (sum_squares_pos nonzero)
  have some : 0 < values.countP (fun v => v ≠ 0) := by
    rw [List.countP_pos_iff]
    simpa using nonzero
  calc jainsIndex values = 1 / values.length
      ↔ pairSum (fun v w => v * w) values = 0 := by
        rw [← sub_eq_zero, jainsIndex_sub nonzero, div_eq_zero_iff]
        simp [denominator.ne']
    _ ↔ values.countP (fun v => v ≠ 0) ≤ 1 := by
        rw [pairSum_eq_zero_iff (products_nonneg nonneg), pairwise_mul_eq_zero_iff]
    _ ↔ values.countP (fun v => v ≠ 0) = 1 := by omega

end Bounds

/-- Jain's index of non-negative values that are not all zero runs from one over their number, reached when a
    single value is not zero, to one, reached when all are equal, and depends neither on their order nor on
    their unit. Its division never raises. -/
theorem jainsIndex_measures_fairness :
    (∀ values : List ℚ, (∀ v ∈ values, 0 ≤ v) → (∃ v ∈ values, v ≠ 0) →
      1 / values.length ≤ jainsIndex values ∧ jainsIndex values ≤ 1 ∧
      (jainsIndex values = 1 ↔ ∀ v ∈ values, ∀ w ∈ values, v = w) ∧
      (jainsIndex values = 1 / values.length ↔ values.countP (fun v => v ≠ 0) = 1) ∧
      (∀ permuted, values.Perm permuted → jainsIndex permuted = jainsIndex values) ∧
      ∀ factor, 0 < factor → jainsIndex (values.map (fun v => factor * v)) = jainsIndex values) ∧
    ∀ values, jainsIndexDivided values = .ok (jainsIndex values) := by
  refine ⟨fun values nonneg nonzero => ⟨?_, ?_, ?_, ?_, ?_, ?_⟩, jainsIndexDivided_eq⟩
  · exact inv_length_le_jainsIndex nonneg nonzero
  · exact jainsIndex_le_one nonzero
  · exact jainsIndex_eq_one_iff nonzero
  · exact jainsIndex_eq_inv_length_iff nonneg nonzero
  · exact fun permuted same => jainsIndex_perm same
  · exact fun factor positive => jainsIndex_scaled values positive

theorem jainsIndex_measures_fairness_single :
    jainsIndex [0, 3, 0] = 1 / 3 ∧ ∀ factor, 0 < factor → jainsIndex ([0, 3, 0].map (fun v => factor * v)) = 1 / 3 := by
  have measured := jainsIndex_measures_fairness.1 [0, 3, 0] (by decide +kernel) (by decide +kernel)
  have least : jainsIndex [0, 3, 0] = 1 / 3 := measured.2.2.2.1.mpr (by decide +kernel)
  exact ⟨least, fun factor positive => (measured.2.2.2.2.2 factor positive).trans least⟩

end NimbusMesh
