import Mathlib.Tactic.Positivity
import NimbusMesh.ControlPlane.Steps

namespace NimbusMesh.ControlPlane

open Foundation

def totalCompleted (plane : ControlPlane) : ℕ := ((Dict.values plane.tenantStats).map TenantStats.completed).sum

def actualShare (plane : ControlPlane) (tenantId : String) : ℚ :=
  (plane.tenant tenantId).completed / plane.totalCompleted

def expectedShare (plane : ControlPlane) (tenantId : String) : ℚ :=
  (Dict.lookup plane.config.tenantWeights tenantId).getD 1.0 /
    max 1e-9 (Dict.values plane.config.tenantWeights).sum

section Shares

variable {plane : ControlPlane} (tenantId : String)

theorem completed_le_total : (plane.tenant tenantId).completed ≤ plane.totalCompleted := by
  unfold tenant totalCompleted
  cases found : Dict.lookup plane.tenantStats tenantId with
  | none => exact Nat.zero_le _
  | some stats =>
    have member : (tenantId, stats) ∈ plane.tenantStats.toList := Dict.mem_toList_iff.mpr found
    apply List.le_sum_of_mem
    exact List.mem_map.mpr ⟨stats, List.mem_map.mpr ⟨_, member, rfl⟩, rfl⟩

theorem actualShare_le_one : plane.actualShare tenantId ≤ 1 :=
  div_le_one_of_le₀ (by exact_mod_cast completed_le_total tenantId) (Nat.cast_nonneg _)

theorem expectedShare_nonneg (weights : ∀ weight ∈ Dict.values plane.config.tenantWeights, 0 ≤ weight) :
    0 ≤ plane.expectedShare tenantId := by
  have floor : (0 : ℚ) < max 1e-9 (Dict.values plane.config.tenantWeights).sum :=
    lt_of_lt_of_le (by norm_num) (le_max_left _ _)
  apply div_nonneg _ floor.le
  cases found : Dict.lookup plane.config.tenantWeights tenantId with
  | none => norm_num
  | some weight =>
    have member : (tenantId, weight) ∈ plane.config.tenantWeights.toList := Dict.mem_toList_iff.mpr found
    exact weights weight (List.mem_map.mpr ⟨_, member, rfl⟩)

theorem fairnessPenalty_eq (weights : ∀ weight ∈ Dict.values plane.config.tenantWeights, 0 ≤ weight) :
    plane.fairnessPenalty tenantId =
      max 0 (plane.actualShare tenantId - plane.expectedShare tenantId) * plane.config.fairnessStrength := by
  have expected := expectedShare_nonneg tenantId weights
  by_cases none : plane.totalCompleted = 0
  · have share : plane.actualShare tenantId = 0 := by rw [actualShare, none, Nat.cast_zero, div_zero]
    have zero : plane.fairnessPenalty tenantId = 0 := if_pos none
    rw [zero, share, max_eq_left (by linarith), zero_mul]
  · exact if_neg none

theorem fairnessPenalty_le_of_share_le {other : ControlPlane} {tenantId tenantId' : String}
    (weights : ∀ weight ∈ Dict.values plane.config.tenantWeights, 0 ≤ weight)
    (strength : 0 ≤ plane.config.fairnessStrength) (config : other.config = plane.config)
    (expected : other.expectedShare tenantId' ≤ plane.expectedShare tenantId)
    (share : plane.actualShare tenantId ≤ other.actualShare tenantId') :
    plane.fairnessPenalty tenantId ≤ other.fairnessPenalty tenantId' := by
  rw [fairnessPenalty_eq tenantId weights, @fairnessPenalty_eq other tenantId' (by rwa [config]), config]
  apply mul_le_mul_of_nonneg_right _ strength
  apply max_le_max_left
  linarith

end Shares

section Completion

variable (plane : ControlPlane) (cluster : ClusterRuntime) (pool : PoolRuntime) (result : RequestResult)

theorem totalCompleted_completed :
    (plane.completed cluster pool result).totalCompleted = plane.totalCompleted + 1 := by
  have counted := Dict.sum_set TenantStats.completed plane.tenantStats result.request.tenantId
    { plane.tenant result.request.tenantId with
      completed := (plane.tenant result.request.tenantId).completed + 1
      totalLatencyMs := (plane.tenant result.request.tenantId).totalLatencyMs + result.totalLatencyMs
      slaMisses := (plane.tenant result.request.tenantId).slaMisses + if result.slaMet then 0 else 1 }
  have held : ((Dict.lookup plane.tenantStats result.request.tenantId).map TenantStats.completed).getD 0 =
      (plane.tenant result.request.tenantId).completed := by
    unfold tenant
    cases Dict.lookup plane.tenantStats result.request.tenantId <;> rfl
  unfold totalCompleted completed
  dsimp only at counted ⊢
  omega

theorem tenant_completed (tenantId : String) :
    ((plane.completed cluster pool result).tenant tenantId).completed = (plane.tenant tenantId).completed +
      if result.request.tenantId = tenantId then 1 else 0 := by
  unfold completed
  simp only [tenant, Dict.lookup_set]
  by_cases same : result.request.tenantId = tenantId
  · simp [same]
  · simp [same]

theorem actualShare_le_completed :
    plane.actualShare result.request.tenantId ≤
      (plane.completed cluster pool result).actualShare result.request.tenantId := by
  have bounded := @completed_le_total plane result.request.tenantId
  rw [actualShare, actualShare, tenant_completed, totalCompleted_completed, if_pos rfl]
  rcases Nat.eq_zero_or_pos plane.totalCompleted with none | some
  · rw [none, Nat.cast_zero, div_zero]
    positivity
  · have total : (0 : ℚ) < plane.totalCompleted := by exact_mod_cast some
    have share : ((plane.tenant result.request.tenantId).completed : ℚ) ≤ plane.totalCompleted := by
      exact_mod_cast bounded
    push_cast
    rw [div_le_div_iff₀ total (by linarith)]
    linarith

theorem actualShare_completed_le {tenantId : String} (other : tenantId ≠ result.request.tenantId) :
    (plane.completed cluster pool result).actualShare tenantId ≤ plane.actualShare tenantId := by
  have bounded := @completed_le_total plane tenantId
  rw [actualShare, actualShare, tenant_completed, totalCompleted_completed, if_neg other.symm, add_zero]
  rcases Nat.eq_zero_or_pos plane.totalCompleted with none | some
  · have nothing : (plane.tenant tenantId).completed = 0 := by omega
    rw [nothing, Nat.cast_zero, zero_div, zero_div]
  · have total : (0 : ℚ) < plane.totalCompleted := by exact_mod_cast some
    push_cast
    exact div_le_div_of_nonneg_left (Nat.cast_nonneg _) total (by linarith)

end Completion

/-- The fairness penalty follows the shares of the tenants: a completion raises the penalty of its own tenant and
    lowers all others, a tenant within its expected share pays none, none pays more than the fairness strength,
    and of two tenants that expect the same share the one that completed more pays no less. -/
theorem fairness_penalty_tracks_shares (plane : ControlPlane)
    (weights : ∀ weight ∈ Dict.values plane.config.tenantWeights, 0 ≤ weight)
    (strength : 0 ≤ plane.config.fairnessStrength) :
    (∀ cluster pool result,
      plane.fairnessPenalty result.request.tenantId ≤
        (plane.completed cluster pool result).fairnessPenalty result.request.tenantId ∧
      ∀ tenantId, tenantId ≠ result.request.tenantId →
        (plane.completed cluster pool result).fairnessPenalty tenantId ≤ plane.fairnessPenalty tenantId) ∧
    (∀ tenantId, plane.actualShare tenantId ≤ plane.expectedShare tenantId → plane.fairnessPenalty tenantId = 0) ∧
    (∀ tenantId, 0 ≤ plane.fairnessPenalty tenantId ∧
      plane.fairnessPenalty tenantId ≤ plane.config.fairnessStrength) ∧
    ∀ tenantId other, plane.expectedShare tenantId = plane.expectedShare other →
      (plane.tenant tenantId).completed ≤ (plane.tenant other).completed →
      plane.fairnessPenalty tenantId ≤ plane.fairnessPenalty other := by
  refine ⟨fun cluster pool result => ⟨?_, fun tenantId differs => ?_⟩, ?_, ?_, ?_⟩
  · exact fairnessPenalty_le_of_share_le weights strength rfl (le_refl _)
      (actualShare_le_completed plane cluster pool result)
  · exact @fairnessPenalty_le_of_share_le (plane.completed cluster pool result) plane tenantId tenantId weights
      strength rfl (le_refl _) (actualShare_completed_le plane cluster pool result differs)
  · intro tenantId within
    rw [fairnessPenalty_eq tenantId weights, max_eq_left (sub_nonpos.mpr within), zero_mul]
  · intro tenantId
    have share := @actualShare_le_one plane tenantId
    have expected := expectedShare_nonneg tenantId weights
    rw [fairnessPenalty_eq tenantId weights]
    constructor
    · exact mul_nonneg (le_max_left _ _) strength
    · apply mul_le_of_le_one_left strength
      exact max_le zero_le_one (by linarith)
  · intro tenantId other expected fewer
    apply fairnessPenalty_le_of_share_le weights strength rfl expected.ge
    unfold actualShare
    gcongr

def hotTenant (plane : ControlPlane) : ControlPlane :=
  { plane with tenantStats := Dict.ofList [("tenant-a", { completed := 3 }), ("tenant-b", { completed := 1 })] }

theorem fairness_penalty_tracks_shares_hot_tenant :
    let config := { sessionConfig 2 2 80 with tenantWeights := Dict.ofList [("tenant-a", 1), ("tenant-b", 1)] }
    let result := sessionResult (sessionRequest 1000) "c1" "p1" 5
    ∃ plane, create config (sessionEnvironment (emptyStore false)) = .ok plane ∧
      plane.hotTenant.fairnessPenalty "tenant-a" = 0.0625 ∧ plane.hotTenant.fairnessPenalty "tenant-b" = 0 ∧
      ∀ cluster pool, 0.0625 ≤ (plane.hotTenant.completed cluster pool result).fairnessPenalty "tenant-a" := by
  intro config result
  have evaluated : ∃ plane, create config (sessionEnvironment (emptyStore false)) = .ok plane ∧
      plane.hotTenant.fairnessPenalty "tenant-a" = 0.0625 ∧ plane.hotTenant.fairnessPenalty "tenant-b" = 0 ∧
      (∀ weight ∈ Dict.values plane.hotTenant.config.tenantWeights, 0 ≤ weight) ∧
      0 ≤ plane.hotTenant.config.fairnessStrength :=
    ⟨_, rfl, by decide +kernel, by decide +kernel, by decide +kernel, by decide +kernel⟩
  obtain ⟨plane, created, hot, cool, weights, strength⟩ := evaluated
  refine ⟨plane, created, hot, cool, fun cluster pool => ?_⟩
  have tracked := fairness_penalty_tracks_shares plane.hotTenant weights strength
  rw [← hot]
  exact (tracked.1 cluster pool result).1

end NimbusMesh.ControlPlane
