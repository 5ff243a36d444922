import NimbusMesh.ControlPlane.Counterpart
import NimbusMesh.ControlPlane.Turns

namespace NimbusMesh

open Foundation Foundation.Decimal Foundation.Execution

@[mk_iff]
structure CandidatePlacement.NoWorse (first second : CandidatePlacement) : Prop where
  queueDelayMs : first.queueDelayMs ≤ second.queueDelayMs
  projectedPrefillMs : first.projectedPrefillMs ≤ second.projectedPrefillMs
  projectedDecodeMs : first.projectedDecodeMs ≤ second.projectedDecodeMs
  networkCost : first.networkCost ≤ second.networkCost
  acceleratorCostPer1mTokens : first.acceleratorCostPer1mTokens ≤ second.acceleratorCostPer1mTokens
  congestionScore : first.congestionScore ≤ second.congestionScore
  expectedCacheHitRatio : second.expectedCacheHitRatio ≤ first.expectedCacheHitRatio
  expectedCacheSavedTokens : second.expectedCacheSavedTokens ≤ first.expectedCacheSavedTokens
  topologyAffinity : second.topologyAffinity ≤ first.topologyAffinity
  memoryHeadroomGb : second.memoryHeadroomGb ≤ first.memoryHeadroomGb

/-- The first candidate is better than the second in something the objective weighs by itself. -/
def CandidatePlacement.Better (first second : CandidatePlacement) : Prop :=
  first.estimatedTotalLatencyMs < second.estimatedTotalLatencyMs ∨ first.networkCost < second.networkCost ∨
    first.acceleratorCostPer1mTokens < second.acceleratorCostPer1mTokens ∨
    first.congestionScore < second.congestionScore ∨
    second.expectedCacheHitRatio < first.expectedCacheHitRatio ∨ second.topologyAffinity < first.topologyAffinity

instance (first second : CandidatePlacement) : Decidable (first.NoWorse second) :=
  decidable_of_iff _ (CandidatePlacement.noWorse_iff first second).symm

instance (first second : CandidatePlacement) : Decidable (first.Better second) :=
  inferInstanceAs (Decidable (_ ∨ _))

namespace CandidatePlacement.NoWorse

variable {first second : CandidatePlacement} (noWorse : NoWorse first second)

include noWorse

theorem latency : first.estimatedTotalLatencyMs ≤ second.estimatedTotalLatencyMs := by
  have queue := noWorse.queueDelayMs
  have prefill := noWorse.projectedPrefillMs
  have decode := noWorse.projectedDecodeMs
  unfold estimatedTotalLatencyMs
  linarith

theorem cacheScore (hit : 0 ≤ second.expectedCacheHitRatio) (saved : 0 ≤ second.expectedCacheSavedTokens) :
    CudaScoringEngine.cacheScore second ≤ CudaScoringEngine.cacheScore first := by
  have tokens : (second.expectedCacheSavedTokens : ℚ) ≤ first.expectedCacheSavedTokens := by
    exact_mod_cast noWorse.expectedCacheSavedTokens
  have least : (0 : ℚ) ≤ second.expectedCacheSavedTokens := by exact_mod_cast saved
  have ratio := noWorse.expectedCacheHitRatio
  have better : (0 : ℚ) ≤ first.expectedCacheHitRatio := hit.trans ratio
  unfold CudaScoringEngine.cacheScore
  gcongr

theorem topologyCost : CudaScoringEngine.topologyCost first ≤ CudaScoringEngine.topologyCost second := by
  have cost := noWorse.networkCost
  have affinity := noWorse.topologyAffinity
  unfold CudaScoringEngine.topologyCost
  gcongr

theorem loadBalance : CudaScoringEngine.loadBalance first ≤ CudaScoringEngine.loadBalance second := by
  have queue := noWorse.queueDelayMs
  have congestion := noWorse.congestionScore
  have headroom := noWorse.memoryHeadroomGb
  unfold CudaScoringEngine.loadBalance
  gcongr

end CandidatePlacement.NoWorse

/-- The objective of the multi-objective policy without the terms on which all candidates of a request with
    the same premium flag agree. -/
def objective (latencyWeight costWeight : ℚ) (item : CandidatePlacement) : ℚ :=
  item.estimatedTotalLatencyMs * latencyWeight + item.networkCost * 18.0
    + item.acceleratorCostPer1mTokens * costWeight + item.congestionScore * 90.0
    - item.expectedCacheHitRatio * 450.0 - item.topologyAffinity * 85.0
    - roundTo 4 (CudaScoringEngine.cacheScore item) * 70.0
    + roundTo 4 (CudaScoringEngine.topologyCost item) * 65.0
    + roundTo 4 (CudaScoringEngine.loadBalance item) * 55.0

theorem objective_lt {first second : CandidatePlacement} (noWorse : first.NoWorse second)
    (better : first.Better second) (hit : 0 ≤ second.expectedCacheHitRatio)
    (saved : 0 ≤ second.expectedCacheSavedTokens) {latencyWeight costWeight : ℚ} (latencyWeighs : 0 < latencyWeight)
    (costWeighs : 0 < costWeight) :
    objective latencyWeight costWeight first < objective latencyWeight costWeight second := by
  have latency := mul_le_mul_of_nonneg_right noWorse.latency latencyWeighs.le
  have cost := mul_le_mul_of_nonneg_right noWorse.acceleratorCostPer1mTokens costWeighs.le
  have network := noWorse.networkCost
  have congestion := noWorse.congestionScore
  have ratio := noWorse.expectedCacheHitRatio
  have affinity := noWorse.topologyAffinity
  have bonus := roundTo_mono 4 (noWorse.cacheScore hit saved)
  have penalty := roundTo_mono 4 noWorse.topologyCost
  have load := roundTo_mono 4 noWorse.loadBalance
  unfold objective
  norm_num
  rcases better with strict | strict | strict | strict | strict | strict
  · have strictly := mul_lt_mul_of_pos_right strict latencyWeighs
    linarith
  · linarith
  · have strictly := mul_lt_mul_of_pos_right strict costWeighs
    linarith
  · linarith
  · linarith
  · linarith

/-- What the scoring engine leaves in a candidate on the path without a GPU. -/
structure CandidatePlacement.Scored (item : CandidatePlacement) : Prop where
  cacheBonus : item.scoreBreakdown.cudaCacheBonus = some (roundTo 4 (CudaScoringEngine.cacheScore item))
  topologyPenalty : item.scoreBreakdown.cudaTopologyPenalty = some (roundTo 4 (CudaScoringEngine.topologyCost item))
  loadPenalty : item.scoreBreakdown.cudaLoadPenalty = some (roundTo 4 (CudaScoringEngine.loadBalance item))

namespace Policy

theorem multiObjectiveKey_scored (request : InferenceRequest) :
    ∃ latencyWeight costWeight : ℚ, 0 < latencyWeight ∧ 0 < costWeight ∧ ∃ premiumPenalty : Bool → ℚ,
      ∀ item : CandidatePlacement, item.Scored → multiObjectiveKey request item =
        objective latencyWeight costWeight item + (item.fairnessPenalty * 110.0 + premiumPenalty item.premium) := by
  let priority := slaPriority request.slaClass
  let latencyWeight : ℚ := if priority = 3 then 1.4 else if priority = 2 then 1.1 else 0.75
  let costWeight : ℚ := if priority = 3 then 0.25 else 0.55
  have latencyWeighs : 0 < latencyWeight := by
    unfold latencyWeight
    split_ifs <;> norm_num
  have costWeighs : 0 < costWeight := by
    unfold costWeight
    split_ifs <;> norm_num
  refine ⟨latencyWeight, costWeight, latencyWeighs, costWeighs, fun premium =>
    if request.slaClass = .realtime ∧ ¬ premium then 25.0
    else if request.slaClass = .bestEffort ∧ premium then 70.0 else 0.0, ?_⟩
  intro item scored
  simp only [multiObjectiveKey, objective, scored.cacheBonus, scored.topologyPenalty, scored.loadPenalty,
    Option.getD_some]
  change item.estimatedTotalLatencyMs * latencyWeight + _ + item.acceleratorCostPer1mTokens * costWeight + _ - _ - _
    + _ - _ + _ + _ + _ = _
  linarith

theorem multiObjectiveKey_lt (request : InferenceRequest) {first second : CandidatePlacement}
    (firstScored : first.Scored) (secondScored : second.Scored) (samePremium : first.premium = second.premium)
    (samePenalty : first.fairnessPenalty = second.fairnessPenalty) (noWorse : first.NoWorse second)
    (better : first.Better second) (hit : 0 ≤ second.expectedCacheHitRatio)
    (saved : 0 ≤ second.expectedCacheSavedTokens) :
    multiObjectiveKey request first < multiObjectiveKey request second := by
  obtain ⟨latencyWeight, costWeight, latencyWeighs, costWeighs, premiumPenalty, key⟩ :=
    multiObjectiveKey_scored request
  rw [key first firstScored, key second secondScored, samePremium, samePenalty]
  have less := objective_lt noWorse better hit saved latencyWeighs costWeighs
  linarith

end Policy

namespace ControlPlane

theorem cudaEngine_create {config : ExperimentConfig} {environment : Environment} {plane : ControlPlane}
    (created : create config environment = .ok plane) : plane.cudaEngine = environment.cudaEngine := by
  obtain ⟨policy, _, built⟩ := except_bind_eq_ok.mp created
  cases built
  rfl

theorem cudaEngine_session (plane : ControlPlane) (calls : List PlaneCall) :
    (calls.foldl attempt (plane, [])).1.cudaEngine = plane.cudaEngine := by
  have routing : ∀ request now,
      Keeps (fun later : ControlPlane => later.cudaEngine = plane.cudaEngine) (route request now) := by
    intro request now
    apply keeps_route_of
    · intro later same
      rw [stateAfter_buildCandidates]
      exact same
    · intro candidates later same
      obtain ⟨policy, chosen⟩ := stateAfter_chooseCandidate request candidates later
      rw [chosen]
      exact same
  apply List.foldlRecOn (motive := fun session : ControlPlane × List RequestResult =>
    session.1.cudaEngine = plane.cudaEngine) calls attempt rfl
  intro session same call _
  cases call with
  | refresh now => exact same
  | route request now => exact routing request now session.1 same
  | execute request now =>
    apply keeps_execute_of (routing request now) _ session.1 same
    intro later candidate decision cluster pool backend _ _ same
    simp only [stateAfter, place]
    cases placeRequest ⟨request, candidate, decision, backend, now⟩ ⟨pool, later.cacheDirectory⟩ with
    | error raised scheduler => exact same
    | ok result scheduler => exact same

theorem scored_of_buildCandidates {plane final : ControlPlane} {request : InferenceRequest} {now : ℚ}
    {candidates : List CandidatePlacement} (built : buildCandidates request now plane = .ok candidates final)
    (cpu : plane.cudaEngine.available = false) {candidate : CandidatePlacement} (member : candidate ∈ candidates) :
    candidate.Scored := by
  obtain ⟨plain, directory, _, rfl, _⟩ := buildCandidates_eq_ok built
  obtain ⟨item, _, rfl⟩ := List.mem_map.mp member
  constructor
  all_goals
    simp only [CudaScoringEngine.enrich, cpu, Bool.false_eq_true, if_false]
    rfl

theorem expected_nonneg {plane final : ControlPlane}
    (weighed : KVCacheDirectory.Carries KVCacheDirectory.Weighed plane.cacheDirectory) {request : InferenceRequest}
    {now : ℚ} {candidates : List CandidatePlacement}
    (built : buildCandidates request now plane = .ok candidates final) {candidate : CandidatePlacement}
    (member : candidate ∈ candidates) :
    0 ≤ candidate.expectedCacheHitRatio ∧ 0 ≤ candidate.expectedCacheSavedTokens := by
  obtain ⟨scored, asked⟩ := buildCandidates_scored built member
  have carries : KVCacheDirectory.Carries KVCacheDirectory.Weighed
      (plane.directoryAt request now candidate.clusterId candidate.poolId) :=
    keeps_candidatesFor (sustained_carries KVCacheDirectory.recordable_weighed) plane request now _ _ weighed
  have found := KVCacheDirectory.score_credited asked
  generalize plane.directoryAt request now candidate.clusterId candidate.poolId = directory at found carries
  obtain ⟨ratio, tokens⟩ := Prod.mk.inj found
  rw [ratio, tokens]
  cases leads : KVCacheDirectory.credited directory.ttlS candidate.clusterId candidate.poolId now
      (directory.consulted request now) with
  | none => simp [KVCacheDirectory.hitOf]
  | some entry =>
    have inside : entry ∈ directory.consulted request now := (List.mem_filter.mp (List.argmax_mem leads)).1
    have size : 0 ≤ entry.sizeTokens := (carries.prepareScore request now).held _ entry inside
    have bounds := entry.hitRatio_bounds directory.ttlS candidate.clusterId candidate.poolId now
    have positive := KVCacheDirectory.roundTo_hitRatio_pos entry directory.ttlS candidate.clusterId candidate.poolId now
    refine ⟨positive.le, ?_⟩
    simp only [KVCacheDirectory.hitOf]
    rw [CacheEntry.savedTokens_eq_floor size request.tokens_positive.1.le bounds.1.le, Int.floor_nonneg]
    apply mul_nonneg _ bounds.1.le
    exact_mod_cast le_min size request.tokens_positive.1.le

/-- The multi-objective policy does not return a candidate over which another one of the same premium flag
    dominates. -/
theorem multi_objective_undominated (config : ExperimentConfig) (environment : Environment) (plane : ControlPlane)
    (created : create config environment = .ok plane) (cpu : environment.cudaEngine.available = false)
    (stored : ∀ key entries, environment.redisStore.storedEntries key = .ok entries →
      ∀ entry ∈ entries, 0 ≤ entry.sizeTokens)
    (calls : List PlaneCall) (request : InferenceRequest) (now : ℚ) (candidates : List CandidatePlacement)
    (final : ControlPlane)
    (built : buildCandidates request now (calls.foldl attempt (plane, [])).1 = .ok candidates final)
    (first second : CandidatePlacement) (firstMember : first ∈ candidates) (secondMember : second ∈ candidates)
    (available : first.available = true)
    (samePremium : first.premium = second.premium) (noWorse : first.NoWorse second) (better : first.Better second) :
    ∃ choice, Policy.multiObjective.choose request candidates = .ok (choice, .multiObjective) ∧ choice ≠ second := by
  have penalties := fairnessPenalty_of_buildCandidates built
  have samePenalty := (penalties first firstMember).trans (penalties second secondMember).symm
  obtain ⟨hit, saved⟩ := expected_nonneg (weighed_session created stored calls) built secondMember
  have unavailable : (calls.foldl attempt (plane, [])).1.cudaEngine.available = false := by
    rw [cudaEngine_session, cudaEngine_create created]
    exact cpu
  have less := Policy.multiObjectiveKey_lt request (scored_of_buildCandidates built unavailable firstMember)
    (scored_of_buildCandidates built unavailable secondMember) samePremium samePenalty noWorse better hit saved
  have usable : first ∈ Policy.availableCandidates candidates := by
    have inside : first ∈ candidates.filter (fun candidate => candidate.available) :=
      List.mem_filter.mpr ⟨firstMember, available⟩
    unfold Policy.availableCandidates
    rw [if_neg (List.ne_nil_of_mem inside)]
    exact inside
  cases leads : (Policy.availableCandidates candidates).argmin (Policy.multiObjectiveKey request) with
  | none =>
    rw [List.argmin_eq_none.mp leads] at usable
    cases usable
  | some choice =>
    refine ⟨choice, ?_, ?_⟩
    · simp only [Policy.choose, leads]
      rfl
    · intro dominated
      have least := List.le_of_mem_argmin usable leads
      rw [dominated] at least
      exact absurd least (not_le_of_gt less)

def fasterSecond : List CandidatePlacement → Bool
  | [slow, fast] =>
    decide (fast.available = true ∧ fast.premium = slow.premium ∧ fast.NoWorse slow ∧ fast.Better slow)
  | _ => false

theorem multi_objective_undominated_by_speed :
    ∃ plane slow fast final choice,
      create (pairConfig "multi_objective" 4) (sessionEnvironment (emptyStore false)) = .ok plane ∧
      buildCandidates (sessionRequest 1000) 20
        ([PlaneCall.route (sessionRequest 500) 0].foldl attempt (plane, [])).1 = .ok [slow, fast] final ∧
      fast.NoWorse slow ∧ fast.Better slow ∧
      Policy.multiObjective.choose (sessionRequest 1000) [slow, fast] = .ok (choice, .multiObjective) ∧
      choice ≠ slow := by
  have evaluated : ∃ plane,
      create (pairConfig "multi_objective" 4) (sessionEnvironment (emptyStore false)) = .ok plane ∧
      (valueOf (buildCandidates (sessionRequest 1000) 20
        ([PlaneCall.route (sessionRequest 500) 0].foldl attempt (plane, [])).1)).any fasterSecond = true :=
    ⟨_, rfl, by decide +kernel⟩
  obtain ⟨plane, created, faster⟩ := evaluated
  obtain ⟨candidates, value, faster⟩ := (Option.any_eq_true _ _).mp faster
  obtain ⟨slow, fast, rfl⟩ : ∃ slow fast, candidates = [slow, fast] := by
    unfold fasterSecond at faster
    split at faster
    · exact ⟨_, _, rfl⟩
    · cases faster
  obtain ⟨available, samePremium, noWorse, better⟩ := of_decide_eq_true faster
  obtain ⟨final, built⟩ := valueOf_eq_some.mp value
  obtain ⟨choice, chosen, other⟩ := multi_objective_undominated (pairConfig "multi_objective" 4)
    (sessionEnvironment (emptyStore false)) plane created rfl
    (KVCacheDirectory.stored_disabled rfl _)
    [.route (sessionRequest 500) 0] (sessionRequest 1000) 20 [slow, fast] final built fast slow (by simp) (by simp)
    available samePremium noWorse better
  exact ⟨plane, slow, fast, final, choice, created, built, noWorse, better, chosen, other⟩

end ControlPlane

end NimbusMesh
