import NimbusMesh.ControlPlane.Placements

namespace NimbusMesh.ControlPlane

open Foundation Foundation.Decimal Foundation.Execution

variable {plane final : ControlPlane} {request : InferenceRequest} {now : ℚ} {result : RequestResult}

section Assembled

variable {cluster : ClusterRuntime} {pool : PoolRuntime} {cache : ℚ × ℤ} {candidate : CandidatePlacement}

def Answers (plane : ControlPlane) (request : InferenceRequest) (now : ℚ) (pools : List (ClusterRuntime × PoolRuntime))
    (directory : KVCacheDirectory) (cluster : ClusterRuntime) (pool : PoolRuntime) (cache : ℚ × ℤ) : Prop :=
  ∃ before after candidates asked scored, pools = before ++ (cluster, pool) :: after ∧
    plane.candidatesFor request now before directory = .ok candidates asked ∧
    KVCacheDirectory.score request cluster.clusterId pool.poolId now asked = .ok cache scored

theorem candidatesFor_mem {pools : List (ClusterRuntime × PoolRuntime)} {directory last : KVCacheDirectory}
    {candidates : List CandidatePlacement}
    (returned : plane.candidatesFor request now pools directory = .ok candidates last)
    (member : candidate ∈ candidates) :
    ∃ cluster pool cache, Answers plane request now pools directory cluster pool cache ∧
      plane.assemble request now cluster pool cache = .ok candidate := by
  induction pools generalizing directory candidates with
  | nil =>
    cases returned
    cases member
  | cons placement rest ih =>
    obtain ⟨cluster, pool⟩ := placement
    obtain ⟨cache, scored, first, others, asking, building, continued, rfl⟩ := candidatesFor_cons_eq_ok returned
    rcases List.mem_cons.mp member with rfl | later
    · exact ⟨cluster, pool, cache, ⟨[], rest, [], directory, scored, rfl, rfl, asking⟩, building⟩
    · obtain ⟨cluster', pool', cache', ⟨before, after, earlier, asked, next, rfl, walked, answer⟩, built⟩ :=
        ih continued later
      refine ⟨cluster', pool', cache', ⟨(cluster, pool) :: before, after, first :: earlier, asked, next, rfl, ?_,
        answer⟩, built⟩
      simp only [candidatesFor, asking, building, walked]

theorem assemble_estimates (built : plane.assemble request now cluster pool cache = .ok candidate) :
    ∃ routeCost backend delay, OnGrid 4 routeCost ∧ backendNamed pool.backendName = .ok backend ∧
      pool.queueDelayMs now = .ok delay ∧ candidate.queueDelayMs = roundTo 4 delay ∧
      candidate.networkCost = roundTo 4 (cluster.ingressCost + routeCost) ∧
      candidate.congestionScore = roundTo 4 pool.congestionScore ∧
      (candidate.projectedPrefillMs, candidate.projectedDecodeMs) = backend request pool
        candidate.expectedCacheHitRatio candidate.topologyAffinity (cluster.ingressCost + routeCost)
        pool.congestionScore := by
  obtain ⟨affinity, _, built⟩ := except_bind_eq_ok.mp built
  obtain ⟨routeCost, routed, built⟩ := except_bind_eq_ok.mp built
  obtain ⟨backend, named, built⟩ := except_bind_eq_ok.mp built
  obtain ⟨delay, waited, built⟩ := except_bind_eq_ok.mp built
  cases built
  have rounded : OnGrid 4 routeCost := by
    unfold TopologyService.routeCost at routed
    split at routed
    · cases routed
    · split at routed
      · cases routed
      · cases routed
        exact onGrid_roundTo 4 _
  exact ⟨routeCost, backend, delay, rounded, named, waited, rfl, rfl, rfl, rfl⟩

theorem Answers.mem {pools : List (ClusterRuntime × PoolRuntime)} {directory : KVCacheDirectory}
    (answers : Answers plane request now pools directory cluster pool cache) : (cluster, pool) ∈ pools := by
  obtain ⟨before, after, _, _, _, split, _⟩ := answers
  simp [split]

end Assembled

theorem mem_of_mem_placements {cluster : ClusterRuntime} {pool : PoolRuntime}
    (member : (cluster, pool) ∈ plane.placements) :
    cluster ∈ plane.clusters.toList ∧ pool ∈ cluster.pools.toList := by
  obtain ⟨owner, inClusters, inPools⟩ := List.mem_flatMap.mp member
  obtain ⟨held, inside, same⟩ := List.mem_map.mp inPools
  cases same
  exact ⟨inClusters, inside⟩

structure Placed (plane : ControlPlane) (request : InferenceRequest) (now : ℚ) (result : RequestResult)
    (final : ControlPlane) (cluster : ClusterRuntime) (pool : PoolRuntime) (cache : ℚ × ℤ)
    (candidate : CandidatePlacement) (call : PlacementCall) (slotIndex : ℕ) : Prop where
  answers : Answers plane request now plane.placements plane.cacheDirectory cluster pool cache
  assembled : plane.assemble request now cluster pool cache = .ok candidate
  accepted : rejectionReason request now cluster pool (estimateRequestMemoryGb request.promptTokens
    request.generationTokens request.modelId cache.2) = none
  asked : call.request = request
  called : call.now = now
  enriched : call.candidate = plane.cudaEngine.enrich candidate
  decided : ∃ routed : ControlPlane, call.decision = routed.decisionFor request call.candidate
  named : backendNamed pool.backendName = .ok call.backend
  slot : SlotQueue.earliest pool.slotAvailableAt = some slotIndex
  result : result = call.result pool slotIndex
  booked : final.poolIn cluster.clusterId pool.poolId = some (servedPool call pool slotIndex)

theorem execute_admitted (returned : execute request now plane = .ok result final)
    (admitted : result.admitted = true) :
    ∃ cluster pool cache candidate call slotIndex,
      Placed plane request now result final cluster pool cache candidate call slotIndex := by
  obtain ⟨candidates, directory, choice, cluster, pool, policy, backend, asked, choosing, chosen, named, outcome⟩ :=
    execute_returned returned
  rcases outcome with ⟨_, rfl, _⟩ | ⟨available, scheduler, placing, rfl⟩
  · cases admitted
  · obtain ⟨candidate, inside, rfl⟩ := List.mem_map.mp (chooseCandidate_eq_ok choosing).1
    obtain ⟨owner, held, cache, answers, assembled⟩ := candidatesFor_mem asked inside
    obtain ⟨clusterId, poolId, backendName, saved, _⟩ := assemble_eq_ok assembled
    -- the chosen candidate names the pool it was assembled for
    have same : some (owner, held) = some (cluster, pool) := by
      rw [← poolAt_of_mem_placements answers.mem, ← chosen.found, ← clusterId, ← poolId]
      rfl
    cases same
    obtain ⟨slotIndex, slot, made, booked, _⟩ := placeRequest_eq_ok placing
    have accepted := chosen.available
    rw [available, show (plane.cudaEngine.enrich candidate).expectedCacheSavedTokens = cache.2 from saved]
      at accepted
    have owned := (poolAt_eq_some chosen.found).1
    rw [← chosen.clusterId] at owned
    have fits := Option.isNone_iff_eq_none.mp accepted.symm
    refine ⟨cluster, pool, cache, candidate, _, slotIndex, answers, assembled, fits, rfl, rfl, rfl, ⟨_, rfl⟩,
      backendName ▸ named, slot, made, ?_⟩
    rw [booked]
    refine (poolIn_setPool owned _ cluster.clusterId pool.poolId).trans ?_
    exact if_pos ⟨rfl, rfl⟩

section Estimates

variable {cluster : ClusterRuntime} {pool : PoolRuntime} {cache : ℚ × ℤ} {candidate : CandidatePlacement}
  {call : PlacementCall} {slotIndex : ℕ}

/-- The backend is asked twice, and the second time about rounded costs. On the grid it gives the
    same answer. -/
theorem Placed.latency_eq (placed : Placed plane request now result final cluster pool cache candidate call slotIndex)
    (ingress : OnGrid 4 cluster.ingressCost) (congested : OnGrid 4 pool.congestionScore) :
    call.latency pool = (candidate.projectedPrefillMs, candidate.projectedDecodeMs) := by
  obtain ⟨routeCost, backend, _, routed, named, _, _, networkCost, congestionScore, projected⟩ :=
    assemble_estimates placed.assembled
  rw [placed.named] at named
  cases named
  rw [(ingress.add routed).roundTo_eq] at networkCost
  rw [congested.roundTo_eq] at congestionScore
  rw [projected, ← networkCost, ← congestionScore, PlacementCall.latency, placed.asked, placed.enriched]
  rfl

theorem Placed.queueDelay_eq
    (placed : Placed plane request now result final cluster pool cache candidate call slotIndex) :
    candidate.queueDelayMs = result.queueDelayMs := by
  obtain ⟨_, _, delay, _, _, waited, queueDelay, _⟩ := assemble_estimates placed.assembled
  rw [PoolRuntime.queueDelayMs, SlotQueue.earliest_min? placed.slot] at waited
  cases waited
  have wait : max 0 (pool.slotAvailableAt.getD slotIndex 0 - now) =
      max 0 (call.startTs pool slotIndex - call.now) := by
    rw [PlacementCall.startTs, placed.called]
    rcases le_total now (pool.slotAvailableAt.getD slotIndex 0) with later | free
    · rw [max_eq_right later]
    · rw [max_eq_left free, sub_self, max_eq_left (sub_nonpos.mpr free), max_self]
  rw [queueDelay, wait, placed.result]
  rfl

theorem Placed.decision_eq
    (placed : Placed plane request now result final cluster pool cache candidate call slotIndex) :
    result.decision.clusterId = cluster.clusterId ∧ result.decision.poolId = pool.poolId ∧
      result.decision.estimatedLatencyMs = roundTo 4 candidate.estimatedTotalLatencyMs ∧
      result.decision.estimatedQueueDelayMs = roundTo 4 candidate.queueDelayMs := by
  obtain ⟨clusterId, poolId, _⟩ := assemble_eq_ok placed.assembled
  obtain ⟨routed, decided⟩ := placed.decided
  rw [placed.result, show (call.result pool slotIndex).decision = call.decision from rfl, decided, placed.enriched]
  exact ⟨clusterId, poolId, rfl, rfl⟩

theorem Placed.estimates_eq
    (placed : Placed plane request now result final cluster pool cache candidate call slotIndex)
    (ingress : OnGrid 4 cluster.ingressCost) (congested : OnGrid 4 pool.congestionScore) (arrives : OnGrid 7 now)
    (slots : ∀ time ∈ pool.slotAvailableAt, OnGrid 7 time) :
    result.decision.estimatedLatencyMs = result.totalLatencyMs ∧
      result.decision.estimatedQueueDelayMs = result.queueDelayMs := by
  have delay := placed.queueDelay_eq
  have latency := placed.latency_eq ingress congested
  have called : OnGrid 7 call.now := placed.called ▸ arrives
  obtain ⟨_, _, estimatedLatency, estimatedDelay⟩ := placed.decision_eq
  obtain ⟨prefill, decode⟩ := onGrid_latency placed.named pool
  obtain ⟨wait, _, _, total, _⟩ := reported_unrounded placed.named called slots slotIndex
  rw [← placed.result] at wait total
  have waited : OnGrid 4 result.queueDelayMs := by
    rw [placed.result]
    exact onGrid_roundTo 4 _
  constructor
  · have sum : candidate.estimatedTotalLatencyMs =
        result.queueDelayMs + (call.latency pool).1 + (call.latency pool).2 := by
      rw [CandidatePlacement.estimatedTotalLatencyMs, delay, latency]
    rw [estimatedLatency, sum, ((waited.add prefill).add decode).roundTo_eq, wait, total]
  · rw [estimatedDelay, delay, waited.roundTo_eq]

end Estimates

/-- What the router foretold of an admitted request is what the scheduler did with it, and the memory
    checked against the headroom of the pool is the memory charged to it. -/
structure EstimatesMet (plane : ControlPlane) (request : InferenceRequest) (now : ℚ) (result : RequestResult)
    (final : ControlPlane) : Prop where
  latency : result.decision.estimatedLatencyMs = result.totalLatencyMs
  queueDelay : result.decision.estimatedQueueDelayMs = result.queueDelayMs
  memory : ∃ cluster pool cache charged,
    result.decision.clusterId = cluster.clusterId ∧ result.decision.poolId = pool.poolId ∧
    Answers plane request now plane.placements plane.cacheDirectory cluster pool cache ∧
    final.poolIn cluster.clusterId pool.poolId = some charged ∧
    let checked := estimateRequestMemoryGb request.promptTokens request.generationTokens request.modelId cache.2
    rejectionReason request now cluster pool checked = none ∧
      charged.inflightMemory = pool.inflightMemory ++ [(result.completionTs, checked)] ∧
      charged.activeMemoryGb = pool.activeMemoryGb + checked

theorem execute_estimatesMet {origin : List ClusterRuntime} (gridded : Gridded origin plane) (arrives : OnGrid 7 now)
    (ingress : ∀ cluster ∈ plane.clusters.toList, OnGrid 4 cluster.ingressCost)
    (congested : ∀ cluster ∈ plane.clusters.toList, ∀ pool ∈ cluster.pools.toList, OnGrid 4 pool.congestionScore)
    (returned : execute request now plane = .ok result final) (admitted : result.admitted = true) :
    EstimatesMet plane request now result final := by
  obtain ⟨cluster, pool, cache, candidate, call, slotIndex, placed⟩ := execute_admitted returned admitted
  obtain ⟨held, inside⟩ := mem_of_mem_placements placed.answers.mem
  obtain ⟨latency, queueDelay⟩ := placed.estimates_eq (ingress cluster held) (congested cluster held pool inside)
    arrives (gridded.slots cluster held pool inside)
  obtain ⟨clusterId, poolId, _⟩ := placed.decision_eq
  obtain ⟨_, _, _, saved, _⟩ := assemble_eq_ok placed.assembled
  have charged : call.memoryGb = estimateRequestMemoryGb request.promptTokens request.generationTokens
      request.modelId cache.2 := by
    rw [PlacementCall.memoryGb, placed.asked, placed.enriched, ← saved]
    rfl
  refine ⟨latency, queueDelay, cluster, pool, cache, _, clusterId, poolId, placed.answers, placed.booked,
    placed.accepted, ?_, ?_⟩
  · rw [← charged, placed.result]
    rfl
  · rw [← charged]
    rfl

theorem congestionScore_refresh (plane : ControlPlane) (now : ℚ) :
    ∀ cluster ∈ (plane.refresh now).clusters.toList, ∀ pool ∈ cluster.pools.toList,
      pool.congestionScore = cluster.effectiveCongestion now := by
  obtain ⟨_, _, refreshed⟩ := refresh_eq plane now
  rw [refreshed]
  intro cluster member pool inside
  obtain ⟨before, _, rfl⟩ := List.mem_map.mp member
  obtain ⟨old, _, rfl⟩ := List.mem_map.mp inside
  rfl

end NimbusMesh.ControlPlane
