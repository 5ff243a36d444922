import NimbusMesh.Cache.Buckets
import NimbusMesh.ControlPlane.Service
import NimbusMesh.Policies.Selection
import NimbusMesh.Scheduler.Slots

namespace NimbusMesh.ControlPlane

open Foundation Foundation.Execution

def poolIn (plane : ControlPlane) (clusterId poolId : String) : Option PoolRuntime :=
  (plane.clusters.get? clusterId).bind (fun cluster => cluster.pools.get? poolId)

theorem poolAt_eq_some {plane : ControlPlane} {clusterId poolId : String} {cluster : ClusterRuntime}
    {pool : PoolRuntime} (found : plane.poolAt clusterId poolId = some (cluster, pool)) :
    plane.clusters.get? clusterId = some cluster ∧ cluster.pools.get? poolId = some pool := by
  obtain ⟨owner, at_cluster, inside⟩ := Option.bind_eq_some_iff.mp found
  obtain ⟨held, at_pool, same⟩ := Option.map_eq_some_iff.mp inside
  cases same
  exact ⟨at_cluster, at_pool⟩

theorem poolIn_of_poolAt {plane : ControlPlane} {clusterId poolId : String} {cluster : ClusterRuntime}
    {pool : PoolRuntime} (found : plane.poolAt clusterId poolId = some (cluster, pool)) :
    plane.poolIn clusterId poolId = some pool := by
  obtain ⟨at_cluster, at_pool⟩ := poolAt_eq_some found
  simp [poolIn, at_cluster, at_pool]

theorem poolIn_poolId {plane : ControlPlane} {clusterId poolId : String} {pool : PoolRuntime}
    (found : plane.poolIn clusterId poolId = some pool) : pool.poolId = poolId := by
  obtain ⟨cluster, _, at_pool⟩ := Option.bind_eq_some_iff.mp found
  exact KeyedList.get?_key at_pool

theorem poolAt_of_mem_placements {plane : ControlPlane} {cluster : ClusterRuntime} {pool : PoolRuntime}
    (member : (cluster, pool) ∈ plane.placements) :
    plane.poolAt cluster.clusterId pool.poolId = some (cluster, pool) := by
  obtain ⟨owner, inClusters, inPools⟩ := List.mem_flatMap.mp member
  obtain ⟨held, inside, same⟩ := List.mem_map.mp inPools
  cases same
  have at_cluster := KeyedList.get?_eq_some.mpr ⟨inClusters, rfl⟩
  have at_pool := KeyedList.get?_eq_some.mpr ⟨inside, rfl⟩
  simp [poolAt, at_cluster, at_pool]

@[simp] theorem poolIn_setPool {plane : ControlPlane} {cluster : ClusterRuntime}
    (found : plane.clusters.get? cluster.clusterId = some cluster) (pool : PoolRuntime)
    (clusterId poolId : String) :
    (plane.setPool cluster pool).poolIn clusterId poolId =
      if cluster.clusterId = clusterId ∧ pool.poolId = poolId then some pool
      else plane.poolIn clusterId poolId := by
  simp only [poolIn, setPool, KeyedList.get?_insert]
  by_cases sameCluster : cluster.clusterId = clusterId
  · rw [if_pos sameCluster, ← sameCluster, found]
    simp only [Option.bind_some, KeyedList.get?_insert, true_and]
  · rw [if_neg sameCluster, if_neg (fun both => sameCluster both.1)]

theorem poolIn_create {config : ExperimentConfig} {environment : Environment} {plane : ControlPlane}
    (created : create config environment = .ok plane) {clusterId poolId : String} {pool : PoolRuntime}
    (found : plane.poolIn clusterId poolId = some pool) : ∃ cluster spec, pool = buildPool cluster spec := by
  obtain ⟨policy, _, built⟩ := except_bind_eq_ok.mp created
  cases built
  obtain ⟨cluster, at_cluster, at_pool⟩ := Option.bind_eq_some_iff.mp found
  have inClusters := (KeyedList.get?_eq_some.mp at_cluster).1
  have inPools := (KeyedList.get?_eq_some.mp at_pool).1
  rcases KeyedList.mem_foldl_insert buildCluster _ _ inClusters with empty | ⟨spec, _, rfl⟩
  · cases empty
  · rcases KeyedList.mem_foldl_insert (buildPool spec) _ _ inPools with empty | ⟨poolSpec, _, same⟩
    · cases empty
    · exact ⟨spec, poolSpec, same⟩

theorem cacheDirectory_create {config : ExperimentConfig} {environment : Environment}
    {plane : ControlPlane} (created : create config environment = .ok plane) :
    plane.cacheDirectory = { entries := KeyedList.empty, redisStore := environment.redisStore } := by
  obtain ⟨policy, _, built⟩ := except_bind_eq_ok.mp created
  cases built
  rfl

section Refresh

variable (now : ℚ) (directory : KVCacheDirectory)

def refreshedPool (cluster : ClusterRuntime) (pool : PoolRuntime) : PoolRuntime :=
  { pool.refresh now with
    congestionScore := cluster.effectiveCongestion now
    cacheReservedGb := directory.reservedAt cluster.clusterId pool.poolId }

theorem refreshedPool_poolId (cluster : ClusterRuntime) (pool : PoolRuntime) :
    (refreshedPool now directory cluster pool).poolId = pool.poolId := rfl

def refreshedCluster (cluster : ClusterRuntime) : ClusterRuntime :=
  { cluster with
    pools := cluster.pools.map (refreshedPool now directory cluster) (refreshedPool_poolId now directory cluster) }

theorem refreshedCluster_clusterId (cluster : ClusterRuntime) :
    (refreshedCluster now directory cluster).clusterId = cluster.clusterId := rfl

variable {now directory}

def EvictedFrom (start : KVCacheDirectory) (now : ℚ) (state : KVCacheDirectory) : Prop :=
  state = start ∨ state = start.evictStale now

theorem EvictedFrom.evictStale {start state : KVCacheDirectory} (evicted : EvictedFrom start now state) :
    state.evictStale now = start.evictStale now := by
  rcases evicted with rfl | rfl
  · rfl
  · exact KVCacheDirectory.evictStale_evictStale start now

theorem refreshCluster_eq {start state : KVCacheDirectory} (evicted : EvictedFrom start now state)
    (cluster : ClusterRuntime) :
    EvictedFrom start now (refreshCluster now state cluster).1 ∧
      (refreshCluster now state cluster).2 = refreshedCluster now (start.evictStale now) cluster := by
  have visit : ∀ (state : KVCacheDirectory) (pool : PoolRuntime), EvictedFrom start now state →
      EvictedFrom start now (refreshPool cluster now state pool).1 ∧
        (refreshPool cluster now state pool).2 = refreshedPool now (start.evictStale now) cluster pool := by
    intro state pool evicted
    refine ⟨.inr evicted.evictStale, ?_⟩
    simp only [refreshPool, KVCacheDirectory.reservedGb, evicted.evictStale, refreshedPool]
  obtain ⟨final, pools⟩ := KeyedList.mapAccum_eq_map (EvictedFrom start now)
    (refreshedPool now (start.evictStale now) cluster)
    (refreshedPool_poolId now (start.evictStale now) cluster) (fun _ _ => rfl) visit evicted cluster.pools
  refine ⟨final, ?_⟩
  simp only [refreshCluster, refreshedCluster, pools]

theorem refresh_eq (plane : ControlPlane) (now : ℚ) :
    ∃ directory, EvictedFrom plane.cacheDirectory now directory ∧
      plane.refresh now = { plane with
        cacheDirectory := directory
        clusters := plane.clusters.map (refreshedCluster now (plane.cacheDirectory.evictStale now))
          (refreshedCluster_clusterId now (plane.cacheDirectory.evictStale now)) } := by
  obtain ⟨final, clusters⟩ := KeyedList.mapAccum_eq_map (EvictedFrom plane.cacheDirectory now)
    (refreshedCluster now (plane.cacheDirectory.evictStale now)) (refreshedCluster_clusterId now _)
    (fun _ _ => rfl) (fun _ cluster evicted => refreshCluster_eq evicted cluster) (.inl rfl) plane.clusters
  refine ⟨_, final, ?_⟩
  simp only [refresh, clusters]

theorem poolIn_refresh (now : ℚ) {plane : ControlPlane} {clusterId poolId : String} {pool : PoolRuntime}
    (found : plane.poolIn clusterId poolId = some pool) :
    ∃ cluster, cluster.clusterId = clusterId ∧ (plane.refresh now).poolIn clusterId poolId =
      some (refreshedPool now (plane.cacheDirectory.evictStale now) cluster pool) := by
  obtain ⟨cluster, at_cluster, at_pool⟩ := Option.bind_eq_some_iff.mp found
  obtain ⟨_, _, refreshed⟩ := refresh_eq plane now
  refine ⟨cluster, KeyedList.get?_key at_cluster, ?_⟩
  rw [refreshed]
  simp only [poolIn, KeyedList.get?_map, at_cluster, Option.map_some, Option.bind_some]
  rw [refreshedCluster, KeyedList.get?_map, at_pool, Option.map_some]

end Refresh

theorem candidatesFor_cons_eq_ok {plane : ControlPlane} {request : InferenceRequest} {now : ℚ}
    {cluster : ClusterRuntime} {pool : PoolRuntime} {rest : List (ClusterRuntime × PoolRuntime)}
    {directory final : KVCacheDirectory} {candidates : List CandidatePlacement}
    (returned : plane.candidatesFor request now ((cluster, pool) :: rest) directory =
      .ok candidates final) :
    ∃ cache scored candidate others,
      KVCacheDirectory.score request cluster.clusterId pool.poolId now directory = .ok cache scored ∧
      plane.assemble request now cluster pool cache = .ok candidate ∧
      plane.candidatesFor request now rest scored = .ok others final ∧ candidates = candidate :: others := by
  simp only [candidatesFor] at returned
  split at returned
  · cases returned
  · rename_i cache scored asked
    split at returned
    · cases returned
    · rename_i candidate built
      split at returned
      · cases returned
      · rename_i others last continued
        cases returned
        exact ⟨cache, scored, candidate, others, asked, built, continued, rfl⟩

/-- What a returning `build_candidates` loop did: it asked the directory about every pool in turn,
    so whatever a score preserves holds all along. -/
theorem candidatesFor_eq_ok {plane : ControlPlane} {request : InferenceRequest} {now : ℚ}
    (invariant : KVCacheDirectory → Prop)
    (scored : ∀ clusterId poolId before cache after, invariant before →
      KVCacheDirectory.score request clusterId poolId now before = .ok cache after → invariant after)
    {pools : List (ClusterRuntime × PoolRuntime)} {directory final : KVCacheDirectory}
    {candidates : List CandidatePlacement} (initial : invariant directory)
    (returned : plane.candidatesFor request now pools directory = .ok candidates final) :
    invariant final ∧ candidates.length = pools.length ∧
      ∀ candidate ∈ candidates, ∃ cluster pool before cache after, (cluster, pool) ∈ pools ∧
        invariant before ∧
        KVCacheDirectory.score request cluster.clusterId pool.poolId now before = .ok cache after ∧
        plane.assemble request now cluster pool cache = .ok candidate := by
  induction pools generalizing directory candidates with
  | nil =>
    cases returned
    exact ⟨initial, rfl, by simp⟩
  | cons placement rest ih =>
    obtain ⟨cluster, pool⟩ := placement
    obtain ⟨cache, next, candidate, others, asked, built, continued, rfl⟩ :=
      candidatesFor_cons_eq_ok returned
    obtain ⟨kept, length, remaining⟩ := ih (scored _ _ _ _ _ initial asked) continued
    refine ⟨kept, by simp [length], ?_⟩
    intro other member
    rcases List.mem_cons.mp member with rfl | member
    · exact ⟨cluster, pool, directory, cache, next, by simp, initial, asked, built⟩
    · obtain ⟨cluster, pool, before, cache, after, inside, facts⟩ := remaining other member
      exact ⟨cluster, pool, before, cache, after, by simp [inside], facts⟩

theorem candidatesFor_disabled {plane : ControlPlane} {request : InferenceRequest} {now : ℚ}
    {pools : List (ClusterRuntime × PoolRuntime)} (nonempty : pools ≠ [])
    {directory final : KVCacheDirectory} (disabled : directory.redisStore.enabled = false)
    {candidates : List CandidatePlacement}
    (returned : plane.candidatesFor request now pools directory = .ok candidates final) :
    final = directory.evictStale now := by
  obtain ⟨⟨cluster, pool⟩, rest, rfl⟩ := List.exists_cons_of_ne_nil nonempty
  obtain ⟨cache, scored, _, others, asked, _, continued, _⟩ := candidatesFor_cons_eq_ok returned
  have off : (directory.evictStale now).redisStore.enabled = false := disabled
  refine (candidatesFor_eq_ok (fun state => state = directory.evictStale now) ?_
    (KVCacheDirectory.score_disabled disabled asked) continued).1
  intro clusterId poolId before cache after same again
  subst same
  rw [KVCacheDirectory.score_disabled off again, KVCacheDirectory.evictStale_evictStale]

theorem assemble_eq_ok {plane : ControlPlane} {request : InferenceRequest} {now : ℚ}
    {cluster : ClusterRuntime} {pool : PoolRuntime} {cache : ℚ × ℤ} {candidate : CandidatePlacement}
    (returned : plane.assemble request now cluster pool cache = .ok candidate) :
    candidate.clusterId = cluster.clusterId ∧ candidate.poolId = pool.poolId ∧
      candidate.backendName = pool.backendName ∧ candidate.expectedCacheSavedTokens = cache.2 ∧
      candidate.available = (rejectionReason request now cluster pool (estimateRequestMemoryGb
        request.promptTokens request.generationTokens request.modelId cache.2)).isNone ∧
      (∃ backend, backendNamed pool.backendName = .ok backend) ∧ pool.slotAvailableAt ≠ [] := by
  obtain ⟨affinity, _, returned⟩ := except_bind_eq_ok.mp returned
  obtain ⟨routeCost, _, returned⟩ := except_bind_eq_ok.mp returned
  obtain ⟨backend, named, returned⟩ := except_bind_eq_ok.mp returned
  obtain ⟨delay, waited, returned⟩ := except_bind_eq_ok.mp returned
  cases returned
  refine ⟨rfl, rfl, rfl, rfl, rfl, ⟨backend, named⟩, ?_⟩
  intro empty
  rw [PoolRuntime.queueDelayMs, empty] at waited
  cases waited

theorem rejectionReason_eq_none {request : InferenceRequest} {now neededMemory : ℚ}
    {cluster : ClusterRuntime} {pool : PoolRuntime}
    (accepted : (rejectionReason request now cluster pool neededMemory).isNone = true) :
    cluster.unavailable now = false ∧
      (pool.supportedModels = [] ∨ request.modelId ∈ pool.supportedModels) ∧
      pool.inflightCount now < pool.queueLimit ∧ neededMemory ≤ pool.memoryHeadroomGb := by
  unfold rejectionReason at accepted
  split at accepted
  · cases accepted
  · rename_i up
    split at accepted
    · cases accepted
    · rename_i supported
      split at accepted
      · cases accepted
      · rename_i room
        split at accepted
        · cases accepted
        · rename_i fits
          exact ⟨by simpa using up, not_not.mp supported, by omega, le_of_not_gt fits⟩

/-- A chosen candidate stands for a pool of the plane and tells the truth about it. -/
structure Chosen (plane : ControlPlane) (request : InferenceRequest) (now : ℚ)
    (choice : CandidatePlacement) (cluster : ClusterRuntime) (pool : PoolRuntime) : Prop where
  found : plane.poolAt choice.clusterId choice.poolId = some (cluster, pool)
  named : ∃ backend, backendNamed choice.backendName = .ok backend
  available : choice.available = (rejectionReason request now cluster pool (estimateRequestMemoryGb
    request.promptTokens request.generationTokens request.modelId choice.expectedCacheSavedTokens)).isNone

theorem Chosen.clusterId {plane : ControlPlane} {request : InferenceRequest} {now : ℚ}
    {choice : CandidatePlacement} {cluster : ClusterRuntime} {pool : PoolRuntime}
    (chosen : Chosen plane request now choice cluster pool) : cluster.clusterId = choice.clusterId :=
  KeyedList.get?_key (poolAt_eq_some chosen.found).1

theorem Chosen.poolId {plane : ControlPlane} {request : InferenceRequest} {now : ℚ}
    {choice : CandidatePlacement} {cluster : ClusterRuntime} {pool : PoolRuntime}
    (chosen : Chosen plane request now choice cluster pool) : pool.poolId = choice.poolId :=
  KeyedList.get?_key (poolAt_eq_some chosen.found).2

theorem scored_of_mem {plane : ControlPlane} {request : InferenceRequest} {now : ℚ}
    (invariant : KVCacheDirectory → Prop)
    (scored : ∀ clusterId poolId before cache after, invariant before →
      KVCacheDirectory.score request clusterId poolId now before = .ok cache after → invariant after)
    {directory final : KVCacheDirectory} {candidates : List CandidatePlacement}
    (initial : invariant directory)
    (returned : plane.candidatesFor request now plane.placements directory = .ok candidates final)
    {choice : CandidatePlacement} (member : choice ∈ plane.cudaEngine.enrichCandidates candidates) :
    ∃ cluster pool before cache after, (cluster, pool) ∈ plane.placements ∧
      Chosen plane request now choice cluster pool ∧ invariant before ∧
      KVCacheDirectory.score request cluster.clusterId pool.poolId now before = .ok cache after ∧
      choice.expectedCacheSavedTokens = cache.2 := by
  obtain ⟨candidate, inside, rfl⟩ := List.mem_map.mp member
  obtain ⟨_, _, built⟩ := candidatesFor_eq_ok invariant scored initial returned
  obtain ⟨cluster, pool, before, cache, after, placed, holds, asked, assembled⟩ := built candidate inside
  obtain ⟨clusterId, poolId, backendName, saved, available, named, _⟩ := assemble_eq_ok assembled
  rw [← backendName] at named
  refine ⟨cluster, pool, before, cache, after, placed, ⟨?_, named, ?_⟩, holds, asked, saved⟩
  · have found := poolAt_of_mem_placements placed
    rwa [← clusterId, ← poolId] at found
  · rw [← saved] at available
    exact available

theorem chosen_of_mem {plane : ControlPlane} {request : InferenceRequest} {now : ℚ}
    {directory final : KVCacheDirectory} {candidates : List CandidatePlacement}
    (returned : plane.candidatesFor request now plane.placements directory = .ok candidates final)
    {choice : CandidatePlacement} (member : choice ∈ plane.cudaEngine.enrichCandidates candidates) :
    ∃ cluster pool, Chosen plane request now choice cluster pool := by
  obtain ⟨cluster, pool, _, _, _, _, chosen, _⟩ := scored_of_mem (fun _ => True)
    (fun _ _ _ _ _ _ _ => True.intro) True.intro returned member
  exact ⟨cluster, pool, chosen⟩

section Chain

variable {plane : ControlPlane} {request : InferenceRequest} {candidates : List CandidatePlacement}

theorem chooseCandidate_by_grpc {index : ℕ} {choice : CandidatePlacement}
    (asked : plane.grpcClient.choose request candidates = .ok (some index))
    (found : candidates[index]? = some choice) : chooseCandidate request candidates plane = .ok choice plane := by
  simp only [chooseCandidate, asked, Option.orElse_some, Option.bind_some, found]

theorem chooseCandidate_by_core {index : ℕ} {choice : CandidatePlacement}
    (asked : plane.grpcClient.choose request candidates = .ok none)
    (chosen : plane.cppCore.choose request candidates = some index)
    (found : candidates[index]? = some choice) : chooseCandidate request candidates plane = .ok choice plane := by
  simp only [chooseCandidate, asked, Option.orElse_none, chosen, Option.bind_some, found]

theorem chooseCandidate_by_policy {choice : CandidatePlacement} {policy : Policy}
    (asked : plane.grpcClient.choose request candidates = .ok none)
    (absent : plane.cppCore.choose request candidates = none)
    (chosen : plane.policy.choose request candidates = .ok (choice, policy)) :
    chooseCandidate request candidates plane = .ok choice { plane with policy } := by
  simp only [chooseCandidate, asked, Option.orElse_none, absent, Option.bind_none, chosen]

theorem chooseCandidate_answered {choice : CandidatePlacement} {final : ControlPlane}
    (returned : chooseCandidate request candidates plane = .ok choice final) :
    ∃ remote, plane.grpcClient.choose request candidates = .ok remote ∧
      ((∃ index, (remote.orElse fun _ => plane.cppCore.choose request candidates) = some index ∧
          candidates[index]? = some choice ∧ final = plane) ∨
        (remote = none ∧ plane.cppCore.choose request candidates = none ∧
          ∃ policy, plane.policy.choose request candidates = .ok (choice, policy) ∧
            final = { plane with policy })) := by
  cases asked : plane.grpcClient.choose request candidates with
  | error raised => simp [chooseCandidate, asked] at returned
  | ok remote =>
    refine ⟨remote, rfl, ?_⟩
    cases remote with
    | some index =>
      have found := List.getElem?_eq_getElem (GrpcSchedulerClient.choose_bound asked)
      rw [chooseCandidate_by_grpc asked found] at returned
      cases returned
      exact .inl ⟨index, rfl, found, rfl⟩
    | none =>
      cases core : plane.cppCore.choose request candidates with
      | some index =>
        have found := List.getElem?_eq_getElem (CppSchedulerCore.choose_bound core)
        rw [chooseCandidate_by_core asked core found] at returned
        cases returned
        exact .inl ⟨index, rfl, found, rfl⟩
      | none =>
        cases chosen : plane.policy.choose request candidates with
        | error raised => simp [chooseCandidate, asked, core, chosen] at returned
        | ok picked =>
          obtain ⟨candidate, policy⟩ := picked
          rw [chooseCandidate_by_policy asked core chosen] at returned
          cases returned
          exact .inr ⟨rfl, rfl, policy, rfl, rfl⟩

theorem chooseCandidate_eq_ok {choice : CandidatePlacement} {final : ControlPlane}
    (returned : chooseCandidate request candidates plane = .ok choice final) :
    choice ∈ candidates ∧ ∃ policy, final = { plane with policy } := by
  obtain ⟨_, _, ⟨_, _, found, rfl⟩ | ⟨_, _, policy, chosen, rfl⟩⟩ := chooseCandidate_answered returned
  · exact ⟨List.mem_of_getElem? found, _, rfl⟩
  · exact ⟨(Policy.selects_of_mem_availableCandidates (Policy.choose_mem chosen)).1, policy, rfl⟩

end Chain

section Invariants

variable {invariant : ControlPlane → Prop}

theorem stateAfter_buildCandidates (request : InferenceRequest) (now : ℚ) (plane : ControlPlane) :
    stateAfter (buildCandidates request now) plane = { plane with
      cacheDirectory := stateAfter (plane.candidatesFor request now plane.placements) plane.cacheDirectory } := by
  simp only [stateAfter, buildCandidates]
  cases plane.candidatesFor request now plane.placements plane.cacheDirectory with
  | error raised directory => rfl
  | ok candidates directory => rfl

theorem stateAfter_chooseCandidate (request : InferenceRequest) (candidates : List CandidatePlacement)
    (plane : ControlPlane) :
    ∃ policy, stateAfter (chooseCandidate request candidates) plane = { plane with policy } := by
  simp only [stateAfter, chooseCandidate]
  cases plane.grpcClient.choose request candidates with
  | error raised => exact ⟨plane.policy, rfl⟩
  | ok grpcIndex =>
    dsimp only
    cases (grpcIndex.orElse fun _ => plane.cppCore.choose request candidates).bind
        (fun index => candidates[index]?) with
    | some choice => exact ⟨plane.policy, rfl⟩
    | none =>
      cases plane.policy.choose request candidates with
      | error raised => exact ⟨plane.policy, rfl⟩
      | ok chosen => exact ⟨chosen.2, rfl⟩

theorem keeps_route_of {request : InferenceRequest} {now : ℚ} (builds : Keeps invariant (buildCandidates request now))
    (chooses : ∀ candidates, Keeps invariant (chooseCandidate request candidates)) :
    Keeps invariant (route request now) := by
  apply builds.bind
  intro candidates
  apply (chooses candidates).bind
  intro choice
  apply keeps_get_bind
  exact fun plane holds => keeps_pure _ plane holds

/-- An execution keeps what its routing keeps and what each placement on the pool of an available candidate
    keeps: rejections and failures before it change nothing more. -/
theorem keeps_execute_of {request : InferenceRequest} {now : ℚ} (routes : Keeps invariant (route request now))
    (places : ∀ (plane : ControlPlane) (candidate : CandidatePlacement) (decision : RoutingDecision)
      (cluster : ClusterRuntime) (pool : PoolRuntime) (backend : Backend),
      plane.poolAt candidate.clusterId candidate.poolId = some (cluster, pool) →
      backendNamed candidate.backendName = .ok backend → invariant plane →
      invariant (stateAfter (place ⟨request, candidate, decision, backend, now⟩ cluster pool) plane)) :
    Keeps invariant (execute request now) := by
  apply routes.bind
  intro answer
  obtain ⟨candidate, decision⟩ := answer
  apply keeps_get_bind
  intro plane holds
  cases located : plane.poolAt candidate.clusterId candidate.poolId with
  | none => exact holds
  | some found =>
    obtain ⟨cluster, pool⟩ := found
    cases named : backendNamed candidate.backendName with
    | error raised => exact holds
    | ok backend =>
      cases candidate.available with
      | false => exact holds
      | true => exact places plane candidate decision cluster pool backend located named holds

end Invariants

theorem route_eq_ok {request : InferenceRequest} {now : ℚ} {plane routed : ControlPlane}
    {choice : CandidatePlacement} {decision : RoutingDecision}
    (returned : route request now plane = .ok (choice, decision) routed) :
    ∃ candidates directory policy,
      plane.candidatesFor request now plane.placements plane.cacheDirectory = .ok candidates directory ∧
      chooseCandidate request (plane.cudaEngine.enrichCandidates candidates)
        { plane with cacheDirectory := directory } = .ok choice routed ∧
      decision = routed.decisionFor request choice ∧
      routed = { plane with cacheDirectory := directory, policy } := by
  obtain ⟨candidates, _, building, choosing⟩ := bind_eq_ok.mp returned
  obtain ⟨_, _, chosen, deciding⟩ := bind_eq_ok.mp choosing
  unfold buildCandidates at building
  split at building
  · cases building
  · rename_i raw directory asked
    cases building
    cases deciding
    obtain ⟨_, policy, same⟩ := chooseCandidate_eq_ok chosen
    exact ⟨raw, directory, policy, asked, chosen, rfl, same⟩

theorem execute_returned {request : InferenceRequest} {now : ℚ} {plane final : ControlPlane}
    {result : RequestResult} (returned : execute request now plane = .ok result final) :
    ∃ candidates directory choice cluster pool policy backend,
      plane.candidatesFor request now plane.placements plane.cacheDirectory = .ok candidates directory ∧
      chooseCandidate request (plane.cudaEngine.enrichCandidates candidates)
        { plane with cacheDirectory := directory } =
          .ok choice { plane with cacheDirectory := directory, policy } ∧
      Chosen plane request now choice cluster pool ∧ backendNamed choice.backendName = .ok backend ∧
      let routed : ControlPlane := { plane with cacheDirectory := directory, policy }
      let decision := routed.decisionFor request choice
      (choice.available = false ∧ result = rejected request choice decision now ∧ final = routed) ∨
        (choice.available = true ∧ ∃ scheduler,
          placeRequest ⟨request, choice, decision, backend, now⟩ ⟨pool, directory⟩ = .ok result scheduler ∧
          final = { routed with cacheDirectory := scheduler.cacheDirectory }.completed cluster
            scheduler.pool result) := by
  obtain ⟨⟨choice, decision⟩, routed, routing, returned⟩ := bind_eq_ok.mp returned
  obtain ⟨candidates, directory, policy, asked, choosing, rfl, rfl⟩ := route_eq_ok routing
  obtain ⟨cluster, pool, chosen⟩ := chosen_of_mem asked (chooseCandidate_eq_ok choosing).1
  obtain ⟨backend, named⟩ := chosen.named
  refine ⟨candidates, directory, choice, cluster, pool, policy, backend, asked, choosing, chosen, named, ?_⟩
  obtain ⟨current, _, reading, returned⟩ := bind_eq_ok.mp returned
  cases reading
  have located : ({ plane with cacheDirectory := directory, policy } : ControlPlane).poolAt choice.clusterId
      choice.poolId = some (cluster, pool) := chosen.found
  simp only [located, named] at returned
  cases available : choice.available with
  | true =>
    rw [available, if_pos rfl, place] at returned
    split at returned
    · cases returned
    · rename_i placed scheduler placing
      cases returned
      exact .inr ⟨rfl, scheduler, placing, rfl⟩
  | false =>
    rw [available, if_neg Bool.false_ne_true] at returned
    cases returned
    exact .inl ⟨rfl, rfl, rfl⟩

theorem execute_eq_ok {request : InferenceRequest} {now : ℚ} {plane final : ControlPlane}
    {result : RequestResult} (returned : execute request now plane = .ok result final) :
    ∃ candidates directory choice cluster pool policy,
      plane.candidatesFor request now plane.placements plane.cacheDirectory = .ok candidates directory ∧
      chooseCandidate request (plane.cudaEngine.enrichCandidates candidates)
        { plane with cacheDirectory := directory } =
          .ok choice { plane with cacheDirectory := directory, policy } ∧
      Chosen plane request now choice cluster pool ∧
      ((choice.available = false ∧ result.admitted = false ∧
          final = { plane with cacheDirectory := directory, policy }) ∨
        (choice.available = true ∧ ∃ call scheduler,
          call.request = request ∧ call.candidate = choice ∧ call.now = now ∧
          call.decision.clusterId = choice.clusterId ∧ call.decision.poolId = choice.poolId ∧
          placeRequest call ⟨pool, directory⟩ = .ok result scheduler ∧
          final = { plane with cacheDirectory := scheduler.cacheDirectory, policy }.completed cluster
            scheduler.pool result)) := by
  obtain ⟨candidates, directory, choice, cluster, pool, policy, backend, asked, choosing, chosen, _, outcome⟩ :=
    execute_returned returned
  refine ⟨candidates, directory, choice, cluster, pool, policy, asked, choosing, chosen, ?_⟩
  rcases outcome with ⟨unavailable, rfl, same⟩ | ⟨available, scheduler, placing, same⟩
  · exact .inl ⟨unavailable, rfl, same⟩
  · exact .inr ⟨available, _, scheduler, rfl, rfl, rfl, rfl, rfl, placing, same⟩

/-- The candidate that a step is about to place its request on: the one it is routed to, if available. -/
def destination (arrival : Arrival) (plane : ControlPlane) : Option CandidatePlacement :=
  (valueOf (route arrival.request arrival.now (plane.refresh arrival.now))).bind (fun answer =>
    if answer.1.available then some answer.1 else none)

/-- A returning step has rejected its request, or placed it on the earliest slot of the pool it was routed to. -/
theorem serve_placed {arrival : Arrival} {plane final : ControlPlane} {result : RequestResult}
    (returned : serve arrival plane = .ok result final) :
    (result.admitted = false ∧ destination arrival plane = none) ∨
      ∃ choice pool backend slotIndex decision, destination arrival plane = some choice ∧
        (plane.refresh arrival.now).poolIn choice.clusterId choice.poolId = some pool ∧
        backendNamed choice.backendName = .ok backend ∧
        SlotQueue.earliest pool.slotAvailableAt = some slotIndex ∧
        decision.clusterId = choice.clusterId ∧ decision.poolId = choice.poolId ∧
        result = PlacementCall.result ⟨arrival.request, choice, decision, backend, arrival.now⟩ pool slotIndex := by
  obtain ⟨⟨candidate, decision⟩, routed, routing, continued⟩ := bind_eq_ok.mp returned
  have answered : destination arrival plane = if candidate.available then some candidate else none := by
    simp only [destination, routing, valueOf, Option.bind_some]
  obtain ⟨_, _, choice, _, pool, _, backend, asked, choosing, found, named, outcome⟩ := execute_returned returned
  obtain ⟨_, _, _, again, chosen, decided, same⟩ := route_eq_ok routing
  have candidates := asked.symm.trans again
  cases candidates
  have picked := choosing.symm.trans chosen
  cases picked
  rcases outcome with ⟨unavailable, rfl, _⟩ | ⟨available, scheduler, placing, _⟩
  · rw [unavailable, if_neg Bool.false_ne_true] at answered
    exact .inl ⟨rfl, answered⟩
  · obtain ⟨slotIndex, slot, placed, _, _⟩ := placeRequest_eq_ok placing
    rw [available, if_pos rfl] at answered
    exact .inr ⟨candidate, pool, backend, slotIndex, _, answered, poolIn_of_poolAt found.found, named, slot, rfl,
      rfl, placed⟩

theorem serve_destination {arrival : Arrival} {plane final : ControlPlane} {result : RequestResult}
    (returned : serve arrival plane = .ok result final) :
    (result.admitted = false ∧ destination arrival plane = none) ∨
      (result.admitted = true ∧ ∃ choice, destination arrival plane = some choice ∧
        result.decision.clusterId = choice.clusterId ∧ result.decision.poolId = choice.poolId) := by
  rcases serve_placed returned with rejected |
    ⟨choice, pool, backend, slotIndex, decision, chosen, _, _, _, sameCluster, samePool, rfl⟩
  · exact .inl rejected
  · exact .inr ⟨rfl, choice, chosen, sameCluster, samePool⟩

structure Admission (pool : PoolRuntime) (arrival : Arrival) (result : RequestResult)
    (call : PlacementCall) (slotIndex : ℕ) : Prop where
  slot : SlotQueue.earliest pool.slotAvailableAt = some slotIndex
  request : call.request = arrival.request
  now : call.now = arrival.now
  result : result = call.result pool slotIndex
  room : pool.inflightCount arrival.now < pool.queueLimit
  fits : call.memoryGb ≤ pool.memoryHeadroomGb

def servedPool (call : PlacementCall) (pool : PoolRuntime) (slotIndex : ℕ) : PoolRuntime :=
  { call.booked pool slotIndex with completedCount := pool.completedCount + 1 }

theorem servedPool_queueLimit (call : PlacementCall) (pool : PoolRuntime) (slotIndex : ℕ) :
    (servedPool call pool slotIndex).queueLimit = pool.queueLimit := rfl

theorem servedPool_memoryGb (call : PlacementCall) (pool : PoolRuntime) (slotIndex : ℕ) :
    (servedPool call pool slotIndex).memoryGb = pool.memoryGb := rfl

theorem Admission.slotAvailableAt {pool : PoolRuntime} {arrival : Arrival} {result : RequestResult}
    {call : PlacementCall} {slotIndex : ℕ} (admission : Admission pool arrival result call slotIndex) :
    (servedPool call pool slotIndex).slotAvailableAt =
      pool.slotAvailableAt.set slotIndex result.completionTs := by
  rw [admission.result]
  rfl

theorem Admission.inflightMemory {pool : PoolRuntime} {arrival : Arrival} {result : RequestResult}
    {call : PlacementCall} {slotIndex : ℕ} (admission : Admission pool arrival result call slotIndex) :
    (servedPool call pool slotIndex).inflightMemory =
      pool.inflightMemory ++ [(result.completionTs, call.memoryGb)] := by
  rw [admission.result]
  rfl

def AdmittedOn (clusterId poolId : String) (result : RequestResult) : Prop :=
  result.admitted = true ∧ result.decision.clusterId = clusterId ∧ result.decision.poolId = poolId

instance (clusterId poolId : String) (result : RequestResult) :
    Decidable (AdmittedOn clusterId poolId result) := inferInstanceAs (Decidable (_ ∧ _))

theorem admittedOn_iff_destination {arrival : Arrival} {plane final : ControlPlane} {result : RequestResult}
    (returned : serve arrival plane = .ok result final) (clusterId poolId : String) :
    AdmittedOn clusterId poolId result ↔
      ∃ choice, destination arrival plane = some choice ∧ choice.clusterId = clusterId ∧ choice.poolId = poolId := by
  rcases serve_destination returned with ⟨rejected, none⟩ | ⟨admitted, choice, some, sameCluster, samePool⟩
  · simp [AdmittedOn, rejected, none]
  · simp [AdmittedOn, admitted, some, sameCluster, samePool]

theorem execute_pools {arrival : Arrival} {plane final : ControlPlane} {result : RequestResult}
    (returned : execute arrival.request arrival.now plane = .ok result final)
    {clusterId poolId : String} {pool : PoolRuntime} (found : plane.poolIn clusterId poolId = some pool) :
    (¬ AdmittedOn clusterId poolId result ∧ final.poolIn clusterId poolId = some pool) ∨
    (AdmittedOn clusterId poolId result ∧ ∃ call slotIndex, Admission pool arrival result call slotIndex ∧
      final.poolIn clusterId poolId = some (servedPool call pool slotIndex)) := by
  obtain ⟨candidates, directory, choice, cluster, target, policy, _, _, chosen, outcome⟩ :=
    execute_eq_ok returned
  rcases outcome with ⟨_, rejected, rfl⟩ | ⟨available, call, scheduler, request, candidate, now, sameCluster,
    samePool, placing, rfl⟩
  · exact .inl ⟨fun admitted => by simp [AdmittedOn, rejected] at admitted, found⟩
  · obtain ⟨slotIndex, slot, rfl, booked, _⟩ := placeRequest_eq_ok placing
    have owner := (poolAt_eq_some chosen.found).1
    rw [← chosen.clusterId] at owner
    have replaced : (plane.setPool cluster (servedPool call target slotIndex)).poolIn clusterId poolId =
        if cluster.clusterId = clusterId ∧ target.poolId = poolId then some (servedPool call target slotIndex)
        else plane.poolIn clusterId poolId := poolIn_setPool owner _ clusterId poolId
    have names : AdmittedOn clusterId poolId (call.result target slotIndex) ↔
        cluster.clusterId = clusterId ∧ target.poolId = poolId := by
      rw [chosen.clusterId, chosen.poolId, ← sameCluster, ← samePool]
      exact ⟨fun admitted => admitted.2, fun same => ⟨rfl, same⟩⟩
    rw [booked]
    by_cases here : AdmittedOn clusterId poolId (call.result target slotIndex)
    · have taken := names.mp here
      have located := poolIn_of_poolAt chosen.found
      rw [← chosen.clusterId, ← chosen.poolId, taken.1, taken.2, found] at located
      cases located
      have accepted := chosen.available
      rw [available] at accepted
      obtain ⟨_, _, room, fits⟩ := rejectionReason_eq_none accepted.symm
      refine .inr ⟨here, call, slotIndex, ⟨slot, request, now, rfl, room, ?_⟩, ?_⟩
      · simpa [PlacementCall.memoryGb, request, candidate] using fits
      · rw [if_pos taken] at replaced
        exact replaced
    · rw [if_neg (fun same => here (names.mpr same))] at replaced
      exact .inl ⟨here, replaced.trans found⟩

theorem serve_pools {arrival : Arrival} {plane final : ControlPlane} {result : RequestResult}
    (returned : serve arrival plane = .ok result final) {clusterId poolId : String} {pool : PoolRuntime}
    (found : plane.poolIn clusterId poolId = some pool) :
    ∃ cluster, cluster.clusterId = clusterId ∧
      let refreshed := refreshedPool arrival.now (plane.cacheDirectory.evictStale arrival.now) cluster pool
      (¬ AdmittedOn clusterId poolId result ∧ final.poolIn clusterId poolId = some refreshed) ∨
      (AdmittedOn clusterId poolId result ∧ ∃ call slotIndex,
        Admission refreshed arrival result call slotIndex ∧
        final.poolIn clusterId poolId = some (servedPool call refreshed slotIndex)) := by
  obtain ⟨cluster, named, refreshed⟩ := poolIn_refresh arrival.now found
  exact ⟨cluster, named, execute_pools returned refreshed⟩

theorem serve_directory {invariant : KVCacheDirectory → Prop}
    (evicted : ∀ directory now, invariant directory → invariant (directory.evictStale now))
    (scored : ∀ request clusterId poolId now before cache after, invariant before →
      KVCacheDirectory.score request clusterId poolId now before = .ok cache after → invariant after)
    (observed : ∀ result before after, result.admitted = true → 0 ≤ result.memoryGb → invariant before →
      KVCacheDirectory.observe result before = .ok () after → invariant after)
    {arrival : Arrival} {plane final : ControlPlane} {result : RequestResult}
    (initial : invariant plane.cacheDirectory) (returned : serve arrival plane = .ok result final) :
    invariant final.cacheDirectory := by
  obtain ⟨_, start, refreshed⟩ := refresh_eq plane arrival.now
  have refreshedHolds : invariant (plane.refresh arrival.now).cacheDirectory := by
    rw [refreshed]
    rcases start with rfl | rfl
    · exact initial
    · exact evicted _ _ initial
  obtain ⟨candidates, directory, choice, cluster, pool, policy, asked, _, _, outcome⟩ :=
    execute_eq_ok returned
  have holds := (candidatesFor_eq_ok invariant (scored arrival.request · · arrival.now) refreshedHolds asked).1
  rcases outcome with ⟨_, _, rfl⟩ | ⟨_, call, scheduler, _, _, _, _, _, placing, rfl⟩
  · exact holds
  · obtain ⟨slotIndex, _, rfl, _, recording⟩ := placeRequest_eq_ok placing
    have positive : 0 ≤ (call.result pool slotIndex).memoryGb :=
      Decimal.roundTo_nonneg 4 (estimateRequestMemoryGb_pos _ _ _ _).le
    exact observed _ _ _ rfl positive holds recording

section Sessions

def sessionConfig (parallelSlots queueLimit : ℤ) (memoryGb : ℚ) : ExperimentConfig where
  name := "session"
  policy := "round_robin"
  tenantWeights := KeyedList.empty
  clusters := [{
    clusterId := "c1", zone := "zone-a", pools := [{
      poolId := "p1", acceleratorType := "a100", prefillTps := 1000, decodeTps := 512, memoryGb
      gpuCount := parallelSlots, parallelSlots, costPer1mTokens := 1, queueLimit }] }]

theorem poolIn_session {parallelSlots queueLimit : ℤ} {memoryGb : ℚ} {environment : Environment}
    {plane : ControlPlane}
    (created : create (sessionConfig parallelSlots queueLimit memoryGb) environment = .ok plane) :
    ∃ pool, plane.poolIn "c1" "p1" = some pool ∧ pool.parallelSlots = parallelSlots ∧
      pool.queueLimit = queueLimit ∧ pool.memoryGb = memoryGb := by
  obtain ⟨policy, _, built⟩ := except_bind_eq_ok.mp created
  cases built
  exact ⟨_, rfl, rfl, rfl, rfl⟩

def sessionEnvironment (redisStore : RedisStore) : Environment where
  redisStore
  grpcClient := { available := false, stub := fun request => .ok (choosePlacement request) }
  cppCore := { available := false }
  cudaEngine := { available := false }

def resultsOf (config : ExperimentConfig) (environment : Environment) (arrivals : List Arrival) :
    Option (List RequestResult) :=
  match create config environment with
  | .error _ => none
  | .ok plane => valueOf (run arrivals plane)

theorem resultsOf_eq_some {config : ExperimentConfig} {environment : Environment}
    {arrivals : List Arrival} {results : List RequestResult}
    (ran : resultsOf config environment arrivals = some results) :
    ∃ plane final, create config environment = .ok plane ∧ run arrivals plane = .ok results final := by
  unfold resultsOf at ran
  split at ran
  · cases ran
  · rename_i plane created
    obtain ⟨final, returned⟩ := valueOf_eq_some.mp ran
    exact ⟨plane, final, created, returned⟩

end Sessions

end NimbusMesh.ControlPlane
