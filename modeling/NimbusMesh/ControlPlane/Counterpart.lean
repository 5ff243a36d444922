import NimbusMesh.ControlPlane.Availability
import NimbusMesh.Foundation.Simulation
import NimbusMesh.Policies.Fairness

namespace NimbusMesh

open Foundation Foundation.Decimal Foundation.Execution

def ClusterRuntime.unlinked (cluster : ClusterRuntime) : ClusterRuntime :=
  { cluster with networkCosts := KeyedList.empty }

namespace ControlPlane

def initial (config : ExperimentConfig) (environment : Environment) (policy : Policy) : ControlPlane where
  config
  topology := TopologyService.buildFromConfig config
  cacheDirectory := { entries := KeyedList.empty, redisStore := environment.redisStore }
  cudaEngine := environment.cudaEngine
  grpcClient := environment.grpcClient
  cppCore := environment.cppCore
  clusters := buildRuntimeClusters config
  tenantStats := KeyedList.empty
  policy

theorem create_eq_initial (config : ExperimentConfig) (environment : Environment) :
    create config environment = (Policy.build config.policy).map (initial config environment) := by
  unfold create
  cases Policy.build config.policy with
  | error raised => rfl
  | ok policy => rfl

/-- The plane under another configuration and topology. Its runtime clusters forget their network
    costs, which no step reads. -/
def counterpart (config : ExperimentConfig) (topology : TopologyService) (plane : ControlPlane) :
    ControlPlane :=
  { plane with
    config
    topology
    clusters := plane.clusters.map ClusterRuntime.unlinked (fun _ => rfl) }

/-- The other configuration changes the penalties by a function, and the other topology says the
    same of every pool there is. -/
structure Comparable (price : ℚ → ℚ) (config : ExperimentConfig) (topology : TopologyService)
    (plane : ControlPlane) : Prop where
  weights : config.tenantWeights = plane.config.tenantWeights
  priced : ∀ excess, price (excess * plane.config.fairnessStrength) = excess * config.fairnessStrength
  rounded : ∀ penalty, price (roundTo 4 penalty) = roundTo 4 (price penalty)
  scored : price = id ∨ ServedByRepository plane.grpcClient
  affinities : ∀ clusterId poolId, (plane.poolIn clusterId poolId).isSome → ∀ promptTokens,
    topology.poolAffinity clusterId poolId promptTokens =
      plane.topology.poolAffinity clusterId poolId promptTokens
  costs : ∀ clusterId poolId, (plane.poolIn clusterId poolId).isSome →
    topology.routeCost clusterId poolId = plane.topology.routeCost clusterId poolId

variable {price : ℚ → ℚ} {config : ExperimentConfig} {topology : TopologyService}

theorem Comparable.of_unchanged {plane final : ControlPlane} (same : Comparable price config topology plane)
    (configs : final.config = plane.config) (topologies : final.topology = plane.topology)
    (clients : final.grpcClient = plane.grpcClient)
    (pools : ∀ clusterId poolId, (final.poolIn clusterId poolId).isSome →
      (plane.poolIn clusterId poolId).isSome) : Comparable price config topology final := by
  refine ⟨?_, ?_, same.rounded, ?_, ?_, ?_⟩
  · rw [configs]
    exact same.weights
  · rw [configs]
    exact same.priced
  · rw [clients]
    exact same.scored
  · rw [topologies]
    exact fun clusterId poolId held => same.affinities clusterId poolId (pools clusterId poolId held)
  · rw [topologies]
    exact fun clusterId poolId held => same.costs clusterId poolId (pools clusterId poolId held)

theorem placements_counterpart (plane : ControlPlane) :
    (plane.counterpart config topology).placements =
      plane.placements.map (fun placement => (placement.1.unlinked, placement.2)) := by
  simp only [placements, counterpart, KeyedList.map, List.flatMap_map, List.map_flatMap, List.map_map]
  rfl

theorem poolAt_counterpart (plane : ControlPlane) (clusterId poolId : String) :
    (plane.counterpart config topology).poolAt clusterId poolId =
      (plane.poolAt clusterId poolId).map (fun placement => (placement.1.unlinked, placement.2)) := by
  have clusters : (plane.counterpart config topology).clusters.get? clusterId =
      (plane.clusters.get? clusterId).map ClusterRuntime.unlinked :=
    KeyedList.get?_map ClusterRuntime.unlinked (fun _ => rfl) plane.clusters clusterId
  unfold poolAt
  rw [clusters]
  cases plane.clusters.get? clusterId with
  | none => rfl
  | some cluster =>
    simp only [Option.map_some, Option.bind_some, Option.map_map]
    rfl

theorem fairnessPenalty_counterpart {plane : ControlPlane} (same : Comparable price config topology plane)
    (tenantId : String) :
    (plane.counterpart config topology).fairnessPenalty tenantId = price (plane.fairnessPenalty tenantId) := by
  have free : price 0 = 0 := by simpa using same.priced 0
  have stats : (plane.counterpart config topology).tenantStats = plane.tenantStats := rfl
  have tenants : (plane.counterpart config topology).tenant tenantId = plane.tenant tenantId := rfl
  have configs : (plane.counterpart config topology).config = config := rfl
  unfold fairnessPenalty
  simp only [stats, tenants, configs, same.weights]
  split
  · exact free.symm
  · exact (same.priced _).symm

theorem assemble_counterpart {plane : ControlPlane} (same : Comparable price config topology plane)
    (request : InferenceRequest) (now : ℚ) {cluster : ClusterRuntime} {pool : PoolRuntime}
    (held : (plane.poolIn cluster.clusterId pool.poolId).isSome) (cache : ℚ × ℤ) :
    (plane.counterpart config topology).assemble request now cluster.unlinked pool cache =
      (plane.assemble request now cluster pool cache).map (CandidatePlacement.repriced price) := by
  have topologies : (plane.counterpart config topology).topology = topology := rfl
  have named : cluster.unlinked.clusterId = cluster.clusterId := rfl
  unfold assemble
  rw [topologies, named, same.affinities _ _ held, same.costs _ _ held, fairnessPenalty_counterpart same]
  dsimp only
  rw [← same.rounded]
  cases plane.topology.poolAffinity cluster.clusterId pool.poolId request.promptTokens with
  | error raised => rfl
  | ok affinity =>
    cases plane.topology.routeCost cluster.clusterId pool.poolId with
    | error raised => rfl
    | ok routeCost =>
      cases backendNamed pool.backendName with
      | error raised => rfl
      | ok backend =>
        simp only [Bind.bind, Except.bind]
        cases pool.queueDelayMs now with
        | error raised => rfl
        | ok delay => rfl

theorem candidatesFor_counterpart {plane : ControlPlane} (same : Comparable price config topology plane)
    (request : InferenceRequest) (now : ℚ) {pools : List (ClusterRuntime × PoolRuntime)}
    (held : ∀ placement ∈ pools, (plane.poolIn placement.1.clusterId placement.2.poolId).isSome)
    (directory : KVCacheDirectory) :
    (plane.counterpart config topology).candidatesFor request now
        (pools.map (fun placement => (placement.1.unlinked, placement.2))) directory =
      mapResult id (List.map (CandidatePlacement.repriced price))
        (plane.candidatesFor request now pools directory) := by
  induction pools generalizing directory with
  | nil => rfl
  | cons placement rest ih =>
    obtain ⟨cluster, pool⟩ := placement
    have later := ih (fun other member => held other (by simp [member]))
    have named : cluster.unlinked.clusterId = cluster.clusterId := rfl
    simp only [List.map_cons, candidatesFor, named]
    cases KVCacheDirectory.score request cluster.clusterId pool.poolId now directory with
    | error raised scored => rfl
    | ok cache scored =>
      simp only [assemble_counterpart same request now (held (cluster, pool) (by simp)) cache]
      cases plane.assemble request now cluster pool cache with
      | error raised => rfl
      | ok candidate =>
        simp only [Except.map, later]
        cases plane.candidatesFor request now rest scored with
        | error raised final => rfl
        | ok candidates final => rfl

theorem held_of_mem_placements {plane : ControlPlane} {placement : ClusterRuntime × PoolRuntime}
    (member : placement ∈ plane.placements) :
    (plane.poolIn placement.1.clusterId placement.2.poolId).isSome := by
  rw [poolIn_of_poolAt (poolAt_of_mem_placements member), Option.isSome_some]

theorem mirrors_buildCandidates (request : InferenceRequest) (now : ℚ) :
    Mirrors (Comparable price config topology) (counterpart config topology)
      (List.map (CandidatePlacement.repriced price)) (buildCandidates request now)
      (buildCandidates request now) := by
  intro plane same
  have directories : (plane.counterpart config topology).cacheDirectory = plane.cacheDirectory := rfl
  have engines : (plane.counterpart config topology).cudaEngine = plane.cudaEngine := rfl
  have built := candidatesFor_counterpart same request now (fun _ member => held_of_mem_placements member)
    plane.cacheDirectory
  simp only [buildCandidates, stateAfter, placements_counterpart, directories, built]
  cases plane.candidatesFor request now plane.placements plane.cacheDirectory with
  | error raised directory => exact ⟨rfl, same.of_unchanged rfl rfl rfl (fun _ _ held => held)⟩
  | ok candidates directory =>
    have enriched : plane.cudaEngine.enrichCandidates (candidates.map (CandidatePlacement.repriced price)) =
        (plane.cudaEngine.enrichCandidates candidates).map (CandidatePlacement.repriced price) := by
      simp only [CudaScoringEngine.enrichCandidates, List.map_map]
      rfl
    simp only [mapResult, engines, enriched]
    exact ⟨rfl, same.of_unchanged rfl rfl rfl (fun _ _ held => held)⟩

theorem fairnessPenalty_of_assemble {plane : ControlPlane} {request : InferenceRequest} {now : ℚ}
    {cluster : ClusterRuntime} {pool : PoolRuntime} {cache : ℚ × ℤ} {candidate : CandidatePlacement}
    (returned : plane.assemble request now cluster pool cache = .ok candidate) :
    candidate.fairnessPenalty = plane.fairnessPenalty request.tenantId := by
  obtain ⟨affinity, _, returned⟩ := except_bind_eq_ok.mp returned
  obtain ⟨routeCost, _, returned⟩ := except_bind_eq_ok.mp returned
  obtain ⟨backend, _, returned⟩ := except_bind_eq_ok.mp returned
  obtain ⟨delay, _, returned⟩ := except_bind_eq_ok.mp returned
  cases returned
  rfl

theorem fairnessPenalty_of_buildCandidates {request : InferenceRequest} {now : ℚ}
    {plane built : ControlPlane} {candidates : List CandidatePlacement}
    (returned : buildCandidates request now plane = .ok candidates built) :
    ∀ candidate ∈ candidates, candidate.fairnessPenalty = plane.fairnessPenalty request.tenantId := by
  obtain ⟨raw, directory, asked, rfl, _⟩ := buildCandidates_eq_ok returned
  intro candidate member
  obtain ⟨plain, inside, rfl⟩ := List.mem_map.mp member
  obtain ⟨_, _, made⟩ := candidatesFor_eq_ok (fun _ => True) (fun _ _ _ _ _ _ _ => True.intro)
    True.intro asked
  obtain ⟨_, _, _, _, _, _, _, _, assembled⟩ := made plain inside
  exact (fairnessPenalty_of_assemble assembled : plain.fairnessPenalty = _)

theorem grpcChoice_repriced {plane : ControlPlane} (same : Comparable price config topology plane)
    (request : InferenceRequest) {candidates : List CandidatePlacement} {penalty : ℚ}
    (shared : ∀ candidate ∈ candidates, candidate.fairnessPenalty = penalty) :
    plane.grpcClient.choose request (candidates.map (CandidatePlacement.repriced price)) =
      plane.grpcClient.choose request candidates := by
  rcases same.scored with rfl | servicer
  · have unchanged : candidates.map (CandidatePlacement.repriced id) = candidates := List.map_id candidates
    rw [unchanged]
  · unfold GrpcSchedulerClient.choose
    split
    · rename_i remote
      rw [servicer remote, List.length_map]
      change Except.ok (validIndex (choosePlacement _).chosenIndex _) =
        Except.ok (validIndex (choosePlacement _).chosenIndex _)
      rw [choosePlacement_repriced request shared]
    · rfl

theorem mirrors_chooseCandidate (request : InferenceRequest) {candidates : List CandidatePlacement}
    {penalty : ℚ} (shared : ∀ candidate ∈ candidates, candidate.fairnessPenalty = penalty) :
    Mirrors (Comparable price config topology) (counterpart config topology)
      (CandidatePlacement.repriced price) (chooseCandidate request candidates)
      (chooseCandidate request (candidates.map (CandidatePlacement.repriced price))) := by
  intro plane same
  have clients : (plane.counterpart config topology).grpcClient = plane.grpcClient := rfl
  have cores : (plane.counterpart config topology).cppCore = plane.cppCore := rfl
  have policies : (plane.counterpart config topology).policy = plane.policy := rfl
  have picked : ∀ index : Option ℕ,
      index.bind (fun i => (candidates.map (CandidatePlacement.repriced price))[i]?) =
        (index.bind (fun i => candidates[i]?)).map (CandidatePlacement.repriced price) := by
    intro index
    cases index with
    | none => rfl
    | some i => exact List.getElem?_map
  simp only [chooseCandidate, stateAfter, clients, cores, policies, grpcChoice_repriced same request shared,
    CppSchedulerCore.choose_repriced plane.cppCore request shared, picked,
    Policy.choose_repriced plane.policy request shared]
  cases plane.grpcClient.choose request candidates with
  | error raised => exact ⟨rfl, same⟩
  | ok grpcIndex =>
    dsimp only
    cases (grpcIndex.orElse fun _ => plane.cppCore.choose request candidates).bind
      (fun index => candidates[index]?) with
    | some choice => exact ⟨rfl, same⟩
    | none =>
      dsimp only [Option.map_none]
      cases plane.policy.choose request candidates with
      | error raised => exact ⟨rfl, same⟩
      | ok chosen => exact ⟨rfl, same.of_unchanged rfl rfl rfl (fun _ _ held => held)⟩

def repricedRoute (price : ℚ → ℚ) (routed : CandidatePlacement × RoutingDecision) :
    CandidatePlacement × RoutingDecision := (routed.1.repriced price, routed.2.repriced price)

theorem mirrors_route (request : InferenceRequest) (now : ℚ) :
    Mirrors (Comparable price config topology) (counterpart config topology) (repricedRoute price)
      (route request now) (route request now) := by
  refine (mirrors_buildCandidates request now).bind_returned ?_
  intro candidates plane built _ returned same
  have shared := fairnessPenalty_of_buildCandidates returned
  refine (mirrors_chooseCandidate request shared).bind (fun choice => ?_) built same
  exact mirrors_get_bind (fun _ kept => ⟨rfl, kept⟩)

theorem mergeResult_repriced (key : String) (result : RequestResult) (entries : List CacheEntry) :
    KVCacheDirectory.mergeResult key (result.repriced price) entries =
      KVCacheDirectory.mergeResult key result entries := by
  induction entries with
  | nil => rfl
  | cons entry rest ih =>
    simp only [KVCacheDirectory.mergeResult, ih]
    rfl

theorem observe_repriced (result : RequestResult) :
    KVCacheDirectory.observe (result.repriced price) = KVCacheDirectory.observe result := by
  funext directory
  have recorded : directory.recorded (result.repriced price) = directory.recorded result := by
    simp only [KVCacheDirectory.recorded, mergeResult_repriced]
    rfl
  simp only [KVCacheDirectory.observe, recorded]
  rfl

def repricedCall (price : ℚ → ℚ) (call : PlacementCall) : PlacementCall :=
  { call with candidate := call.candidate.repriced price, decision := call.decision.repriced price }

theorem placeRequest_repriced (call : PlacementCall) (scheduler : LocalClusterScheduler) :
    placeRequest (repricedCall price call) scheduler =
      mapResult id (RequestResult.repriced price) (placeRequest call scheduler) := by
  unfold placeRequest
  cases SlotQueue.earliest scheduler.pool.slotAvailableAt with
  | none => rfl
  | some slotIndex =>
    have results : (repricedCall price call).result scheduler.pool slotIndex =
        (call.result scheduler.pool slotIndex).repriced price := rfl
    simp only [results, observe_repriced]
    cases KVCacheDirectory.observe (call.result scheduler.pool slotIndex) scheduler.cacheDirectory with
    | error raised directory => rfl
    | ok _ directory => rfl

theorem setPool_counterpart (plane : ControlPlane) (cluster : ClusterRuntime) (pool : PoolRuntime) :
    (plane.counterpart config topology).setPool cluster.unlinked pool =
      (plane.setPool cluster pool).counterpart config topology := by
  have clusters := KeyedList.map_insert ClusterRuntime.unlinked (fun _ => rfl) plane.clusters
    { cluster with pools := cluster.pools.insert pool }
  unfold setPool
  exact congrArg (fun changed => { plane.counterpart config topology with clusters := changed }) clusters

theorem completed_counterpart (plane : ControlPlane) (cluster : ClusterRuntime) (pool : PoolRuntime)
    (result : RequestResult) :
    (plane.counterpart config topology).completed cluster.unlinked pool (result.repriced price) =
      (plane.completed cluster pool result).counterpart config topology := by
  have policies : plane.policy.observeResult (result.repriced price) = plane.policy.observeResult result := rfl
  unfold completed
  rw [setPool_counterpart]
  exact congrArg (fun policy => { (plane.completed cluster pool result).counterpart config topology with policy })
    policies

theorem Comparable.setPool {plane : ControlPlane} (same : Comparable price config topology plane)
    {clusterId poolId : String} {cluster : ClusterRuntime} {pool : PoolRuntime}
    (found : plane.poolAt clusterId poolId = some (cluster, pool)) {replaced : PoolRuntime}
    (named : replaced.poolId = pool.poolId) : Comparable price config topology (plane.setPool cluster replaced) := by
  refine same.of_unchanged rfl rfl rfl ?_
  intro otherCluster otherPool held
  obtain ⟨at_cluster, at_pool⟩ := poolAt_eq_some found
  have owner := KeyedList.get?_key at_cluster
  rw [poolIn_setPool (by rw [owner, at_cluster])] at held
  split at held
  · rename_i here
    rw [owner, named, KeyedList.get?_key at_pool] at here
    rw [← here.1, ← here.2, poolIn_of_poolAt found, Option.isSome_some]
  · exact held

theorem placeRequest_poolId (call : PlacementCall) (scheduler : LocalClusterScheduler) :
    (stateAfter (placeRequest call) scheduler).pool.poolId = scheduler.pool.poolId := by
  simp only [stateAfter, placeRequest]
  cases SlotQueue.earliest scheduler.pool.slotAvailableAt with
  | none => rfl
  | some slotIndex =>
    dsimp only
    cases KVCacheDirectory.observe (call.result scheduler.pool slotIndex) scheduler.cacheDirectory with
    | error raised directory => rfl
    | ok _ directory => rfl

theorem place_counterpart {plane : ControlPlane} (same : Comparable price config topology plane)
    {clusterId poolId : String} {cluster : ClusterRuntime} {pool : PoolRuntime}
    (found : plane.poolAt clusterId poolId = some (cluster, pool)) (call : PlacementCall) :
    place (repricedCall price call) cluster.unlinked pool (plane.counterpart config topology) =
        mapResult (counterpart config topology) (RequestResult.repriced price) (place call cluster pool plane) ∧
      Comparable price config topology (stateAfter (place call cluster pool) plane) := by
  have directories : (plane.counterpart config topology).cacheDirectory = plane.cacheDirectory := rfl
  have named := placeRequest_poolId call ⟨pool, plane.cacheDirectory⟩
  simp only [place, stateAfter, directories, placeRequest_repriced] at named ⊢
  cases placing : placeRequest call ⟨pool, plane.cacheDirectory⟩ with
  | error raised scheduler =>
    rw [placing] at named
    refine ⟨?_, (same.setPool found named).of_unchanged rfl rfl rfl (fun _ _ held => held)⟩
    simp only [mapResult, id, setPool_counterpart]
    rfl
  | ok result scheduler =>
    rw [placing] at named
    constructor
    · simp only [mapResult, id]
      rw [← completed_counterpart]
      rfl
    · have counted : ({ scheduler.pool with
          completedCount := scheduler.pool.completedCount + 1 } : PoolRuntime).poolId = pool.poolId := named
      exact (same.setPool found counted).of_unchanged rfl rfl rfl (fun _ _ held => held)

theorem mirrors_execute (request : InferenceRequest) (now : ℚ) :
    Mirrors (Comparable price config topology) (counterpart config topology) (RequestResult.repriced price)
      (execute request now) (execute request now) := by
  refine (mirrors_route request now).bind ?_
  rintro ⟨candidate, decision⟩
  apply mirrors_get_bind
  intro plane same
  have cluster : (candidate.repriced price).clusterId = candidate.clusterId := rfl
  have pool : (candidate.repriced price).poolId = candidate.poolId := rfl
  have backend : (candidate.repriced price).backendName = candidate.backendName := rfl
  have available : (candidate.repriced price).available = candidate.available := rfl
  simp only [cluster, pool, backend, available, poolAt_counterpart]
  cases found : plane.poolAt candidate.clusterId candidate.poolId with
  | none => exact ⟨rfl, same⟩
  | some placement =>
    cases backendNamed candidate.backendName with
    | error raised => exact ⟨rfl, same⟩
    | ok backend =>
      dsimp only [Option.map_some]
      split
      · exact place_counterpart same found { request, candidate, decision, backend, now }
      · exact ⟨rfl, same⟩

theorem refresh_counterpart (plane : ControlPlane) (now : ℚ) :
    (plane.counterpart config topology).refresh now = (plane.refresh now).counterpart config topology := by
  have visited := KeyedList.mapAccum_map (f := refreshCluster now) (fun _ _ => rfl)
    ClusterRuntime.unlinked (fun _ => rfl) (fun _ _ => rfl) plane.cacheDirectory plane.clusters
  have clusters : (plane.counterpart config topology).clusters =
      plane.clusters.map ClusterRuntime.unlinked (fun _ => rfl) := rfl
  have directories : (plane.counterpart config topology).cacheDirectory = plane.cacheDirectory := rfl
  unfold refresh
  rw [clusters, directories, visited]
  rfl

theorem poolIn_refresh_isSome (plane : ControlPlane) (now : ℚ) (clusterId poolId : String) :
    ((plane.refresh now).poolIn clusterId poolId).isSome = (plane.poolIn clusterId poolId).isSome := by
  obtain ⟨_, _, refreshed⟩ := refresh_eq plane now
  rw [refreshed]
  simp only [poolIn, KeyedList.get?_map]
  cases plane.clusters.get? clusterId with
  | none => rfl
  | some cluster =>
    simp only [Option.map_some, Option.bind_some, refreshedCluster, KeyedList.get?_map, Option.isSome_map]

theorem Comparable.refresh {plane : ControlPlane} (same : Comparable price config topology plane) (now : ℚ) :
    Comparable price config topology (plane.refresh now) :=
  same.of_unchanged rfl rfl rfl (fun clusterId poolId held => by rwa [← poolIn_refresh_isSome plane now])

theorem mirrors_serve (arrival : Arrival) :
    Mirrors (Comparable price config topology) (counterpart config topology) (RequestResult.repriced price)
      (serve arrival) (serve arrival) := by
  intro plane same
  simp only [serve, stateAfter, refresh_counterpart]
  exact mirrors_execute arrival.request arrival.now _ (same.refresh arrival.now)

end ControlPlane

end NimbusMesh
