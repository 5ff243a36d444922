import NimbusMesh.Policies.Accelerated
import NimbusMesh.Policies.Registry
import NimbusMesh.Scheduler.Local
import NimbusMesh.Topology.Graph

namespace NimbusMesh

open Foundation Foundation.Decimal Foundation.Execution

structure Environment where
  redisStore : RedisStore
  grpcClient : GrpcSchedulerClient
  cppCore : CppSchedulerCore
  cudaEngine : CudaScoringEngine

structure ControlPlane where
  config : ExperimentConfig
  topology : TopologyService
  cacheDirectory : KVCacheDirectory
  cudaEngine : CudaScoringEngine
  grpcClient : GrpcSchedulerClient
  cppCore : CppSchedulerCore
  clusters : KeyedList ClusterRuntime.clusterId
  tenantStats : Dict String TenantStats
  policy : Policy

namespace ControlPlane

def buildPool (cluster : ClusterSpec) (spec : PoolSpec) : PoolRuntime where
  clusterId := cluster.clusterId
  zone := cluster.zone
  poolId := spec.poolId
  backendName := spec.backendName
  acceleratorType := spec.acceleratorType
  supportedModels := spec.supportedModels
  prefillTps := spec.prefillTps
  decodeTps := spec.decodeTps
  memoryGb := spec.memoryGb
  gpuCount := spec.gpuCount
  parallelSlots := spec.parallelSlots
  costPer1mTokens := spec.costPer1mTokens
  energyProxy := spec.energyProxy
  topologyTier := spec.topologyTier
  premium := spec.premium
  queueLimit := spec.queueLimit

def buildCluster (spec : ClusterSpec) : ClusterRuntime where
  clusterId := spec.clusterId
  zone := spec.zone
  ingressCost := spec.ingressCost
  networkCosts := spec.networkCosts
  baseCongestion := spec.baseCongestion
  failureWindows := spec.failureWindows
  congestionWindows := spec.congestionWindows
  pools := spec.pools.foldl (fun pools pool => pools.insert (buildPool spec pool)) KeyedList.empty

def buildRuntimeClusters (config : ExperimentConfig) : KeyedList ClusterRuntime.clusterId :=
  config.clusters.foldl (fun clusters spec => clusters.insert (buildCluster spec)) KeyedList.empty

def create (config : ExperimentConfig) (environment : Environment) : Except PyError ControlPlane := do
  let policy ← Policy.build config.policy
  return {
    config
    topology := TopologyService.buildFromConfig config
    cacheDirectory := { entries := KeyedList.empty, redisStore := environment.redisStore }
    cudaEngine := environment.cudaEngine
    grpcClient := environment.grpcClient
    cppCore := environment.cppCore
    clusters := buildRuntimeClusters config
    tenantStats := KeyedList.empty
    policy }

def placements (plane : ControlPlane) : List (ClusterRuntime × PoolRuntime) :=
  plane.clusters.toList.flatMap (fun cluster => cluster.pools.toList.map (fun pool => (cluster, pool)))

def poolAt (plane : ControlPlane) (clusterId poolId : String) : Option (ClusterRuntime × PoolRuntime) :=
  (plane.clusters.get? clusterId).bind (fun cluster =>
    (cluster.pools.get? poolId).map (fun pool => (cluster, pool)))

def setPool (plane : ControlPlane) (cluster : ClusterRuntime) (pool : PoolRuntime) : ControlPlane :=
  { plane with clusters := plane.clusters.insert { cluster with pools := cluster.pools.insert pool } }

def refreshPool (cluster : ClusterRuntime) (now : ℚ) (directory : KVCacheDirectory)
    (pool : PoolRuntime) : KVCacheDirectory × PoolRuntime :=
  let reserved := directory.reservedGb cluster.clusterId pool.poolId now
  (reserved.1, { pool.refresh now with
    congestionScore := cluster.effectiveCongestion now
    cacheReservedGb := reserved.2 })

def refreshCluster (now : ℚ) (directory : KVCacheDirectory) (cluster : ClusterRuntime) :
    KVCacheDirectory × ClusterRuntime :=
  let refreshed := cluster.pools.mapAccum (refreshPool cluster now) (fun _ _ => rfl) directory
  (refreshed.1, { cluster with pools := refreshed.2 })

def refresh (plane : ControlPlane) (now : ℚ) : ControlPlane :=
  let refreshed := plane.clusters.mapAccum (refreshCluster now) (fun _ _ => rfl) plane.cacheDirectory
  { plane with cacheDirectory := refreshed.1, clusters := refreshed.2 }

def tenant (plane : ControlPlane) (tenantId : String) : TenantStats :=
  (Dict.lookup plane.tenantStats tenantId).getD {}

def noteSubmission (plane : ControlPlane) (request : InferenceRequest) : ControlPlane :=
  let stats := plane.tenant request.tenantId
  { plane with
    tenantStats := Dict.set plane.tenantStats request.tenantId
      { stats with submitted := stats.submitted + 1 } }

def fairnessPenalty (plane : ControlPlane) (tenantId : String) : ℚ :=
  let totalCompleted := ((Dict.values plane.tenantStats).map TenantStats.completed).sum
  if totalCompleted = 0 then 0
  else
    let actualShare : ℚ := (plane.tenant tenantId).completed / totalCompleted
    let weights := plane.config.tenantWeights
    let expectedShare := (Dict.lookup weights tenantId).getD 1.0 / max 1e-9 (Dict.values weights).sum
    max 0 (actualShare - expectedShare) * plane.config.fairnessStrength

/-- The reason a pool cannot take the request now, in the order the checks are made. -/
def rejectionReason (request : InferenceRequest) (now : ℚ) (cluster : ClusterRuntime)
    (pool : PoolRuntime) (neededMemory : ℚ) : Option String :=
  if cluster.unavailable now then some "cluster-unavailable"
  else if ¬ (pool.supportedModels = [] ∨ request.modelId ∈ pool.supportedModels) then
    some "unsupported-model"
  else if pool.queueLimit ≤ pool.inflightCount now then some "queue-limit"
  else if pool.memoryHeadroomGb < neededMemory then some "memory-pressure"
  else none

/-- The loop body of `build_candidates` after the cache directory has been asked. -/
def assemble (plane : ControlPlane) (request : InferenceRequest) (now : ℚ) (cluster : ClusterRuntime)
    (pool : PoolRuntime) (cache : ℚ × ℤ) : Except PyError CandidatePlacement := do
  let neededMemory := estimateRequestMemoryGb request.promptTokens request.generationTokens
    request.modelId cache.2
  let rejection := rejectionReason request now cluster pool neededMemory
  let topologyAffinity ← plane.topology.poolAffinity cluster.clusterId pool.poolId request.promptTokens
  let routeCost ← plane.topology.routeCost cluster.clusterId pool.poolId
  let networkCost := cluster.ingressCost + routeCost
  let backend ← backendNamed pool.backendName
  let projected := backend request pool cache.1 topologyAffinity networkCost pool.congestionScore
  let fairnessPenalty := plane.fairnessPenalty request.tenantId
  let queueDelayMs ← pool.queueDelayMs now
  return {
    clusterId := cluster.clusterId
    poolId := pool.poolId
    backendName := pool.backendName
    acceleratorType := pool.acceleratorType
    queueDelayMs := roundTo 4 queueDelayMs
    projectedPrefillMs := projected.1
    projectedDecodeMs := projected.2
    expectedCacheHitRatio := cache.1
    expectedCacheSavedTokens := cache.2
    topologyAffinity
    networkCost := roundTo 4 networkCost
    congestionScore := roundTo 4 pool.congestionScore
    memoryHeadroomGb := roundTo 4 pool.memoryHeadroomGb
    acceleratorCostPer1mTokens := pool.costPer1mTokens
    fairnessPenalty
    premium := pool.premium
    available := rejection.isNone
    rejectionReason := rejection
    scoreBreakdown := {
      queueDelayMs := roundTo 4 queueDelayMs
      cacheHitRatio := cache.1
      topologyAffinity
      networkCost := roundTo 4 networkCost
      congestionScore := roundTo 4 pool.congestionScore
      memoryHeadroomGb := roundTo 4 pool.memoryHeadroomGb
      fairnessPenalty := roundTo 4 fairnessPenalty } }

def candidatesFor (plane : ControlPlane) (request : InferenceRequest) (now : ℚ) :
    List (ClusterRuntime × PoolRuntime) → EStateM PyError KVCacheDirectory (List CandidatePlacement)
  | [], directory => .ok [] directory
  | (cluster, pool) :: rest, directory =>
    match KVCacheDirectory.score request cluster.clusterId pool.poolId now directory with
    | .error raised scored => .error raised scored
    | .ok cache scored =>
      match plane.assemble request now cluster pool cache with
      | .error raised => .error raised scored
      | .ok candidate =>
        match plane.candidatesFor request now rest scored with
        | .error raised final => .error raised final
        | .ok candidates final => .ok (candidate :: candidates) final

def buildCandidates (request : InferenceRequest) (now : ℚ) :
    EStateM PyError ControlPlane (List CandidatePlacement) :=
  fun plane =>
    match plane.candidatesFor request now plane.placements plane.cacheDirectory with
    | .error raised directory => .error raised { plane with cacheDirectory := directory }
    | .ok candidates directory =>
      .ok (plane.cudaEngine.enrichCandidates candidates) { plane with cacheDirectory := directory }

def chooseCandidate (request : InferenceRequest) (candidates : List CandidatePlacement) :
    EStateM PyError ControlPlane CandidatePlacement :=
  fun plane =>
    match plane.grpcClient.choose request candidates with
    | .error raised => .error raised plane
    | .ok grpcIndex =>
      match (grpcIndex.orElse fun _ => plane.cppCore.choose request candidates).bind
          (fun index => candidates[index]?) with
      | some choice => .ok choice plane
      | none =>
        match plane.policy.choose request candidates with
        | .error raised => .error raised plane
        | .ok (choice, policy) => .ok choice { plane with policy }

def decisionFor (plane : ControlPlane) (request : InferenceRequest) (choice : CandidatePlacement) :
    RoutingDecision where
  requestId := request.requestId
  policyName := plane.policy.name
  clusterId := choice.clusterId
  poolId := choice.poolId
  backendName := choice.backendName
  estimatedLatencyMs := roundTo 4 choice.estimatedTotalLatencyMs
  estimatedQueueDelayMs := roundTo 4 choice.queueDelayMs
  estimatedCacheHitRatio := choice.expectedCacheHitRatio
  topologyAffinity := choice.topologyAffinity
  networkCost := choice.networkCost
  acceleratorCostPer1mTokens := choice.acceleratorCostPer1mTokens
  fairnessPenalty := choice.fairnessPenalty
  scoreBreakdown := choice.scoreBreakdown

def route (request : InferenceRequest) (now : ℚ) :
    EStateM PyError ControlPlane (CandidatePlacement × RoutingDecision) := do
  let candidates ← buildCandidates request now
  let choice ← chooseCandidate request candidates
  let plane ← get
  return (choice, plane.decisionFor request choice)

def rejected (request : InferenceRequest) (candidate : CandidatePlacement) (decision : RoutingDecision)
    (now : ℚ) : RequestResult where
  request
  decision
  admitted := false
  actualStartTs := now
  completionTs := now
  queueDelayMs := 0
  prefillLatencyMs := 0
  decodeLatencyMs := 0
  totalLatencyMs := 0
  cacheHitRatio := 0
  cacheSavedTokens := 0
  memoryGb := 0
  costUsd := 0
  energyProxy := 0
  networkCost := candidate.networkCost
  slaMet := false
  rejectionReason := candidate.rejectionReason

/-- The bookkeeping of `execute` once a request has been placed. -/
def completed (plane : ControlPlane) (cluster : ClusterRuntime) (pool : PoolRuntime)
    (result : RequestResult) : ControlPlane :=
  let stats := plane.tenant result.request.tenantId
  { plane.setPool cluster { pool with completedCount := pool.completedCount + 1 } with
    tenantStats := Dict.set plane.tenantStats result.request.tenantId
      { stats with
        completed := stats.completed + 1
        totalLatencyMs := stats.totalLatencyMs + result.totalLatencyMs
        slaMisses := stats.slaMisses + if result.slaMet then 0 else 1 }
    policy := plane.policy.observeResult result }

def place (call : PlacementCall) (cluster : ClusterRuntime) (pool : PoolRuntime) :
    EStateM PyError ControlPlane RequestResult :=
  fun plane =>
    match placeRequest call { pool, cacheDirectory := plane.cacheDirectory } with
    | .error raised scheduler =>
      .error raised { plane.setPool cluster scheduler.pool with cacheDirectory := scheduler.cacheDirectory }
    | .ok result scheduler =>
      .ok result ({ plane with cacheDirectory := scheduler.cacheDirectory }.completed cluster
        scheduler.pool result)

def execute (request : InferenceRequest) (now : ℚ) : EStateM PyError ControlPlane RequestResult := do
  let (candidate, decision) ← route request now
  let plane ← get
  match plane.poolAt candidate.clusterId candidate.poolId with
  | none => throw (.keyError candidate.clusterId)
  | some (cluster, pool) =>
    match backendNamed candidate.backendName with
    | .error raised => throw raised
    | .ok backend =>
      if candidate.available then place { request, candidate, decision, backend, now } cluster pool
      else return rejected request candidate decision now

structure Arrival where
  request : InferenceRequest
  now : ℚ

def serve (arrival : Arrival) : EStateM PyError ControlPlane RequestResult :=
  fun plane => execute arrival.request arrival.now (plane.refresh arrival.now)

/-- A run serves its arrivals in order and ends early when a step raises. -/
def run (arrivals : List Arrival) : EStateM PyError ControlPlane (List RequestResult) :=
  arrivals.mapM serve

end ControlPlane

end NimbusMesh
