import NimbusMesh.ControlPlane.Operation
import NimbusMesh.Simulators.Conservation
import NimbusMesh.Workload.Sampling

namespace NimbusMesh

open Foundation Foundation.Execution

/-- A configuration that can be simulated: its policy is registered, it has a pool, and each pool has a slot and a
    backend that is registered. -/
structure ExperimentConfig.Deployable (config : ExperimentConfig) : Prop where
  policy : ∃ policy, Policy.build config.policy = .ok policy
  placeable : ∃ cluster ∈ (ControlPlane.buildRuntimeClusters config).toList, cluster.pools.toList ≠ []
  slots : ∀ cluster ∈ config.clusters, ∀ pool ∈ cluster.pools, 0 < pool.parallelSlots
  backends : ∀ cluster ∈ config.clusters, ∀ pool ∈ cluster.pools,
    ∃ backend, backendNamed pool.backendName = .ok backend

namespace ControlPlane

variable {config : ExperimentConfig} {environment : Environment} {plane : ControlPlane}

theorem poolIn_create_spec (created : create config environment = .ok plane) {clusterId poolId : String}
    {pool : PoolRuntime} (found : plane.poolIn clusterId poolId = some pool) :
    ∃ cluster ∈ config.clusters, ∃ spec ∈ cluster.pools, cluster.clusterId = clusterId ∧
      pool = buildPool cluster spec := by
  obtain ⟨policy, _, built⟩ := except_bind_eq_ok.mp created
  cases built
  obtain ⟨cluster, at_cluster, at_pool⟩ := Option.bind_eq_some_iff.mp found
  obtain ⟨inClusters, named⟩ := KeyedList.get?_eq_some.mp at_cluster
  have inPools := (KeyedList.get?_eq_some.mp at_pool).1
  rcases KeyedList.mem_foldl_insert buildCluster _ _ inClusters with empty | ⟨spec, known, rfl⟩
  · cases empty
  · rcases KeyedList.mem_foldl_insert (buildPool spec) _ _ inPools with empty | ⟨poolSpec, owned, same⟩
    · cases empty
    · exact ⟨spec, known, poolSpec, owned, named, same⟩

theorem ready_buildPool (deployable : config.Deployable) {cluster : ClusterSpec} (known : cluster ∈ config.clusters)
    {spec : PoolSpec} (owned : spec ∈ cluster.pools) :
    Ready (TopologyService.buildFromConfig config) cluster.clusterId (buildPool cluster spec) := by
  obtain ⟨affinity, route⟩ := TopologyService.pool_measured known owned
  have slots := deployable.slots cluster known spec owned
  refine ⟨?_, deployable.backends cluster known spec owned, affinity, route⟩
  apply List.ne_nil_of_length_pos
  change 0 < (List.replicate spec.parallelSlots.toNat (0 : ℚ)).length
  rw [List.length_replicate]
  omega

theorem operable_create (deployable : config.Deployable) (servicer : ServedByRepository environment.grpcClient)
    (disabled : environment.redisStore.enabled = false) :
    ∃ plane, create config environment = .ok plane ∧ Operable plane ∧
      plane.cacheDirectory.totalEntries = 0 ∧ plane.cacheDirectory.maxEntries = 20000 := by
  obtain ⟨policy, registered⟩ := deployable.policy
  have created : create config environment = .ok (initial config environment policy) := by
    rw [create_eq_initial, registered]
    rfl
  refine ⟨_, created, ⟨?_, ?_, servicer, disabled, ?_⟩, rfl, rfl⟩
  · obtain ⟨cluster, held, nonempty⟩ := deployable.placeable
    obtain ⟨pool, rest, pools⟩ := List.exists_cons_of_ne_nil nonempty
    have owned : pool ∈ cluster.pools.toList := by
      rw [pools]
      exact List.mem_cons_self
    have at_cluster : (buildRuntimeClusters config).get? cluster.clusterId = some cluster :=
      KeyedList.get?_eq_some.mpr ⟨held, rfl⟩
    have at_pool : cluster.pools.get? pool.poolId = some pool := KeyedList.get?_eq_some.mpr ⟨owned, rfl⟩
    refine ⟨cluster.clusterId, pool.poolId, pool, ?_⟩
    change ((buildRuntimeClusters config).get? cluster.clusterId).bind _ = _
    rw [at_cluster]
    exact at_pool
  · intro clusterId poolId pool found
    obtain ⟨cluster, known, spec, owned, rfl, rfl⟩ := poolIn_create_spec created found
    exact ready_buildPool deployable known owned
  · change (180.0 : ℚ) ≠ 0
    norm_num

end ControlPlane

namespace SimulationEngine

variable {engine final : SimulationEngine} {request : InferenceRequest}

theorem serve_returns (operable : ControlPlane.Operable engine.controlPlane)
    (room : (engine.controlPlane.cacheDirectory.totalEntries : ℤ) < engine.controlPlane.cacheDirectory.maxEntries)
    (request : InferenceRequest) :
    ∃ result final, serve request engine = .ok result final ∧
      ControlPlane.SameFooting engine.controlPlane final.controlPlane ∧
      final.controlPlane.cacheDirectory.totalEntries ≤ engine.controlPlane.cacheDirectory.totalEntries + 1 ∧
      (engine.controlPlane.poolIn result.decision.clusterId result.decision.poolId).isSome := by
  have refreshed := ControlPlane.sameFooting_refresh engine.controlPlane request.arrivalTs
  have fewer := ControlPlane.totalEntries_refresh engine.controlPlane request.arrivalTs
  have noted : ControlPlane.SameFooting engine.controlPlane (engine.submitted request) :=
    ⟨refreshed.topology, refreshed.grpcClient, refreshed.redisStore, refreshed.ttlS, refreshed.maxEntries,
      refreshed.pools⟩
  have entries : (engine.submitted request).cacheDirectory.totalEntries ≤
      engine.controlPlane.cacheDirectory.totalEntries := fewer
  have limit := noted.maxEntries
  have ready := operable.of_footing noted
  obtain ⟨result, controlPlane, executed⟩ := ready.execute_returns (by omega) request request.arrivalTs
  obtain ⟨kept, grown⟩ := ready.execute_keeps (by omega) executed
  have whole := noted.trans kept
  have off : controlPlane.cacheDirectory.redisStore.enabled = false := whole.redisStore ▸ operable.disabled
  have written : controlPlane.cacheDirectory.redisStore.writeDecision request.requestId =
      .ok () controlPlane.cacheDirectory.redisStore := by
    rw [RedisStore.writeDecision, off]
    rfl
  have named : (engine.controlPlane.poolIn result.decision.clusterId result.decision.poolId).isSome := by
    obtain ⟨pool, held⟩ := ControlPlane.execute_decides executed
    rw [← Option.isSome_map, ← noted.pools, held]
    rfl
  have served : serve request engine = .ok result { engine with
      controlPlane
      metrics := (engine.metrics.noteSubmission request.tenantId).record result
      azure := engine.azure.noteSubmission.recordResult result } := by
    simp only [submitted] at executed
    simp only [serve, executed, written]
  refine ⟨result, _, served, whole, ?_, named⟩
  dsimp only
  omega

theorem mapM_serve_returns (requests : List InferenceRequest) {engine : SimulationEngine}
    (operable : ControlPlane.Operable engine.controlPlane)
    (room : (engine.controlPlane.cacheDirectory.totalEntries + requests.length : ℤ) ≤
      engine.controlPlane.cacheDirectory.maxEntries) :
    ∃ results final, (requests.mapM serve) engine = .ok results final ∧
      ControlPlane.SameFooting engine.controlPlane final.controlPlane ∧
      ∀ result ∈ results, (engine.controlPlane.poolIn result.decision.clusterId result.decision.poolId).isSome := by
  induction requests generalizing engine with
  | nil => exact ⟨[], engine, rfl, ⟨rfl, rfl, rfl, rfl, rfl, fun _ _ => rfl⟩, by simp⟩
  | cons request rest ih =>
    rw [List.length_cons] at room
    obtain ⟨result, next, served, kept, grown, named⟩ := serve_returns operable (by omega) request
    have limit := kept.maxEntries
    obtain ⟨results, final, continued, keptToo, others⟩ := ih (operable.of_footing kept) (by omega)
    refine ⟨result :: results, final, mapM_cons_eq_ok.mpr ⟨result, next, results, served, continued, rfl⟩,
      kept.trans keptToo, ?_⟩
    rw [List.forall_mem_cons]
    refine ⟨named, ?_⟩
    intro other member
    rw [← Option.isSome_map, ← kept.pools, Option.isSome_map]
    exact others other member

theorem served_requests {requests : List InferenceRequest} {results : List RequestResult}
    (returned : (requests.mapM serve) engine = .ok results final) : results.map RequestResult.request = requests := by
  have outputs := mapM_outputs (fun _ => True) RequestResult.request id (fun request engine result final _ served =>
    ⟨True.intro, ControlPlane.execute_request (serve_eq_ok served).1⟩) True.intro returned
  rw [outputs, List.map_id]

/-- A deployable configuration answers every workload that its cache directory has room for, each request on one of
    its pools. -/
theorem run_returns {config : ExperimentConfig} (deployable : config.Deployable) {environment : Environment}
    (servicer : ControlPlane.ServedByRepository environment.grpcClient) (azureAvailable : Bool)
    {requests : List InferenceRequest} (room : requests.length ≤ 20000) {redisStore : RedisStore}
    (disabled : redisStore.enabled = false) :
    ∃ results report, run config environment azureAvailable requests redisStore = .ok (results, report) redisStore ∧
      results.map RequestResult.request = requests ∧ report.summary.requestsTotal = requests.length ∧
      ∀ result ∈ results, ∃ cluster ∈ config.clusters, ∃ pool ∈ cluster.pools,
        result.decision.clusterId = cluster.clusterId ∧ result.decision.poolId = pool.poolId := by
  obtain ⟨plane, built, operable, fresh, limit⟩ :=
    @ControlPlane.operable_create config { environment with redisStore } deployable servicer disabled
  have store : plane.cacheDirectory.redisStore = redisStore := by
    rw [ControlPlane.cacheDirectory_create built]
  have created : create config { environment with redisStore } azureAvailable =
      .ok { config, controlPlane := plane, azure := { available := azureAvailable } } := by
    rw [create, built]
    rfl
  obtain ⟨results, final, served, kept, named⟩ := @mapM_serve_returns requests
    { config, controlPlane := plane, azure := { available := azureAvailable } } operable (by
      rw [fresh, limit]
      omega)
  have ran : run config environment azureAvailable requests redisStore =
      .ok (results, final.report) final.controlPlane.cacheDirectory.redisStore := by
    simp only [run, created, served]
  rw [kept.redisStore, store] at ran
  have answered := served_requests served
  refine ⟨results, final.report, ran, answered, ?_, ?_⟩
  · have recorded := results_recorded served
    change final.metrics.results.length = requests.length
    rw [recorded, ← answered, List.nil_append, List.length_map]
  · intro result member
    obtain ⟨pool, found⟩ := Option.isSome_iff_exists.mp (named result member)
    obtain ⟨cluster, known, spec, owned, sameCluster, rfl⟩ := ControlPlane.poolIn_create_spec built found
    exact ⟨cluster, known, spec, owned, sameCluster.symm, (ControlPlane.poolIn_poolId found).symm⟩

end SimulationEngine

/-- An experiment is a workload and the rest of a configuration file, which repeats what the engine reads of the
    workload. -/
structure Experiment where
  config : ExperimentConfig
  workload : WorkloadConfig
  tenantWeights : config.tenantWeights = workload.tenantWeights
  durationS : config.durationS = workload.durationS

namespace SimulationEngine

/-- The engine is built before its workload is generated, and its errors come first. -/
def simulate (experiment : Experiment) (environment : Environment) (source : GeneratorEnvironment)
    (azureAvailable : Bool) : EStateM PyError RedisStore (List RequestResult × Report) :=
  fun redisStore =>
    match create experiment.config { environment with redisStore } azureAvailable with
    | .error raised => .error raised redisStore
    | .ok _ =>
      match WorkloadGenerator.generateRequests source { config := experiment.workload } with
      | .error raised _ => .error raised redisStore
      | .ok requests _ => run experiment.config environment azureAvailable requests redisStore

def mixedExperiment : Experiment where
  config := { ControlPlane.sessionConfig 2 16 80 with
    tenantWeights := WorkloadGenerator.mixedConfig.tenantWeights
    durationS := WorkloadGenerator.mixedConfig.durationS }
  workload := WorkloadGenerator.mixedConfig
  tenantWeights := rfl
  durationS := rfl

theorem deployable_mixedExperiment : mixedExperiment.config.Deployable where
  policy := ⟨_, rfl⟩
  placeable := ⟨_, List.mem_cons_self, by decide +kernel⟩
  slots := by
    intro cluster known pool owned
    cases List.mem_singleton.mp known
    cases List.mem_singleton.mp owned
    decide
  backends := by
    intro cluster known pool owned
    cases List.mem_singleton.mp known
    cases List.mem_singleton.mp owned
    exact ⟨_, rfl⟩

end SimulationEngine

end NimbusMesh
