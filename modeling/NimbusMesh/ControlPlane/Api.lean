import NimbusMesh.ControlPlane.Attribution
import NimbusMesh.ControlPlane.Queries
import NimbusMesh.ControlPlane.Sessions
import NimbusMesh.Simulators.Completion

namespace NimbusMesh

open Foundation Foundation.Decimal Foundation.Execution

structure NodeSnapshot where
  acceleratorType : Option String
  topologyTier : Option String
  gpuCount : Option ℤ
  kind : String
  clusterId : String

structure TopologySnapshot where
  nodes : List (String × NodeSnapshot)
  edges : List (String × List (String × ℚ × ℚ × ℚ))

def TopologyService.snapshot (topology : TopologyService) : TopologySnapshot where
  nodes := topology.nodes.toList.map (fun slot =>
    (slot.1, ⟨slot.2.acceleratorType, slot.2.topologyTier, slot.2.gpuCount, slot.2.kind, slot.2.clusterId⟩))
  edges := topology.adjacency.toList.map (fun slot =>
    (slot.1, slot.2.map (fun edge => (edge.target, edge.bandwidthGbps, edge.latencyUs, edge.cost))))

def fixedText (digits : ℕ) (x : ℚ) : String :=
  let scaled := (roundHalfEven (x * 10 ^ digits)).natAbs
  (if x < 0 then "-" else "") ++ toString (scaled / 10 ^ digits) ++ "." ++ zeroPadded digits (scaled % 10 ^ digits)

def MetricsCollector.renderPrometheus (metrics : MetricsCollector) : String :=
  let admitted := metrics.results.filter RequestResult.admitted
  let latencies := admitted.map RequestResult.totalLatencyMs
  let cacheHitRatio := (admitted.map RequestResult.cacheHitRatio).sum / max 1 latencies.length
  let lines := [
    "# HELP nimbusmesh_requests_total Total number of processed requests.",
    "# TYPE nimbusmesh_requests_total counter",
    "nimbusmesh_requests_total " ++ toString metrics.results.length,
    "# HELP nimbusmesh_latency_p95_ms Estimated p95 end-to-end latency.",
    "# TYPE nimbusmesh_latency_p95_ms gauge",
    "nimbusmesh_latency_p95_ms " ++ fixedText 3 (quantile latencies 0.95),
    "# HELP nimbusmesh_cache_hit_ratio Mean cache hit ratio.",
    "# TYPE nimbusmesh_cache_hit_ratio gauge",
    "nimbusmesh_cache_hit_ratio " ++ fixedText 6 cacheHitRatio]
  "\n".intercalate lines ++ "\n"

def Experiment.withPolicy (experiment : Experiment) (policy : String) : Experiment :=
  { experiment with config := { experiment.config with policy } }

/-- What a client asks. A payload is given by what is built from it, or by what building it raises. -/
inductive ApiCall where
  | healthz
  | topology
  | cache
  | route (payload : Except PyError InferenceRequest)
  | simulate (payload : Except PyError (Experiment × GeneratorEnvironment)) (policy : Option String)
  | metrics

inductive ApiReply where
  | status (text : String)
  | topology (snapshot : TopologySnapshot)
  | cache (entries : List (String × List CacheEntry))
  | routed (candidate : CandidatePlacement) (decision : RoutingDecision)
  | report (report : Report)
  | metrics (text : String)
  | raised (error : PyError)

/-- The application of `create_app`. Its simulations reach the same store and accelerators as its control plane. -/
structure Api where
  environment : Environment
  azureAvailable : Bool
  controlPlane : ControlPlane
  metrics : MetricsCollector := {}

namespace Api

def createApp (config : ExperimentConfig) (environment : Environment) (azureAvailable : Bool) : Except PyError Api := do
  let controlPlane ← ControlPlane.create config environment
  return { environment, azureAvailable, controlPlane }

def withControlPlane (api : Api) (controlPlane : ControlPlane) : Api := { api with controlPlane }

def withPolicy (api : Api) (policy : Policy) : Api := api.withControlPlane { api.controlPlane with policy }

def submitted (api : Api) (request : InferenceRequest) : ControlPlane :=
  (api.controlPlane.refresh request.arrivalTs).noteSubmission request

def routedReply : Except PyError (CandidatePlacement × RoutingDecision) → ApiReply
  | .error raised => .raised raised
  | .ok (candidate, decision) => .routed candidate decision

/-- Whether or not it raises, a request leaves the control plane as it was when it ended. -/
def route (api : Api) (request : InferenceRequest) : ApiReply × Api :=
  let routing := ControlPlane.route request request.arrivalTs
  (routedReply (outcome (routing (api.submitted request))),
    api.withControlPlane (stateAfter routing (api.submitted request)))

def simulatedReply : Except PyError (List RequestResult × Report) → ApiReply
  | .error raised => .raised raised
  | .ok (_, report) => .report report

def simulate (api : Api) (experiment : Experiment) (source : GeneratorEnvironment) : ApiReply × Api :=
  let simulation := SimulationEngine.simulate experiment api.environment source api.azureAvailable
  let directory := api.controlPlane.cacheDirectory
  (simulatedReply (outcome (simulation directory.redisStore)),
    api.withControlPlane { api.controlPlane with
      cacheDirectory := { directory with redisStore := stateAfter simulation directory.redisStore } })

def respond (api : Api) : ApiCall → ApiReply × Api
  | .healthz => (.status "ok", api)
  | .topology => (.topology api.controlPlane.topology.snapshot, api)
  | .cache =>
    let snapshot := api.controlPlane.cacheDirectory.snapshot 0
    (.cache snapshot.2, api.withControlPlane { api.controlPlane with cacheDirectory := snapshot.1 })
  | .route (.error raised) => (.raised raised, api)
  | .route (.ok request) => api.route request
  | .simulate (.error raised) _ => (.raised raised, api)
  | .simulate (.ok (experiment, source)) policy =>
    api.simulate ((policy.map experiment.withPolicy).getD experiment) source
  | .metrics => (.metrics api.metrics.renderPrometheus, api)

def reply (api : Api) (call : ApiCall) : ApiReply := (api.respond call).1

def after (api : Api) (calls : List ApiCall) : Api := calls.foldl (fun api call => (api.respond call).2) api

end Api

section Store

variable {redisStore : RedisStore}

theorem KVCacheDirectory.observe_store_disabled {directory : KVCacheDirectory}
    (disabled : directory.redisStore.enabled = false) (result : RequestResult) :
    (stateAfter (observe result) directory).redisStore = directory.redisStore := by
  cases admitted : result.admitted with
  | false => rw [stateAfter_ok (observe_rejected directory result admitted)]
  | true =>
    have recorded : stateAfter (observe result) directory = stateAfter trim (directory.recorded result) := by
      unfold stateAfter
      rw [observe_disabled disabled admitted]
    rw [recorded]
    rcases trim_cases (directory.recorded result) with same | ⟨items, total, trimmed⟩
    · rw [same]
      rfl
    · rw [trimmed]
      rfl

theorem ControlPlane.sustained_store (disabled : redisStore.enabled = false) :
    Sustained (fun directory => directory.redisStore = redisStore) where
  evicts := fun _ _ same => same
  scores := by
    intro request clusterId poolId now directory same
    have off : directory.redisStore.enabled = false := same ▸ disabled
    rw [KVCacheDirectory.score_state, stateAfter_ok (KVCacheDirectory.prepareScore_disabled _ request now off)]
    exact same
  observes := by
    intro result directory same
    rw [KVCacheDirectory.observe_store_disabled (same ▸ disabled)]
    exact same

namespace SimulationEngine

theorem keeps_store_serve (disabled : redisStore.enabled = false) (request : InferenceRequest) :
    Keeps (fun engine : SimulationEngine => engine.controlPlane.cacheDirectory.redisStore = redisStore)
      (serve request) := by
  intro engine same
  obtain ⟨plane, _⟩ := stateAfter_serve request engine
  rw [plane]
  apply ControlPlane.keeps_directory_execute (ControlPlane.sustained_store disabled) request request.arrivalTs
  exact (ControlPlane.refresh_redisStore engine.controlPlane request.arrivalTs).trans same

theorem stateAfter_run_disabled (disabled : redisStore.enabled = false) (config : ExperimentConfig)
    (environment : Environment) (azureAvailable : Bool) (requests : List InferenceRequest) :
    stateAfter (run config environment azureAvailable requests) redisStore = redisStore := by
  simp only [stateAfter, run]
  cases created : create config { environment with redisStore } azureAvailable with
  | error raised => rfl
  | ok engine =>
    have initial : engine.controlPlane.cacheDirectory.redisStore = redisStore := by
      obtain ⟨plane, built, same⟩ := except_bind_eq_ok.mp created
      cases same
      rw [ControlPlane.cacheDirectory_create built]
    have kept : Keeps (fun engine : SimulationEngine => engine.controlPlane.cacheDirectory.redisStore = redisStore)
        (requests.mapM serve) := Keeps.mapM (fun request _ => keeps_store_serve disabled request)
    have final := kept engine initial
    dsimp only
    cases served : (requests.mapM serve) engine with
    | error raised last =>
      rw [stateAfter_error served] at final
      exact final
    | ok results last =>
      rw [stateAfter_ok served] at final
      exact final

theorem stateAfter_simulate_disabled (disabled : redisStore.enabled = false) (experiment : Experiment)
    (environment : Environment) (source : GeneratorEnvironment) (azureAvailable : Bool) :
    stateAfter (simulate experiment environment source azureAvailable) redisStore = redisStore := by
  have ran := fun requests => stateAfter_run_disabled disabled experiment.config environment azureAvailable requests
  unfold stateAfter at ran ⊢
  unfold simulate
  cases create experiment.config { environment with redisStore } azureAvailable with
  | error raised => rfl
  | ok engine =>
    dsimp only
    cases WorkloadGenerator.generateRequests source { config := experiment.workload } with
    | error raised generator => rfl
    | ok requests generator => exact ran requests

end SimulationEngine

end Store

namespace ControlPlane

section Idle

structure Unbooked (origin : ControlPlane) : Prop where
  inflight : ∀ cluster ∈ origin.clusters.toList, ∀ pool ∈ cluster.pools.toList, pool.inflightMemory = []
  entries : origin.cacheDirectory.entries = KeyedList.empty

variable {origin plane : ControlPlane}

theorem Unbooked.evictStale (unbooked : Unbooked origin) (now : ℚ) :
    origin.cacheDirectory.evictStale now = origin.cacheDirectory := by
  have nothing := unbooked.entries
  cases found : origin.cacheDirectory with
  | mk entries redisStore ttlS maxEntries =>
    rw [found] at nothing
    dsimp only at nothing
    subst nothing
    rfl

theorem refreshedCluster_unbooked {cluster : ClusterRuntime}
    (inflight : ∀ pool ∈ cluster.pools.toList, pool.inflightMemory = []) (directory : KVCacheDirectory)
    (earlier later : ℚ) :
    refreshedCluster later directory (refreshedCluster earlier directory cluster) =
      refreshedCluster later directory cluster := by
  have pools : (cluster.pools.map (refreshedPool earlier directory cluster)
      (refreshedPool_poolId earlier directory cluster)).map (refreshedPool later directory cluster)
      (refreshedPool_poolId later directory cluster) = cluster.pools.map (refreshedPool later directory cluster)
      (refreshedPool_poolId later directory cluster) := by
    ext1
    simp only [KeyedList.map, List.map_map]
    apply List.map_congr_left
    intro pool member
    simp [refreshedPool, PoolRuntime.refresh, inflight pool member]
  exact congrArg (fun pools => { cluster with pools }) pools

theorem Unbooked.refresh_eq (unbooked : Unbooked origin) (now : ℚ) :
    origin.refresh now = { origin with
      clusters := origin.clusters.map (refreshedCluster now origin.cacheDirectory)
        (refreshedCluster_clusterId now origin.cacheDirectory) } := by
  obtain ⟨directory, evicted, refreshed⟩ := ControlPlane.refresh_eq origin now
  have same : directory = origin.cacheDirectory := by
    rcases evicted with same | same
    · exact same
    · rw [same, unbooked.evictStale now]
  rw [refreshed, unbooked.evictStale now, same]

theorem Unbooked.refresh (unbooked : Unbooked origin) (now : ℚ) : Unbooked (origin.refresh now) := by
  rw [unbooked.refresh_eq]
  refine ⟨?_, unbooked.entries⟩
  intro cluster held pool owned
  obtain ⟨original, known, rfl⟩ := List.mem_map.mp held
  obtain ⟨kept, inside, rfl⟩ := List.mem_map.mp owned
  simp [refreshedPool, PoolRuntime.refresh, unbooked.inflight original known kept inside]

theorem Unbooked.refresh_refresh (unbooked : Unbooked origin) (earlier later : ℚ) :
    (origin.refresh earlier).refresh later = origin.refresh later := by
  rw [(unbooked.refresh earlier).refresh_eq, unbooked.refresh_eq, unbooked.refresh_eq]
  have clusters : (origin.clusters.map (refreshedCluster earlier origin.cacheDirectory)
      (refreshedCluster_clusterId earlier origin.cacheDirectory)).map (refreshedCluster later origin.cacheDirectory)
      (refreshedCluster_clusterId later origin.cacheDirectory) = origin.clusters.map
      (refreshedCluster later origin.cacheDirectory) (refreshedCluster_clusterId later origin.cacheDirectory) := by
    ext1
    simp only [KeyedList.map, List.map_map]
    apply List.map_congr_left
    intro cluster held
    exact refreshedCluster_unbooked (unbooked.inflight cluster held) _ earlier later
  exact congrArg (fun clusters => { origin with clusters }) clusters

theorem unbooked_create {config : ExperimentConfig} {environment : Environment}
    (created : create config environment = .ok plane) : Unbooked plane := by
  constructor
  · intro cluster held pool owned
    have found : plane.poolIn cluster.clusterId pool.poolId = some pool := by
      unfold poolIn
      rw [KeyedList.get?_eq_some.mpr ⟨held, rfl⟩]
      exact KeyedList.get?_eq_some.mpr ⟨owned, rfl⟩
    obtain ⟨_, _, rfl⟩ := poolIn_create created found
    rfl
  · rw [cacheDirectory_create created]

/-- A policy that choices of the other one can have led to. -/
structure Moved (origin policy : Policy) : Prop where
  name : policy.name = origin.name
  steady : origin.Steady → policy = origin

theorem chooseCandidate_moved {request : InferenceRequest} (candidates : List CandidatePlacement) {start : Policy}
    (moved : Moved start plane.policy) :
    ∃ policy, stateAfter (chooseCandidate request candidates) plane = { plane with policy } ∧ Moved start policy := by
  cases returned : chooseCandidate request candidates plane with
  | error raised final =>
    refine ⟨plane.policy, ?_, moved⟩
    rw [stateAfter_error returned]
    unfold chooseCandidate at returned
    split at returned
    · cases returned
      rfl
    · split at returned
      · cases returned
      · split at returned
        · cases returned
          rfl
        · cases returned
  | ok choice final =>
    obtain ⟨_, policy, same⟩ := chooseCandidate_eq_ok returned
    have name := (chooseCandidate_chain returned).1
    refine ⟨policy, by rw [stateAfter_ok returned, same], ?_, ?_⟩
    · rw [same] at name
      exact name.trans moved.name
    · intro steady
      have unmoved := moved.steady steady
      have kept := chooseCandidate_steady (unmoved ▸ steady) request candidates
      rw [stateAfter_ok returned, same] at kept
      exact (congrArg ControlPlane.policy kept).trans unmoved

theorem route_moved (unbooked : Unbooked plane) (disabled : plane.cacheDirectory.redisStore.enabled = false)
    (request : InferenceRequest) (now : ℚ) :
    ∃ policy, stateAfter (route request now) plane = { plane with policy } ∧ Moved plane.policy policy := by
  have kept : Keeps (fun reached => ∃ policy, reached = { plane with policy } ∧ Moved plane.policy policy)
      (route request now) := by
    apply keeps_route_of
    · rintro _ ⟨policy, rfl, moved⟩
      have directory := @candidatesFor_settled { plane with policy } now plane.cacheDirectory
        (unbooked.evictStale now) disabled request plane.placements
      refine ⟨policy, ?_, moved⟩
      rw [stateAfter_buildCandidates]
      exact congrArg (fun cacheDirectory => { plane with cacheDirectory, policy }) directory
    · rintro candidates _ ⟨policy, rfl, moved⟩
      exact chooseCandidate_moved candidates moved
  exact kept plane ⟨plane.policy, rfl, rfl, fun _ => rfl⟩

/-- The plane differs from an unbooked one in its policy, in records without completions and in when it was refreshed. -/
structure Idle (origin plane : ControlPlane) : Prop where
  policy : Moved origin.policy plane.policy
  completions : SameCompleted origin.tenantStats plane.tenantStats
  refreshed : ∃ clusters, plane =
    { origin with clusters, tenantStats := plane.tenantStats, policy := plane.policy }
  clusters : ∀ now, (plane.refresh now).clusters = (origin.refresh now).clusters

theorem Idle.refl (origin : ControlPlane) : Idle origin origin :=
  ⟨⟨rfl, fun _ => rfl⟩, fun _ => rfl, ⟨origin.clusters, rfl⟩, fun _ => rfl⟩

theorem refresh_unchanged {cacheDirectory : KVCacheDirectory} (now : ℚ)
    (same : (plane.refresh now).cacheDirectory = cacheDirectory) :
    plane.refresh now = { plane with cacheDirectory, clusters := (plane.refresh now).clusters } := by
  rw [← same]
  rfl

theorem Idle.refresh_eq (unbooked : Unbooked origin) (idle : Idle origin plane) (now : ℚ) :
    plane.refresh now = { origin.refresh now with tenantStats := plane.tenantStats, policy := plane.policy } := by
  obtain ⟨clusters, same⟩ := idle.refreshed
  have directory : plane.cacheDirectory = origin.cacheDirectory := by rw [same]
  have evicted : (plane.refresh now).cacheDirectory = origin.cacheDirectory := by
    obtain ⟨reached, stale, refreshed⟩ := ControlPlane.refresh_eq plane now
    rw [refreshed]
    rcases stale with rfl | rfl
    · exact directory
    · dsimp only
      rw [directory, unbooked.evictStale now]
  have originally : (origin.refresh now).cacheDirectory = origin.cacheDirectory := by
    rw [unbooked.refresh_eq]
  calc plane.refresh now
      = { plane with cacheDirectory := origin.cacheDirectory, clusters := (plane.refresh now).clusters } :=
        refresh_unchanged now evicted
    _ = { plane with cacheDirectory := origin.cacheDirectory, clusters := (origin.refresh now).clusters } := by
        rw [idle.clusters now]
    _ = { origin with
          cacheDirectory := origin.cacheDirectory
          clusters := (origin.refresh now).clusters
          tenantStats := plane.tenantStats
          policy := plane.policy } := by
        rw [same]
    _ = { origin.refresh now with tenantStats := plane.tenantStats, policy := plane.policy } := by
        conv_rhs => rw [refresh_unchanged now originally]

theorem Moved.trans {first second third : Policy} (left : Moved first second) (right : Moved second third) :
    Moved first third := by
  refine ⟨right.name.trans left.name, ?_⟩
  intro steady
  have same := left.steady steady
  exact (right.steady (same ▸ steady)).trans same

theorem Idle.route (unbooked : Unbooked origin) (disabled : origin.cacheDirectory.redisStore.enabled = false)
    (idle : Idle origin plane) (request : InferenceRequest) (now : ℚ) :
    Idle origin (stateAfter (ControlPlane.route request now) ((plane.refresh now).noteSubmission request)) := by
  have refreshed := unbooked.refresh now
  have still : Unbooked ((plane.refresh now).noteSubmission request) := by
    rw [idle.refresh_eq unbooked]
    exact ⟨refreshed.inflight, refreshed.entries⟩
  have off : ((plane.refresh now).noteSubmission request).cacheDirectory.redisStore.enabled = false := by
    rw [idle.refresh_eq unbooked]
    change (origin.refresh now).cacheDirectory.redisStore.enabled = false
    rw [refresh_redisStore]
    exact disabled
  obtain ⟨policy, routed, moved⟩ := route_moved still off request now
  rw [routed]
  have policies : ((plane.refresh now).noteSubmission request).policy = plane.policy := rfl
  rw [policies] at moved
  have stats : SameCompleted origin.tenantStats ((plane.refresh now).noteSubmission request).tenantStats := by
    have noted : SameCompleted plane.tenantStats ((plane.refresh now).noteSubmission request).tenantStats :=
      sameCompleted_set plane.tenantStats request.tenantId rfl
    exact fun tenantId => (noted tenantId).trans (idle.completions tenantId)
  refine ⟨idle.policy.trans moved, stats, ?_, ?_⟩
  · rw [idle.refresh_eq unbooked, unbooked.refresh_eq]
    exact ⟨_, rfl⟩
  · intro later
    rw [idle.refresh_eq unbooked]
    change ((origin.refresh now).refresh later).clusters = _
    rw [unbooked.refresh_refresh]

theorem Idle.outcome_route (unbooked : Unbooked origin) (idle : Idle origin plane) (request : InferenceRequest)
    (now : ℚ) :
    outcome (ControlPlane.route request now ((plane.refresh now).noteSubmission request)) =
      outcome (ControlPlane.route request now
        ((({ origin with policy := plane.policy } : ControlPlane).refresh now).noteSubmission request)) := by
  have alike : Alike ((({ origin with policy := plane.policy } : ControlPlane).refresh now).noteSubmission request)
      ((plane.refresh now).noteSubmission request) := by
    rw [idle.refresh_eq unbooked]
    refine ⟨_, rfl, ?_⟩
    apply SameCompleted.set idle.completions
    exact idle.completions request.tenantId
  have routes := congruent_alike.route (respects_buildCandidates_alike request now)
  rcases (routes _ _ alike).cases with ⟨raised, _, _, left, right, _⟩ | ⟨answer, _, _, left, right, _⟩
  · rw [left, right]
    rfl
  · rw [left, right]
    rfl

end Idle

end ControlPlane

namespace Api

variable {origin api : Api}

/-- The application differs from the other one in nothing but what routing requests leave in its control plane. -/
def Idle (origin api : Api) : Prop :=
  ∃ plane, api = origin.withControlPlane plane ∧ ControlPlane.Idle origin.controlPlane plane

theorem Idle.directory (idle : Idle origin api) :
    api.controlPlane.cacheDirectory = origin.controlPlane.cacheDirectory := by
  obtain ⟨plane, rfl, same⟩ := idle
  obtain ⟨_, refreshed⟩ := same.refreshed
  change plane.cacheDirectory = _
  rw [refreshed]

theorem Idle.respond (unbooked : ControlPlane.Unbooked origin.controlPlane)
    (disabled : origin.controlPlane.cacheDirectory.redisStore.enabled = false) (idle : Idle origin api)
    (call : ApiCall) : Idle origin (api.respond call).2 := by
  have directory := idle.directory
  cases call with
  | healthz => exact idle
  | topology => exact idle
  | metrics => exact idle
  | cache =>
    have evicted : (api.controlPlane.cacheDirectory.snapshot 0).1 = api.controlPlane.cacheDirectory := by
      rw [directory]
      exact unbooked.evictStale 0
    simp only [Api.respond, evicted]
    exact idle
  | route payload =>
    cases payload with
    | error raised => exact idle
    | ok request =>
      obtain ⟨plane, rfl, same⟩ := idle
      exact ⟨_, rfl, same.route unbooked disabled request request.arrivalTs⟩
  | simulate payload policy =>
    cases payload with
    | error raised => exact idle
    | ok loaded =>
      have kept := SimulationEngine.stateAfter_simulate_disabled (directory ▸ disabled)
        ((policy.map loaded.1.withPolicy).getD loaded.1) api.environment loaded.2 api.azureAvailable
      simp only [Api.respond, simulate, kept]
      exact idle

theorem Idle.reply (unbooked : ControlPlane.Unbooked origin.controlPlane) (idle : Idle origin api) (call : ApiCall) :
    api.reply call = (origin.withPolicy api.controlPlane.policy).reply call := by
  have directory := idle.directory
  obtain ⟨plane, rfl, same⟩ := idle
  have policies : (origin.withControlPlane plane).controlPlane.policy = plane.policy := rfl
  have directories : (origin.withPolicy plane.policy).controlPlane.cacheDirectory =
      origin.controlPlane.cacheDirectory := rfl
  rw [policies]
  cases call with
  | healthz => rfl
  | metrics => rfl
  | topology =>
    obtain ⟨_, refreshed⟩ := same.refreshed
    have topology : plane.topology = origin.controlPlane.topology := by rw [refreshed]
    exact congrArg (fun topology => ApiReply.topology topology.snapshot) topology
  | cache => simp only [Api.reply, Api.respond, directory, directories]
  | route payload =>
    cases payload with
    | error raised => rfl
    | ok request =>
      have outcomes := same.outcome_route unbooked request request.arrivalTs
      exact congrArg routedReply outcomes
  | simulate payload policy =>
    cases payload with
    | error raised => rfl
    | ok loaded =>
      simp only [Api.reply, Api.respond, simulate, directory, directories]
      rfl

theorem Idle.after (unbooked : ControlPlane.Unbooked origin.controlPlane)
    (disabled : origin.controlPlane.cacheDirectory.redisStore.enabled = false) (calls : List ApiCall) :
    Idle origin (origin.after calls) := by
  refine List.foldlRecOn (motive := Idle origin) calls (fun api call => (api.respond call).2)
    ⟨origin.controlPlane, rfl, .refl _⟩ ?_
  intro api idle call _
  exact idle.respond unbooked disabled call

/-- An application remembers nothing of the calls it has answered but how far its policy has moved: whatever it is
    asked next, it replies as a new one with that policy would, and with a policy that choosing does not change as a
    new one. -/
theorem sessions_leave_policy_only {config : ExperimentConfig} {environment : Environment} {azureAvailable : Bool}
    {app : Api} (opened : createApp config environment azureAvailable = .ok app)
    (disabled : environment.redisStore.enabled = false) (calls : List ApiCall) :
    ∃ policy, policy.name = app.controlPlane.policy.name ∧
      (app.controlPlane.policy.Steady → policy = app.controlPlane.policy) ∧
      ∀ call, (app.after calls).reply call = (app.withPolicy policy).reply call := by
  obtain ⟨plane, created, built⟩ := except_bind_eq_ok.mp opened
  cases built
  have off : plane.cacheDirectory.redisStore.enabled = false := by
    rw [ControlPlane.cacheDirectory_create created]
    exact disabled
  have unbooked := ControlPlane.unbooked_create created
  have idle := @Idle.after { environment, azureAvailable, controlPlane := plane } unbooked off calls
  refine ⟨_, ?_, ?_, idle.reply unbooked⟩
  · obtain ⟨reached, same, kept⟩ := idle
    rw [same]
    exact kept.policy.name
  · obtain ⟨reached, same, kept⟩ := idle
    rw [same]
    exact kept.policy.steady

theorem sessions_leave_policy_only_turns :
    let config := { ControlPlane.sessionConfig 1 8 80 with policy := "cache_aware" }
    let source := WorkloadGenerator.traceEnvironment (WorkloadGenerator.traceOf [])
    let calls : List ApiCall := [.route (.ok { sessionRequest 800 with arrivalTs := 9, arrival_nonneg := by decide }),
      .simulate (.ok (SimulationEngine.mixedExperiment, source)) (some "spread"), .cache,
      .route (.ok (sessionRequest 400))]
    ∃ app, createApp config (ControlPlane.sessionEnvironment (emptyStore false)) true = .ok app ∧
      (valueOf (ControlPlane.route (sessionRequest 800) 0 (app.submitted (sessionRequest 800)))).isSome = true ∧
      ∀ call, (app.after calls).reply call = app.reply call := by
  intro config source calls
  refine ⟨_, rfl, by decide +kernel, ?_⟩
  obtain ⟨policy, _, kept, replies⟩ := @sessions_leave_policy_only config
    (ControlPlane.sessionEnvironment (emptyStore false)) true _ rfl rfl calls
  rw [kept True.intro] at replies
  exact replies

end Api

end NimbusMesh
