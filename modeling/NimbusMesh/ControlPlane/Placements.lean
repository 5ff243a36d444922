import NimbusMesh.ControlPlane.Steps

namespace NimbusMesh.ControlPlane

open Foundation Foundation.Decimal Foundation.Execution

/-- Every cluster is one of those that a plane started with, up to the state of its pools, and every
    slot of its pools is free from a time on the grid of 1e-7 seconds. -/
structure Gridded (origin : List ClusterRuntime) (plane : ControlPlane) : Prop where
  clusters : ∀ cluster ∈ plane.clusters.toList, ∃ original ∈ origin, ∃ pools, cluster = { original with pools }
  slots : ∀ cluster ∈ plane.clusters.toList, ∀ pool ∈ cluster.pools.toList, ∀ time ∈ pool.slotAvailableAt,
    OnGrid 7 time

variable {origin : List ClusterRuntime}

theorem gridded_create {config : ExperimentConfig} {environment : Environment} {plane : ControlPlane}
    (created : create config environment = .ok plane) : Gridded (buildRuntimeClusters config).toList plane := by
  obtain ⟨policy, _, built⟩ := except_bind_eq_ok.mp created
  cases built
  refine ⟨fun cluster member => ⟨cluster, member, _, rfl⟩, ?_⟩
  intro cluster member pool inside time slot
  rcases KeyedList.mem_foldl_insert buildCluster _ _ member with empty | ⟨spec, _, rfl⟩
  · cases empty
  · rcases KeyedList.mem_foldl_insert (buildPool spec) _ _ inside with empty | ⟨poolSpec, _, rfl⟩
    · cases empty
    · rw [List.eq_of_mem_replicate slot]
      exact onGrid_zero

theorem Gridded.refresh {plane : ControlPlane} (gridded : Gridded origin plane) (now : ℚ) :
    Gridded origin (plane.refresh now) := by
  obtain ⟨_, _, refreshed⟩ := refresh_eq plane now
  rw [refreshed]
  constructor
  · intro cluster member
    obtain ⟨before, inside, rfl⟩ := List.mem_map.mp member
    obtain ⟨original, known, pools, rfl⟩ := gridded.clusters before inside
    exact ⟨original, known, _, rfl⟩
  · intro cluster member pool inside
    obtain ⟨before, held, rfl⟩ := List.mem_map.mp member
    obtain ⟨old, oldHeld, rfl⟩ := List.mem_map.mp inside
    exact gridded.slots before held old oldHeld

theorem Gridded.setPool {plane : ControlPlane} (gridded : Gridded origin plane) {cluster : ClusterRuntime}
    (held : cluster ∈ plane.clusters.toList) {pool : PoolRuntime}
    (slots : ∀ time ∈ pool.slotAvailableAt, OnGrid 7 time) : Gridded origin (plane.setPool cluster pool) := by
  constructor
  · intro other member
    rcases KeyedList.mem_insert.mp member with rfl | ⟨old, _⟩
    · obtain ⟨original, known, pools, rfl⟩ := gridded.clusters cluster held
      exact ⟨original, known, _, rfl⟩
    · exact gridded.clusters other old
  · intro other member target inside
    rcases KeyedList.mem_insert.mp member with rfl | ⟨old, _⟩
    · rcases KeyedList.mem_insert.mp inside with rfl | ⟨kept, _⟩
      · exact slots
      · exact gridded.slots cluster held target kept
    · exact gridded.slots other old target inside

theorem Gridded.of_clusters {plane final : ControlPlane} (gridded : Gridded origin plane)
    (same : final.clusters = plane.clusters) : Gridded origin final := by
  constructor
  · rw [same]
    exact gridded.clusters
  · rw [same]
    exact gridded.slots

theorem onGrid_backend {name : String} {backend : Backend} (named : backendNamed name = .ok backend)
    (request : InferenceRequest) (pool : PoolRuntime) (cacheHitRatio topologyAffinity networkCost congestionScore : ℚ) :
    let latency := backend request pool cacheHitRatio topologyAffinity networkCost congestionScore
    OnGrid 4 latency.1 ∧ OnGrid 4 latency.2 := by
  unfold backendNamed at named
  split at named
  · rename_i found registered
    cases named
    obtain ⟨before, after, split, _⟩ := List.lookup_eq_some_iff.mp registered
    have member : (name, backend) ∈ backends := by simp [split]
    simp only [backends, List.mem_cons, List.not_mem_nil, or_false, Prod.mk.injEq] at member
    rcases member with ⟨_, rfl⟩ | ⟨_, rfl⟩ | ⟨_, rfl⟩ <;>
      exact ⟨onGrid_roundTo 4 _, onGrid_roundTo 4 _⟩
  · cases named

theorem onGrid_latency {call : PlacementCall} {name : String} (named : backendNamed name = .ok call.backend)
    (pool : PoolRuntime) : OnGrid 4 (call.latency pool).1 ∧ OnGrid 4 (call.latency pool).2 :=
  onGrid_backend named call.request pool _ _ _ _

theorem onGrid_completionTs {call : PlacementCall} {name : String} (named : backendNamed name = .ok call.backend)
    (arrives : OnGrid 7 call.now) {pool : PoolRuntime} (slots : ∀ time ∈ pool.slotAvailableAt, OnGrid 7 time)
    (slotIndex : ℕ) : OnGrid 7 (call.startTs pool slotIndex) ∧ OnGrid 7 (call.completionTs pool slotIndex) := by
  obtain ⟨prefill, decode⟩ := onGrid_latency named pool
  have free : OnGrid 7 (pool.slotAvailableAt.getD slotIndex 0) := by
    rw [List.getD_eq_getElem?_getD]
    cases found : pool.slotAvailableAt[slotIndex]? with
    | none => exact onGrid_zero
    | some time => exact slots time (List.mem_of_getElem? found)
  have start : OnGrid 7 (call.startTs pool slotIndex) := arrives.max free
  have thousand : (1000.0 : ℚ) = 10 ^ 3 := by norm_num
  refine ⟨start, start.add ?_⟩
  rw [thousand]
  exact (prefill.add decode).shift_down 3

def waitMs (call : PlacementCall) (pool : PoolRuntime) (slotIndex : ℕ) : ℚ :=
  (call.startTs pool slotIndex - call.now) * 1000

/-- Nothing is lost where a placement rounds what it reports: the latencies of the backends are
    rounded already, and the wait is a multiple of 1e-4 milliseconds. -/
theorem reported_unrounded {call : PlacementCall} {name : String} (named : backendNamed name = .ok call.backend)
    (arrives : OnGrid 7 call.now) {pool : PoolRuntime} (slots : ∀ time ∈ pool.slotAvailableAt, OnGrid 7 time)
    (slotIndex : ℕ) :
    let result := call.result pool slotIndex
    result.queueDelayMs = waitMs call pool slotIndex ∧ result.prefillLatencyMs = (call.latency pool).1 ∧
      result.decodeLatencyMs = (call.latency pool).2 ∧
      result.totalLatencyMs = waitMs call pool slotIndex + (call.latency pool).1 + (call.latency pool).2 ∧
      (result.slaMet = true ↔ waitMs call pool slotIndex + (call.latency pool).1 + (call.latency pool).2 ≤
        call.request.maxLatencyMs) := by
  obtain ⟨prefill, decode⟩ := onGrid_latency named pool
  have start := (onGrid_completionTs named arrives slots slotIndex).1
  have unclamped : max 0 (call.startTs pool slotIndex - call.now) * 1000.0 = waitMs call pool slotIndex := by
    have forward : call.now ≤ call.startTs pool slotIndex := le_max_left _ _
    rw [max_eq_right (sub_nonneg.mpr forward), waitMs]
    norm_num
  have wait : OnGrid 4 (waitMs call pool slotIndex) := by
    have thousand : (1000 : ℚ) = 10 ^ 3 := by norm_num
    rw [waitMs, thousand]
    exact (start.sub arrives).shift_up
  refine ⟨?_, prefill.roundTo_eq, decode.roundTo_eq, ?_, ?_⟩
  · simp only [PlacementCall.result, unclamped]
    exact wait.roundTo_eq
  · simp only [PlacementCall.result, unclamped]
    exact ((wait.add prefill).add decode).roundTo_eq
  · simp only [PlacementCall.result, unclamped, decide_eq_true_eq]

theorem Gridded.place {plane : ControlPlane} (gridded : Gridded origin plane) {cluster : ClusterRuntime}
    {pool : PoolRuntime} (held : cluster ∈ plane.clusters.toList) (inside : pool ∈ cluster.pools.toList)
    (call : PlacementCall) {name : String} (named : backendNamed name = .ok call.backend)
    (arrives : OnGrid 7 call.now) : Gridded origin (stateAfter (place call cluster pool) plane) := by
  have slots := gridded.slots cluster held pool inside
  have booked : ∀ slotIndex, ∀ time ∈ (call.booked pool slotIndex).slotAvailableAt, OnGrid 7 time := by
    intro slotIndex time member
    rcases List.mem_or_eq_of_mem_set member with old | rfl
    · exact slots time old
    · exact (onGrid_completionTs named arrives slots slotIndex).2
  simp only [stateAfter, ControlPlane.place, placeRequest]
  cases SlotQueue.earliest pool.slotAvailableAt with
  | none => exact (gridded.setPool held slots).of_clusters rfl
  | some slotIndex =>
    dsimp only
    cases KVCacheDirectory.observe (call.result pool slotIndex) plane.cacheDirectory with
    | error raised directory => exact (gridded.setPool held (booked slotIndex)).of_clusters rfl
    | ok _ directory =>
      have counted : ∀ time ∈ ({ call.booked pool slotIndex with
          completedCount := pool.completedCount + 1 } : PoolRuntime).slotAvailableAt, OnGrid 7 time := booked slotIndex
      exact (gridded.setPool held counted).of_clusters rfl

theorem keeps_route (request : InferenceRequest) (now : ℚ) : Keeps (Gridded origin) (route request now) := by
  apply keeps_route_of
  · intro plane gridded
    apply gridded.of_clusters
    rw [stateAfter_buildCandidates]
  · intro candidates plane gridded
    obtain ⟨policy, chosen⟩ := stateAfter_chooseCandidate request candidates plane
    apply gridded.of_clusters
    rw [chosen]

theorem keeps_execute (request : InferenceRequest) {now : ℚ} (arrives : OnGrid 7 now) :
    Keeps (Gridded origin) (execute request now) := by
  apply keeps_execute_of (keeps_route request now)
  intro plane candidate decision cluster pool backend located named gridded
  obtain ⟨atCluster, atPool⟩ := poolAt_eq_some located
  exact gridded.place (KeyedList.get?_eq_some.mp atCluster).1 (KeyedList.get?_eq_some.mp atPool).1
    ⟨request, candidate, decision, backend, now⟩ named arrives

end NimbusMesh.ControlPlane
