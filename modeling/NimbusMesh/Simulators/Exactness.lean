import NimbusMesh.ControlPlane.Estimates
import NimbusMesh.Simulators.Engine
import NimbusMesh.Workload.Arrivals

namespace NimbusMesh

open Foundation Foundation.Decimal Foundation.Execution

structure RequestResult.Exact (result : RequestResult) : Prop where
  parts : result.queueDelayMs + result.prefillLatencyMs + result.decodeLatencyMs = result.totalLatencyMs
  span : result.completionTs - result.request.arrivalTs = result.totalLatencyMs / 1000
  sla : result.slaMet = true ↔ result.totalLatencyMs ≤ result.request.maxLatencyMs

theorem ControlPlane.execute_exact {origin : List ClusterRuntime} {plane final : ControlPlane}
    {request : InferenceRequest} {result : RequestResult} (gridded : Gridded origin plane)
    (arrives : OnGrid 7 request.arrivalTs)
    (returned : execute request request.arrivalTs plane = .ok result final) (admitted : result.admitted = true) :
    result.Exact := by
  obtain ⟨cluster, pool, cache, candidate, call, slotIndex, placed⟩ := execute_admitted returned admitted
  obtain ⟨held, inside⟩ := mem_of_mem_placements placed.answers.mem
  have called : OnGrid 7 call.now := placed.called ▸ arrives
  obtain ⟨wait, prefill, decode, total, sla⟩ := reported_unrounded placed.named called
    (gridded.slots cluster held pool inside) slotIndex
  rw [placed.result]
  refine ⟨?_, ?_, ?_⟩
  · rw [wait, prefill, decode, total]
  · have arrived : (call.result pool slotIndex).request.arrivalTs = call.now := by
      rw [placed.called, ← placed.asked]
      rfl
    rw [total, waitMs, arrived]
    change call.startTs pool slotIndex + ((call.latency pool).1 + (call.latency pool).2) / 1000.0 - call.now = _
    norm_num
    ring
  · rw [total]
    exact sla

namespace SimulationEngine

def submitted (engine : SimulationEngine) (request : InferenceRequest) : ControlPlane :=
  (engine.controlPlane.refresh request.arrivalTs).noteSubmission request

theorem stateAfter_serve (request : InferenceRequest) (engine : SimulationEngine) :
    let execution := ControlPlane.execute request request.arrivalTs
    let final := stateAfter (serve request) engine
    final.controlPlane = stateAfter execution (engine.submitted request) ∧
      (final.metrics.results = engine.metrics.results ∨
        ∃ result, execution (engine.submitted request) = .ok result final.controlPlane ∧
          final.metrics.results = engine.metrics.results ++ [result]) := by
  simp only [stateAfter, serve, submitted]
  cases executed : ControlPlane.execute request request.arrivalTs
      ((engine.controlPlane.refresh request.arrivalTs).noteSubmission request) with
  | error raised controlPlane => exact ⟨rfl, .inl rfl⟩
  | ok result controlPlane =>
    dsimp only
    cases controlPlane.cacheDirectory.redisStore.writeDecision request.requestId with
    | error raised _ => exact ⟨rfl, .inr ⟨result, rfl, rfl⟩⟩
    | ok _ _ => exact ⟨rfl, .inr ⟨result, rfl, rfl⟩⟩

theorem serve_eq_ok {request : InferenceRequest} {engine final : SimulationEngine} {result : RequestResult}
    (returned : serve request engine = .ok result final) :
    ControlPlane.execute request request.arrivalTs (engine.submitted request) = .ok result final.controlPlane ∧
      final.metrics.results = engine.metrics.results ++ [result] := by
  simp only [serve] at returned
  split at returned
  · cases returned
  · rename_i executed controlPlane execution
    split at returned
    · cases returned
    · cases returned
      exact ⟨execution, rfl⟩

theorem results_recorded {requests : List InferenceRequest} {engine final : SimulationEngine}
    {results : List RequestResult} (returned : (requests.mapM serve) engine = .ok results final) :
    final.metrics.results = engine.metrics.results ++ results := by
  induction requests generalizing engine results with
  | nil =>
    obtain ⟨rfl, rfl⟩ := mapM_nil_eq_ok.mp returned
    rw [List.append_nil]
  | cons request rest ih =>
    obtain ⟨result, next, later, served, continued, rfl⟩ := mapM_cons_eq_ok.mp returned
    rw [ih continued, (serve_eq_ok served).2, List.append_assoc, List.singleton_append]

structure Recorded (origin : List ClusterRuntime) (property : RequestResult → Prop) (engine : SimulationEngine) :
    Prop where
  gridded : ControlPlane.Gridded origin engine.controlPlane
  holds : ∀ result ∈ engine.metrics.results, result.admitted = true → property result

variable {config : ExperimentConfig} {environment : Environment} {azureAvailable : Bool} {engine : SimulationEngine}
  {requests : List InferenceRequest} {origin : List ClusterRuntime} {property : RequestResult → Prop}

theorem recorded_create (created : create config environment azureAvailable = .ok engine) :
    Recorded (ControlPlane.buildRuntimeClusters config).toList property engine := by
  obtain ⟨plane, planeCreated, built⟩ := except_bind_eq_ok.mp created
  cases built
  exact ⟨ControlPlane.gridded_create planeCreated, fun _ member => by cases member⟩

theorem gridded_submitted (gridded : ControlPlane.Gridded origin engine.controlPlane) (request : InferenceRequest) :
    ControlPlane.Gridded origin (engine.submitted request) :=
  (gridded.refresh request.arrivalTs).of_clusters rfl

/-- A property that every admitted execution on a plane with its slots on the grid establishes is one
    that the engine keeps. -/
theorem keeps_serve {request : InferenceRequest} (arrives : OnGrid 4 request.arrivalTs)
    (establishes : ∀ (engine : SimulationEngine) result final, ControlPlane.Gridded origin engine.controlPlane →
      ControlPlane.execute request request.arrivalTs (engine.submitted request) = .ok result final →
      result.admitted = true → property result) : Keeps (Recorded origin property) (serve request) := by
  intro engine recorded
  obtain ⟨plane, results⟩ := stateAfter_serve request engine
  constructor
  · rw [plane]
    exact ControlPlane.keeps_execute request (arrives.finer 3) _ (gridded_submitted recorded.gridded request)
  · rcases results with same | ⟨result, executed, appended⟩
    · rw [same]
      exact recorded.holds
    · rw [appended]
      intro other member admitted
      rcases List.mem_append.mp member with earlier | last
      · exact recorded.holds other earlier admitted
      · rw [List.mem_singleton.mp last] at admitted ⊢
        exact establishes engine result _ recorded.gridded executed admitted

/-- However a run on requests that arrive at multiples of 1e-4 seconds ends, every slot is free from a
    multiple of 1e-7 seconds, and the reported latencies of every admitted request are exact. -/
theorem reported_latencies_exact (config : ExperimentConfig) (environment : Environment) (azureAvailable : Bool)
    (engine : SimulationEngine) (created : create config environment azureAvailable = .ok engine)
    (requests : List InferenceRequest) (arrive : ∀ request ∈ requests, OnGrid 4 request.arrivalTs) :
    let reached := stateAfter (requests.mapM serve) engine
    (∀ pool ∈ reached.pools, ∀ time ∈ pool.slotAvailableAt, OnGrid 7 time) ∧
      (∀ result ∈ reached.metrics.results, result.admitted = true → result.Exact) ∧
      ∀ results final, (requests.mapM serve) engine = .ok results final →
        ∀ result ∈ results, result.admitted = true → result.Exact := by
  have kept : Keeps (Recorded (ControlPlane.buildRuntimeClusters config).toList RequestResult.Exact)
      (requests.mapM serve) := by
    apply Keeps.mapM
    intro request member
    apply keeps_serve (arrive request member)
    intro state result final gridded executed admitted
    exact ControlPlane.execute_exact (gridded_submitted gridded request) ((arrive request member).finer 3)
      executed admitted
  have recorded := kept engine (recorded_create created)
  refine ⟨?_, recorded.holds, ?_⟩
  · intro pool member
    obtain ⟨⟨cluster, held⟩, placed, rfl⟩ := List.mem_map.mp member
    obtain ⟨known, inside⟩ := ControlPlane.mem_of_mem_placements placed
    exact recorded.gridded.slots cluster known held inside
  · intro results final returned result member
    have holds := recorded.holds
    rw [stateAfter_ok returned, results_recorded returned] at holds
    exact holds result (List.mem_append_right _ member)

def resultsOf (config : ExperimentConfig) (environment : Environment) (requests : List InferenceRequest) :
    Option (List RequestResult) :=
  match create config environment false with
  | .error _ => none
  | .ok engine => valueOf ((requests.mapM serve) engine)

theorem resultsOf_eq_some {config : ExperimentConfig} {environment : Environment}
    {requests : List InferenceRequest} {results : List RequestResult}
    (ran : resultsOf config environment requests = some results) :
    ∃ engine final, create config environment false = .ok engine ∧
      (requests.mapM serve) engine = .ok results final := by
  unfold resultsOf at ran
  split at ran
  · cases ran
  · rename_i engine created
    obtain ⟨final, returned⟩ := valueOf_eq_some.mp ran
    exact ⟨engine, final, created, returned⟩

theorem reported_latencies_exact_replay :
    let environment := WorkloadGenerator.traceEnvironment (WorkloadGenerator.traceOf ["20", "20", "21"])
    ∃ requests state engine results final,
      WorkloadGenerator.generateRequests environment { config := WorkloadGenerator.replayConfig } =
        .ok requests state ∧
      create (ControlPlane.sessionConfig 1 8 80) (ControlPlane.sessionEnvironment (emptyStore false)) false =
        .ok engine ∧
      (requests.mapM serve) engine = .ok results final ∧
      results.map (fun result => (result.admitted, result.queueDelayMs)) = [(true, 0), (true, 204.7281), (true, 0)] ∧
      (∀ pool ∈ final.pools, ∀ time ∈ pool.slotAvailableAt, OnGrid 7 time) ∧
      ∀ result ∈ results, result.admitted = true → result.Exact := by
  intro environment
  have ran : ((valueOf (WorkloadGenerator.generateRequests environment
      { config := WorkloadGenerator.replayConfig })).bind (resultsOf (ControlPlane.sessionConfig 1 8 80)
        (ControlPlane.sessionEnvironment (emptyStore false)))).map
          (fun results => results.map (fun result => (result.admitted, result.queueDelayMs))) =
      some [(true, 0), (true, 204.7281), (true, 0)] := by decide +kernel
  obtain ⟨results, value, delays⟩ := Option.map_eq_some_iff.mp ran
  obtain ⟨requests, generated, served⟩ := Option.bind_eq_some_iff.mp value
  obtain ⟨state, returned⟩ := valueOf_eq_some.mp generated
  obtain ⟨engine, final, created, ending⟩ := resultsOf_eq_some served
  obtain ⟨slots, _, exact⟩ := reported_latencies_exact _ _ _ engine created requests
    (WorkloadGenerator.generateRequests_onGrid returned)
  rw [stateAfter_ok ending] at slots
  exact ⟨requests, state, engine, results, final, returned, created, ending, delays, slots,
    exact results final ending⟩

section Estimates

/-- The ingress cost of a cluster is a multiple of 1e-4, and so is its congestion whenever a request
    arrives. -/
def CostsOnGrid (requests : List InferenceRequest) (cluster : ClusterRuntime) : Prop :=
  OnGrid 4 cluster.ingressCost ∧ ∀ request ∈ requests, OnGrid 4 (cluster.effectiveCongestion request.arrivalTs)

instance (requests : List InferenceRequest) (cluster : ClusterRuntime) : Decidable (CostsOnGrid requests cluster) :=
  inferInstanceAs (Decidable (_ ∧ _))

theorem submitted_estimatesMet (costs : ∀ cluster ∈ origin, CostsOnGrid requests cluster)
    (arrive : ∀ request ∈ requests, OnGrid 4 request.arrivalTs) {request : InferenceRequest}
    (member : request ∈ requests) (gridded : ControlPlane.Gridded origin engine.controlPlane)
    {result : RequestResult} {final : ControlPlane}
    (executed : ControlPlane.execute request request.arrivalTs (engine.submitted request) = .ok result final)
    (admitted : result.admitted = true) :
    ControlPlane.EstimatesMet (engine.submitted request) request request.arrivalTs result final := by
  have refreshed := gridded_submitted gridded request
  have costsNow : ∀ cluster ∈ (engine.submitted request).clusters.toList, CostsOnGrid requests cluster := by
    intro cluster held
    obtain ⟨original, known, pools, rfl⟩ := refreshed.clusters cluster held
    exact costs original known
  apply ControlPlane.execute_estimatesMet refreshed ((arrive request member).finer 3)
    (fun cluster held => (costsNow cluster held).1) _ executed admitted
  intro cluster held pool inside
  rw [ControlPlane.congestionScore_refresh engine.controlPlane request.arrivalTs cluster held pool inside]
  exact (costsNow cluster held).2 request member

theorem meanAbsoluteLatencyErrorMs_eq_zero {engine : SimulationEngine}
    (exact : ∀ result ∈ engine.metrics.results, result.admitted = true →
      result.decision.estimatedLatencyMs = result.totalLatencyMs) :
    engine.report.summary.meanAbsoluteLatencyErrorMs = 0 := by
  have errors : ∀ error ∈ (engine.metrics.results.filter RequestResult.admitted).map
      (fun item => |item.decision.estimatedLatencyMs - item.totalLatencyMs|), error = 0 := by
    intro error member
    obtain ⟨result, kept, rfl⟩ := List.mem_map.mp member
    obtain ⟨recorded, admitted⟩ := List.mem_filter.mp kept
    rw [exact result recorded admitted, sub_self, abs_zero]
  simp only [report, MetricsCollector.summary]
  rw [List.sum_eq_zero errors, zero_div, roundTo_zero]

/-- The router and the scheduler agree in every step of a run on the grid, so that the reported error
    of the estimates is zero however the run ends. -/
theorem estimates_exact (config : ExperimentConfig) (environment : Environment) (azureAvailable : Bool)
    (engine : SimulationEngine) (created : create config environment azureAvailable = .ok engine)
    (requests : List InferenceRequest) (arrive : ∀ request ∈ requests, OnGrid 4 request.arrivalTs)
    (costs : ∀ cluster ∈ (ControlPlane.buildRuntimeClusters config).toList, CostsOnGrid requests cluster) :
    (∀ before request after, requests = before ++ request :: after →
      ∀ earlier reached result final, (before.mapM serve) engine = .ok earlier reached →
        serve request reached = .ok result final → result.admitted = true →
        ControlPlane.EstimatesMet (reached.submitted request) request request.arrivalTs result final.controlPlane) ∧
      (stateAfter (requests.mapM serve) engine).report.summary.meanAbsoluteLatencyErrorMs = 0 := by
  let property (result : RequestResult) : Prop := result.decision.estimatedLatencyMs = result.totalLatencyMs
  have kept : ∀ served : List InferenceRequest, (∀ request ∈ served, request ∈ requests) →
      Recorded (ControlPlane.buildRuntimeClusters config).toList property
        (stateAfter (served.mapM serve) engine) := by
    intro served inside
    apply Keeps.mapM _ engine (recorded_create created)
    intro request member
    apply keeps_serve (arrive request (inside request member))
    intro state result final gridded executed admitted
    exact (submitted_estimatesMet costs arrive (inside request member) gridded executed admitted).latency
  constructor
  · intro before request after split earlier reached result final ran served admitted
    have recorded := kept before (fun other member => by simp [split, member])
    rw [stateAfter_ok ran] at recorded
    exact submitted_estimatesMet costs arrive (by simp [split]) recorded.gridded (serve_eq_ok served).1 admitted
  · exact meanAbsoluteLatencyErrorMs_eq_zero (kept requests (fun _ member => member)).holds

def congestedConfig : ExperimentConfig :=
  { ControlPlane.sessionConfig 1 8 80 with
    clusters := (ControlPlane.sessionConfig 1 8 80).clusters.map (fun spec =>
      { spec with baseCongestion := 0.25, congestionWindows := [(0, 10, 2)] }) }

theorem estimates_exact_congested :
    let requests := [sessionRequest 400, sessionRequest 800]
    ∃ engine results final,
      create congestedConfig (ControlPlane.sessionEnvironment (emptyStore false)) false = .ok engine ∧
      (requests.mapM serve) engine = .ok results final ∧
      results.map (fun result => (result.admitted, result.decision.estimatedLatencyMs)) =
        [(true, 1649.8815), (true, 3764.7009)] ∧
      final.report.summary.meanAbsoluteLatencyErrorMs = 0 := by
  intro requests
  have ran : (resultsOf congestedConfig (ControlPlane.sessionEnvironment (emptyStore false)) requests).map
      (fun results => results.map (fun result => (result.admitted, result.decision.estimatedLatencyMs))) =
        some [(true, 1649.8815), (true, 3764.7009)] := by decide +kernel
  obtain ⟨results, served, estimates⟩ := Option.map_eq_some_iff.mp ran
  obtain ⟨engine, final, created, ending⟩ := resultsOf_eq_some served
  have costs : ∀ cluster ∈ (ControlPlane.buildRuntimeClusters congestedConfig).toList,
      CostsOnGrid requests cluster := by decide +kernel
  obtain ⟨_, error⟩ := estimates_exact _ _ _ engine created requests (by decide +kernel) costs
  rw [stateAfter_ok ending] at error
  exact ⟨engine, results, final, created, ending, estimates, error⟩

end Estimates

end SimulationEngine

end NimbusMesh
