import NimbusMesh.ControlPlane.Counterpart
import NimbusMesh.Simulators.Engine

namespace NimbusMesh

open Foundation Foundation.Execution

def MetricsCollector.repriced (price : ℚ → ℚ) (metrics : MetricsCollector) : MetricsCollector :=
  { metrics with results := metrics.results.map (RequestResult.repriced price) }

variable {price : ℚ → ℚ} {config : ExperimentConfig} {topology : TopologyService}

theorem MetricsCollector.record_repriced (metrics : MetricsCollector) (result : RequestResult) :
    (metrics.repriced price).record (result.repriced price) = (metrics.record result).repriced price := by
  simp only [record, repriced, List.map_append]
  rfl

theorem MetricsCollector.summary_repriced (metrics : MetricsCollector) :
    (metrics.repriced price).summary = metrics.summary := by
  have admitted : (metrics.results.map (RequestResult.repriced price)).filter RequestResult.admitted =
      (metrics.results.filter RequestResult.admitted).map (RequestResult.repriced price) := by
    rw [List.filter_map]
    rfl
  have field : ∀ {γ : Type} (read : RequestResult → γ), (∀ result, read (result.repriced price) = read result) →
      ((metrics.results.filter RequestResult.admitted).map (RequestResult.repriced price)).map read =
        (metrics.results.filter RequestResult.admitted).map read := by
    intro γ read same
    rw [List.map_map]
    exact List.map_congr_left (fun result _ => same result)
  have met : ((metrics.results.filter RequestResult.admitted).map (RequestResult.repriced price)).countP
      RequestResult.slaMet = (metrics.results.filter RequestResult.admitted).countP RequestResult.slaMet := by
    rw [List.countP_map]
    rfl
  funext durationS policyName configName totalSlots totalMemoryGb
  simp only [summary, repriced, admitted, met, List.length_map, field RequestResult.totalLatencyMs (fun _ => rfl),
    field RequestResult.prefillLatencyMs (fun _ => rfl), field RequestResult.decodeLatencyMs (fun _ => rfl),
    field (fun item => item.request.totalTokens) (fun _ => rfl), field RequestResult.costUsd (fun _ => rfl),
    field (fun item => (item.prefillLatencyMs + item.decodeLatencyMs) / 1000.0) (fun _ => rfl),
    field RequestResult.memoryGb (fun _ => rfl), field RequestResult.cacheHitRatio (fun _ => rfl),
    field (fun item => |item.decision.estimatedLatencyMs - item.totalLatencyMs|) (fun _ => rfl),
    field RequestResult.cacheSavedTokens (fun _ => rfl), field RequestResult.energyProxy (fun _ => rfl),
    field RequestResult.networkCost (fun _ => rfl)]

namespace SimulationEngine

def counterpart (price : ℚ → ℚ) (config : ExperimentConfig) (topology : TopologyService)
    (engine : SimulationEngine) : SimulationEngine :=
  { engine with
    config
    controlPlane := engine.controlPlane.counterpart config topology
    metrics := engine.metrics.repriced price }

def Comparable (price : ℚ → ℚ) (config : ExperimentConfig) (topology : TopologyService)
    (engine : SimulationEngine) : Prop :=
  ControlPlane.Comparable price config topology engine.controlPlane ∧
    config.durationS = engine.config.durationS ∧ config.name = engine.config.name

theorem mirrors_serve (request : InferenceRequest) :
    Mirrors (Comparable price config topology) (counterpart price config topology)
      (RequestResult.repriced price) (serve request) (serve request) := by
  rintro engine ⟨same, duration, name⟩
  have submitted : ControlPlane.Comparable price config topology
      ((engine.controlPlane.refresh request.arrivalTs).noteSubmission request) :=
    (same.refresh request.arrivalTs).of_unchanged rfl rfl rfl (fun _ _ held => held)
  have planes : ((engine.counterpart price config topology).controlPlane.refresh request.arrivalTs).noteSubmission
      request = ((engine.controlPlane.refresh request.arrivalTs).noteSubmission request).counterpart
        config topology := by
    change ((engine.controlPlane.counterpart config topology).refresh request.arrivalTs).noteSubmission request = _
    rw [ControlPlane.refresh_counterpart]
    rfl
  obtain ⟨mirrored, kept⟩ := ControlPlane.mirrors_execute request request.arrivalTs _ submitted
  simp only [serve, stateAfter, planes, mirrored] at kept ⊢
  cases executed : ControlPlane.execute request request.arrivalTs
      ((engine.controlPlane.refresh request.arrivalTs).noteSubmission request) with
  | error raised plane =>
    rw [executed] at kept
    exact ⟨rfl, kept, duration, name⟩
  | ok result plane =>
    rw [executed] at kept
    have stores : (plane.counterpart config topology).cacheDirectory = plane.cacheDirectory := rfl
    have recorded : ((engine.counterpart price config topology).metrics.noteSubmission request.tenantId).record
        (result.repriced price) = ((engine.metrics.noteSubmission request.tenantId).record result).repriced price :=
      MetricsCollector.record_repriced (engine.metrics.noteSubmission request.tenantId) result
    simp only [mapResult, stores, recorded]
    cases plane.cacheDirectory.redisStore.writeDecision request.requestId with
    | error raised store => exact ⟨rfl, kept, duration, name⟩
    | ok _ store => exact ⟨rfl, kept, duration, name⟩

theorem report_counterpart {engine : SimulationEngine} (same : Comparable price config topology engine) :
    (engine.counterpart price config topology).report = engine.report := by
  obtain ⟨_, duration, name⟩ := same
  have pools : (engine.counterpart price config topology).pools = engine.pools := by
    unfold pools
    change (engine.controlPlane.counterpart config topology).placements.map Prod.snd = _
    rw [ControlPlane.placements_counterpart, List.map_map]
    rfl
  have summaries := @MetricsCollector.summary_repriced price engine.metrics
  unfold report
  rw [pools]
  simp only [counterpart, summaries, duration, name]
  rfl

def finished (results : EStateM.Result PyError SimulationEngine (List RequestResult)) :
    EStateM.Result PyError RedisStore (List RequestResult × Report) :=
  match results with
  | .error raised final => .error raised final.controlPlane.cacheDirectory.redisStore
  | .ok results final => .ok (results, final.report) final.controlPlane.cacheDirectory.redisStore

theorem finished_counterpart {requests : List InferenceRequest} {engine : SimulationEngine}
    (same : Comparable price config topology engine) :
    finished ((requests.mapM serve) (engine.counterpart price config topology)) =
      mapResult id (Prod.map (List.map (RequestResult.repriced price)) id)
        (finished ((requests.mapM serve) engine)) := by
  obtain ⟨mirrored, kept⟩ := Mirrors.mapM mirrors_serve requests engine same
  rw [mirrored]
  simp only [stateAfter] at kept
  cases served : (requests.mapM serve) engine with
  | error raised final => rfl
  | ok results final =>
    rw [served] at kept
    simp only [mapResult, finished, Prod.map, report_counterpart kept]
    rfl

end SimulationEngine

def RequestResult.neutral (result : RequestResult) : RequestResult := result.repriced (fun _ => 0)

namespace SimulationEngine

def initial (config : ExperimentConfig) (environment : Environment) (azureAvailable : Bool) (policy : Policy) :
    SimulationEngine where
  config
  controlPlane := ControlPlane.initial config environment policy
  azure := { available := azureAvailable }

theorem comparable_initial (config : ExperimentConfig) {environment : Environment} (azureAvailable : Bool)
    (policy : Policy) (servicer : ControlPlane.ServedByRepository environment.grpcClient) (strength : ℚ) :
    Comparable (fun _ => 0) { config with fairnessStrength := 0 } (TopologyService.buildFromConfig config)
      (initial { config with fairnessStrength := strength } environment azureAvailable policy) := by
  refine ⟨⟨rfl, ?_, ?_, .inr servicer, fun _ _ _ _ => rfl, fun _ _ _ => rfl⟩, rfl, rfl⟩
  · intro excess
    exact (mul_zero excess).symm
  · intro _
    exact (Decimal.roundTo_zero 4).symm

/-- Two runs that differ in the fairness strength end alike: with the same exception, or with
    results that agree up to the penalties noted in them and with the same report. -/
theorem run_fairness_neutral (config : ExperimentConfig) (environment : Environment) (azureAvailable : Bool)
    (requests : List InferenceRequest) (redisStore : RedisStore)
    (servicer : ControlPlane.ServedByRepository environment.grpcClient) (first second : ℚ) :
    mapResult id (Prod.map (List.map RequestResult.neutral) id)
        (run { config with fairnessStrength := first } environment azureAvailable requests redisStore) =
      mapResult id (Prod.map (List.map RequestResult.neutral) id)
        (run { config with fairnessStrength := second } environment azureAvailable requests redisStore) := by
  simp only [run, create, ControlPlane.create_eq_initial]
  cases Policy.build config.policy with
  | error raised => rfl
  | ok policy =>
    have served : ControlPlane.ServedByRepository ({ environment with redisStore } : Environment).grpcClient :=
      servicer
    have left := @finished_counterpart _ _ _ requests _
      (comparable_initial config azureAvailable policy served first)
    have right := @finished_counterpart _ _ _ requests _
      (comparable_initial config azureAvailable policy served second)
    -- the two engines have one counterpart
    exact left.symm.trans right

def unevenConfig : ExperimentConfig :=
  { ControlPlane.sessionConfig 1 8 80 with
    policy := "multi_objective"
    tenantWeights := Dict.set (Dict.set KeyedList.empty "tenant-a" 1) "tenant-b" 3 }

def remoteEnvironment : Environment :=
  { ControlPlane.sessionEnvironment (emptyStore false) with
    grpcClient := { available := true, stub := fun request => .ok (choosePlacement request) } }

theorem run_fairness_neutral_uneven :
    let ran (strength : ℚ) := run { unevenConfig with fairnessStrength := strength } remoteEnvironment false
      [sessionRequest 400, sessionRequest 800] (emptyStore false)
    let penalties (strength : ℚ) := (valueOf (ran strength)).map (fun ended =>
      ended.1.map (fun result => result.decision.fairnessPenalty))
    penalties 0 = some [0, 0] ∧ penalties 1 = some [0, 3 / 4] ∧
      mapResult id (Prod.map (List.map RequestResult.neutral) id) (ran 0) =
        mapResult id (Prod.map (List.map RequestResult.neutral) id) (ran 1) := by
  intro ran penalties
  refine ⟨by decide +kernel, by decide +kernel, ?_⟩
  exact run_fairness_neutral unevenConfig remoteEnvironment false _ _ (fun _ => rfl) 0 1

end SimulationEngine

end NimbusMesh
