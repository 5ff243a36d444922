import NimbusMesh.Foundation.Tasks
import NimbusMesh.Pipeline.Jobs
import NimbusMesh.Simulators.Conservation

namespace NimbusMesh

open Foundation Foundation.Decimal Foundation.Execution

/-- The logs of a simulation: the fan-out of the results under two names each, the failures, which a simulation never
    writes, and the logs of the cloud simulation. -/
inductive Log where
  | scheduler
  | schedulerV2
  | cache
  | cacheV2
  | topology
  | topologyV2
  | latency
  | latencyV2
  | failure
  | monitor
  | cost
  | batch
  deriving DecidableEq

namespace Log

def path : Log → String
  | .scheduler => "logs/scheduler_decisions.log"
  | .schedulerV2 => "logs/scheduler.log"
  | .cache => "logs/cache_hits.log"
  | .cacheV2 => "logs/cache.log"
  | .topology => "logs/topology_scores.log"
  | .topologyV2 => "logs/topology.log"
  | .latency => "logs/latency_metrics.log"
  | .latencyV2 => "logs/latency.log"
  | .failure => "logs/failure_events.log"
  | .monitor => "logs/azure_monitor.log"
  | .cost => "logs/azure_cost.log"
  | .batch => "logs/azure_batch.log"

theorem path_injective {log other : Log} (same : log.path = other.path) : log = other := by
  cases log <;> cases other <;> first | rfl | exact absurd same (by decide)

end Log

section Payloads

def requestIdentifier (request : InferenceRequest) : Json :=
  match request.requestId with
  | some requestId => .str requestId
  | none => .null

theorem writable_requestIdentifier (floats : FloatText) (request : InferenceRequest) :
    Json.Writable floats (requestIdentifier request) := by
  unfold requestIdentifier
  cases request.requestId <;> simp [Json.Writable]

def basePayload (result : RequestResult) : List (String × Json) :=
  [("timestamp", .float result.request.arrivalTs), ("request_id", requestIdentifier result.request),
    ("tenant_id", .str result.request.tenantId), ("model_id", .str result.request.modelId),
    ("chosen_cluster", .str result.decision.clusterId), ("gpu_id", .str result.decision.poolId),
    ("backend", .str result.decision.backendName), ("latency_estimate_ms", .float result.decision.estimatedLatencyMs),
    ("actual_latency_ms", .float result.totalLatencyMs), ("cache_hit", .bool (decide (0 < result.cacheHitRatio))),
    ("cache_hit_ratio", .float result.cacheHitRatio), ("cost_usd", .float result.costUsd)]

def schedulerPayload (result : RequestResult) : Json :=
  .obj (basePayload result ++ [("type", .str "scheduler_decision")])

def topologyPayload (result : RequestResult) : Json :=
  .obj (basePayload result ++ [("type", .str "topology_score"),
    ("topology_affinity", .float result.decision.topologyAffinity), ("network_cost", .float result.networkCost)])

def latencyPayload (result : RequestResult) : Json :=
  .obj (basePayload result ++ [("type", .str "latency_metric"), ("queue_delay_ms", .float result.queueDelayMs),
    ("prefill_latency_ms", .float result.prefillLatencyMs), ("decode_latency_ms", .float result.decodeLatencyMs),
    ("sla_met", .bool result.slaMet)])

def cachePayload (result : RequestResult) : Json :=
  .obj (basePayload result ++ [("type", .str "cache_hit"), ("cache_saved_tokens", .int result.cacheSavedTokens)])

def batchPayload (rayQueueEnabled : Bool) (submittedTotal : ℕ) (request : InferenceRequest) : Json :=
  .obj [("event", .str "batch_submission"), ("request_id", requestIdentifier request),
    ("tenant_id", .str request.tenantId), ("submitted_total", .int submittedTotal),
    ("ray_queue_enabled", .bool rayQueueEnabled)]

def monitorPayload (result : RequestResult) : Json :=
  .obj [("event", .str "monitor_metric"), ("request_id", requestIdentifier result.request),
    ("cluster", .str result.decision.clusterId), ("latency_ms", .float result.totalLatencyMs),
    ("cache_hit_ratio", .float result.cacheHitRatio), ("gpu_pool", .str result.decision.poolId)]

def costPayload (clusterCost : ℚ) (result : RequestResult) : Json :=
  .obj [("event", .str "cost_metric"), ("request_id", requestIdentifier result.request),
    ("cluster", .str result.decision.clusterId), ("request_cost_usd", .float result.costUsd),
    ("cluster_cost_usd", .float (roundTo 6 clusterCost))]

end Payloads

section Writing

variable (floats : FloatText)

def logText (payloads : List Json) : String :=
  String.ofList (payloads.flatMap (fun payload => payload.sortKeys.encode floats ++ ['\n']))

def appendLine (files : Files) (entry : Log × Json) : Files :=
  Function.update files entry.1.path (some ((files entry.1.path).getD "" ++ logText floats [entry.2]))

def emitted (result : RequestResult) : List (Log × Json) :=
  [(.scheduler, schedulerPayload result), (.schedulerV2, schedulerPayload result),
    (.topology, topologyPayload result), (.topologyV2, topologyPayload result),
    (.latency, latencyPayload result), (.latencyV2, latencyPayload result)] ++
  if 0 < result.cacheHitRatio then [(.cache, cachePayload result), (.cacheV2, cachePayload result)] else []

def submissionLogged (rayQueueEnabled : Bool) (azure : AzureInfraSimulator) (request : InferenceRequest) :
    List (Log × Json) :=
  if azure.available then [(.batch, batchPayload rayQueueEnabled azure.submitted request)] else []

def resultLogged (azure : AzureInfraSimulator) (result : RequestResult) : List (Log × Json) :=
  if azure.available then
    [(.monitor, monitorPayload result),
      (.cost, costPayload ((Dict.lookup azure.clusterCosts result.decision.clusterId).getD 0) result)]
  else []

end Writing

/-- The files that a configuration names for the decisions and for the summary of a run, and the texts that go into
    them. Nothing in the program reads either file. -/
structure RunOutputs where
  decisionLog : Option String := none
  metricsOutput : Option String := none
  decisionLine : RequestResult → String
  summaryText : Report → String

namespace RunOutputs

def started (outputs : RunOutputs) (files : Files) : Files :=
  match outputs.decisionLog with
  | none => files
  | some path => Function.update files path (some "")

def emit (outputs : RunOutputs) (files : Files) (result : RequestResult) : Files :=
  match outputs.decisionLog with
  | none => files
  | some path => Function.update files path (some ((files path).getD "" ++ outputs.decisionLine result))

def decisionText (outputs : RunOutputs) (results : List RequestResult) : String :=
  String.join (results.map outputs.decisionLine)

def Apart (outputs : RunOutputs) : Prop := ∀ log : Log, outputs.decisionLog ≠ some log.path

theorem started_other {outputs : RunOutputs} (files : Files) {path : String}
    (differs : outputs.decisionLog ≠ some path) : outputs.started files path = files path := by
  unfold started
  cases named : outputs.decisionLog with
  | none => rfl
  | some held => exact Function.update_of_ne (fun same => differs (by rw [named, same])) _ _

theorem emit_other {outputs : RunOutputs} (files : Files) (result : RequestResult) {path : String}
    (differs : outputs.decisionLog ≠ some path) : outputs.emit files result path = files path := by
  unfold emit
  cases named : outputs.decisionLog with
  | none => rfl
  | some held => exact Function.update_of_ne (fun same => differs (by rw [named, same])) _ _

theorem started_self {outputs : RunOutputs} (files : Files) {path : String}
    (named : outputs.decisionLog = some path) : outputs.started files path = some "" := by
  simp only [started, named, Function.update_self]

theorem emit_self {outputs : RunOutputs} {files : Files} {results : List RequestResult} {path : String}
    (named : outputs.decisionLog = some path) (held : files path = some (outputs.decisionText results))
    (result : RequestResult) :
    outputs.emit files result path = some (outputs.decisionText (results ++ [result])) := by
  simp only [emit, named, Function.update_self, held, Option.getD_some, decisionText, List.map_append,
    String.join_append]
  simp

end RunOutputs

structure LoggedEngine where
  engine : SimulationEngine
  files : Files

namespace LoggedEngine

variable (floats : FloatText) (outputs : RunOutputs) (rayQueueEnabled : Bool)

def created (files : Files) (log : Log) : Files := Function.update files log.path (some ((files log.path).getD ""))

def emptied (files : Files) (log : Log) : Files := Function.update files log.path (some "")

/-- The log of the decisions is emptied, the fan-out creates its logs where they are missing, and the cloud simulation
    empties its own. -/
def opened (files : Files) : Files :=
  [Log.monitor, .cost, .batch].foldl emptied ([Log.scheduler, .cache, .topology, .latency, .failure, .schedulerV2,
    .cacheV2, .topologyV2, .latencyV2].foldl created (outputs.started files))

def create (config : ExperimentConfig) (environment : Environment) (azureAvailable : Bool) (files : Files) :
    Except PyError LoggedEngine := do
  let engine ← SimulationEngine.create config environment azureAvailable
  return { engine, files := opened outputs files }

/-- The loop of `SimulationEngine.run` with what it logs. -/
def serve (request : InferenceRequest) : EStateM PyError LoggedEngine RequestResult := fun state =>
  let plane := (state.engine.controlPlane.refresh request.arrivalTs).noteSubmission request
  let metrics := state.engine.metrics.noteSubmission request.tenantId
  let azure := state.engine.azure.noteSubmission
  let files := (submissionLogged rayQueueEnabled azure request).foldl (appendLine floats) state.files
  match ControlPlane.execute request request.arrivalTs plane with
  | .error raised controlPlane => .error raised { engine := { state.engine with controlPlane, metrics, azure }, files }
  | .ok result controlPlane =>
    let engine := { state.engine with
      controlPlane, metrics := metrics.record result, azure := azure.recordResult result }
    let files := (emitted result).foldl (appendLine floats) (outputs.emit files result)
    let files := (resultLogged engine.azure result).foldl (appendLine floats) files
    match controlPlane.cacheDirectory.redisStore.writeDecision request.requestId with
    | .error raised _ => .error raised { engine, files }
    | .ok _ _ => .ok result { engine, files }

end LoggedEngine

section Reading

variable (floats : FloatText)

theorem logText_append (payloads others : List Json) :
    logText floats (payloads ++ others) = logText floats payloads ++ logText floats others := by
  simp [logText, List.flatMap_append]

def readLog (text : String) : List (Option Json) := (Text.splitlines text).map (Json.loads floats)

/-- A log reads back line by line as what was logged, with its keys in order. -/
theorem readLog_logText {payloads : List Json} (writable : ∀ payload ∈ payloads, Json.Writable floats payload) :
    readLog floats (logText floats payloads) = payloads.map (fun payload => some payload.sortKeys) := by
  have lines : Text.linesOf (payloads.flatMap (fun payload => payload.sortKeys.encode floats ++ ['\n'])) =
      payloads.map (fun payload => payload.sortKeys.encode floats) := by
    induction payloads with
    | nil => rfl
    | cons payload rest ih =>
      have unbroken : ∀ c ∈ payload.sortKeys.encode floats, Text.isLineBreak c = false :=
        fun c member => Json.isLineBreak_of_printable (Json.encode_printable floats payload.sortKeys c member)
      rw [List.flatMap_cons, List.append_assoc, List.singleton_append, Text.linesOf_append unbroken,
        ih (fun later member => writable later (List.mem_cons_of_mem _ member)), List.map_cons]
  rw [readLog, Text.splitlines, logText, String.toList_ofList, lines, List.map_map, List.map_map]
  apply List.map_congr_left
  intro payload member
  exact Json.loads_dumps floats (Json.Writable.sortKeys floats (writable payload member))

end Reading

section Appending

variable (floats : FloatText)

def payloadsFor (entries : List (Log × Json)) (log : Log) : List Json :=
  (entries.filter (fun entry => entry.1 = log)).map Prod.snd

theorem foldl_appendLine (entries : List (Log × Json)) {files : Files} {log : Log} {text : String}
    (held : files log.path = some text) :
    entries.foldl (appendLine floats) files log.path = some (text ++ logText floats (payloadsFor entries log)) := by
  induction entries generalizing files text with
  | nil => simpa [payloadsFor, logText] using held
  | cons entry rest ih =>
    rw [List.foldl_cons]
    by_cases here : entry.1 = log
    · have written : appendLine floats files entry log.path = some (text ++ logText floats [entry.2]) := by
        rw [appendLine, here, Function.update_self, held, Option.getD_some]
      rw [ih written]
      simp [payloadsFor, here, String.append_assoc, ← logText_append]
    · have away : log.path ≠ entry.1.path := fun same => here (Log.path_injective same).symm
      have kept : appendLine floats files entry log.path = some text := (Function.update_of_ne away _ _).trans held
      rw [ih kept]
      simp [payloadsFor, here]

theorem foldl_appendLine_other (entries : List (Log × Json)) (files : Files) {path : String}
    (differs : ∀ log : Log, path ≠ log.path) : entries.foldl (appendLine floats) files path = files path := by
  induction entries generalizing files with
  | nil => rfl
  | cons entry rest ih => exact (ih _).trans (Function.update_of_ne (differs entry.1) _ _)

end Appending

section Histories

variable {floats : FloatText} {azureAvailable rayQueueEnabled : Bool}

def costHistory : List RequestResult → List RequestResult → List Json
  | _, [] => []
  | earlier, result :: later =>
    costPayload (SimulationEngine.clusterCost (earlier ++ [result]) result.decision.clusterId) result ::
      costHistory (earlier ++ [result]) later

def batchHistory (rayQueueEnabled : Bool) (submissions : List InferenceRequest) : List Json :=
  submissions.mapIdx (fun index request => batchPayload rayQueueEnabled (index + 1) request)

/-- What a log holds of the requests submitted and the results recorded so far. -/
def Log.history (azureAvailable rayQueueEnabled : Bool) (submissions : List InferenceRequest)
    (results : List RequestResult) : Log → List Json
  | .scheduler => results.map schedulerPayload
  | .schedulerV2 => results.map schedulerPayload
  | .cache => (results.filter (fun result => 0 < result.cacheHitRatio)).map cachePayload
  | .cacheV2 => (results.filter (fun result => 0 < result.cacheHitRatio)).map cachePayload
  | .topology => results.map topologyPayload
  | .topologyV2 => results.map topologyPayload
  | .latency => results.map latencyPayload
  | .latencyV2 => results.map latencyPayload
  | .failure => []
  | .monitor => if azureAvailable then results.map monitorPayload else []
  | .cost => if azureAvailable then costHistory [] results else []
  | .batch => if azureAvailable then batchHistory rayQueueEnabled submissions else []

theorem costHistory_snoc (earlier results : List RequestResult) (result : RequestResult) :
    costHistory earlier (results ++ [result]) = costHistory earlier results ++
      [costPayload (SimulationEngine.clusterCost (earlier ++ (results ++ [result])) result.decision.clusterId)
        result] := by
  induction results generalizing earlier with
  | nil => rfl
  | cons first rest ih => simp [costHistory, ih]

/-- The counters of the cloud simulation and the logs agree with what has happened so far. -/
structure Logged (floats : FloatText) (azureAvailable rayQueueEnabled : Bool) (carried : Log → String)
    (submissions : List InferenceRequest) (results : List RequestResult) (azure : AzureInfraSimulator) (files : Files) :
    Prop where
  available : azure.available = azureAvailable
  submitted : azureAvailable = true → azure.submitted = submissions.length
  costs : azureAvailable = true → ∀ clusterId, (Dict.lookup azure.clusterCosts clusterId).getD 0 =
    SimulationEngine.clusterCost results clusterId
  logs : ∀ log : Log, files log.path =
    some (carried log ++ logText floats (log.history azureAvailable rayQueueEnabled submissions results))

variable {carried : Log → String} {submissions : List InferenceRequest} {results : List RequestResult}
  {azure : AzureInfraSimulator} {files : Files}

theorem history_submission {counted : AzureInfraSimulator} (available : counted.available = azureAvailable)
    (submitted : azureAvailable = true → counted.submitted = submissions.length + 1) (request : InferenceRequest)
    (log : Log) :
    log.history azureAvailable rayQueueEnabled (submissions ++ [request]) results =
      log.history azureAvailable rayQueueEnabled submissions results ++
        payloadsFor (submissionLogged rayQueueEnabled counted request) log := by
  cases azureAvailable with
  | false => cases log <;> simp [Log.history, submissionLogged, available, payloadsFor]
  | true =>
    cases log <;>
      simp [Log.history, submissionLogged, available, payloadsFor, batchHistory, List.mapIdx_append, submitted rfl]

theorem history_result {counted : AzureInfraSimulator} (available : counted.available = azureAvailable)
    (result : RequestResult) (costs : azureAvailable = true →
      (Dict.lookup counted.clusterCosts result.decision.clusterId).getD 0 =
        SimulationEngine.clusterCost (results ++ [result]) result.decision.clusterId) (log : Log) :
    log.history azureAvailable rayQueueEnabled submissions (results ++ [result]) =
      log.history azureAvailable rayQueueEnabled submissions results ++
        payloadsFor (emitted result ++ resultLogged counted result) log := by
  cases azureAvailable with
  | false =>
    by_cases hit : 0 < result.cacheHitRatio <;> cases log <;>
      simp [Log.history, emitted, resultLogged, available, payloadsFor, hit]
  | true =>
    by_cases hit : 0 < result.cacheHitRatio <;> cases log <;>
      simp [Log.history, emitted, resultLogged, available, payloadsFor, hit, costHistory_snoc, costs rfl]

theorem Logged.submit (logged : Logged floats azureAvailable rayQueueEnabled carried submissions results azure files)
    (request : InferenceRequest) :
    Logged floats azureAvailable rayQueueEnabled carried (submissions ++ [request]) results azure.noteSubmission
      ((submissionLogged rayQueueEnabled azure.noteSubmission request).foldl (appendLine floats) files) := by
  have counted : azure.noteSubmission.available = azureAvailable ∧
      (azureAvailable = true → azure.noteSubmission.submitted = submissions.length + 1) ∧
      azure.noteSubmission.clusterCosts = azure.clusterCosts := by
    unfold AzureInfraSimulator.noteSubmission
    rw [logged.available]
    split
    · exact ⟨rfl, fun on => congrArg (· + 1) (logged.submitted on), rfl⟩
    · rename_i off
      exact ⟨logged.available, fun on => absurd on off, rfl⟩
  obtain ⟨available, submitted, costs⟩ := counted
  refine ⟨available, ?_, ?_, ?_⟩
  · intro on
    rw [submitted on, List.length_append, List.length_singleton]
  · rw [costs]
    exact logged.costs
  · intro log
    rw [foldl_appendLine floats _ (logged.logs log), history_submission available submitted, String.append_assoc,
      ← logText_append]

theorem Logged.emit {outputs : RunOutputs} (apart : outputs.Apart)
    (logged : Logged floats azureAvailable rayQueueEnabled carried submissions results azure files)
    (result : RequestResult) :
    Logged floats azureAvailable rayQueueEnabled carried submissions results azure (outputs.emit files result) := by
  refine ⟨logged.available, logged.submitted, logged.costs, ?_⟩
  intro log
  rw [RunOutputs.emit_other files result (apart log)]
  exact logged.logs log

theorem Logged.record (logged : Logged floats azureAvailable rayQueueEnabled carried submissions results azure files)
    (result : RequestResult) :
    Logged floats azureAvailable rayQueueEnabled carried submissions (results ++ [result]) (azure.recordResult result)
      ((resultLogged (azure.recordResult result) result).foldl (appendLine floats)
        ((emitted result).foldl (appendLine floats) files)) := by
  have counted : (azure.recordResult result).available = azureAvailable ∧
      (azureAvailable = true → (azure.recordResult result).submitted = submissions.length) ∧
      (azureAvailable = true → ∀ clusterId, (Dict.lookup (azure.recordResult result).clusterCosts clusterId).getD 0 =
        SimulationEngine.clusterCost (results ++ [result]) clusterId) := by
    unfold AzureInfraSimulator.recordResult
    rw [logged.available]
    split
    · refine ⟨rfl, logged.submitted, ?_⟩
      intro on clusterId
      rw [Dict.lookup_add, logged.costs on clusterId]
      simp [SimulationEngine.clusterCost]
    · rename_i off
      exact ⟨logged.available, fun on => absurd on off, fun on => absurd on off⟩
  obtain ⟨available, submitted, costs⟩ := counted
  refine ⟨available, submitted, costs, ?_⟩
  intro log
  rw [← List.foldl_append, foldl_appendLine floats _ (logged.logs log),
    history_result available result (fun on => costs on result.decision.clusterId), String.append_assoc,
    ← logText_append]

end Histories

namespace LoggedEngine

variable {floats : FloatText} {outputs : RunOutputs} {azureAvailable rayQueueEnabled : Bool} {carried : Log → String}
  {submissions : List InferenceRequest} {state : LoggedEngine}

def erased {α : Type} : EStateM.Result PyError LoggedEngine α → EStateM.Result PyError SimulationEngine α
  | .ok value state => .ok value state.engine
  | .error raised state => .error raised state.engine

theorem erased_serve (request : InferenceRequest) (state : LoggedEngine) :
    erased (serve floats outputs rayQueueEnabled request state) = SimulationEngine.serve request state.engine := by
  simp only [serve, SimulationEngine.serve]
  cases ControlPlane.execute request request.arrivalTs
      ((state.engine.controlPlane.refresh request.arrivalTs).noteSubmission request) with
  | error raised controlPlane => rfl
  | ok result controlPlane =>
    dsimp only
    cases controlPlane.cacheDirectory.redisStore.writeDecision request.requestId with
    | error raised store => rfl
    | ok value store => rfl

theorem erased_mapM (requests : List InferenceRequest) (state : LoggedEngine) :
    erased ((requests.mapM (serve floats outputs rayQueueEnabled)) state) =
      (requests.mapM SimulationEngine.serve) state.engine := by
  induction requests generalizing state with
  | nil => rfl
  | cons request rest ih =>
    have first := @erased_serve floats outputs rayQueueEnabled request state
    rw [List.mapM_cons, List.mapM_cons]
    cases served : serve floats outputs rayQueueEnabled request state with
    | error raised next =>
      rw [served] at first
      rw [bind_of_error served, bind_of_error first.symm]
      rfl
    | ok result next =>
      rw [served] at first
      have later := ih next
      rw [bind_of_ok served, bind_of_ok first.symm]
      cases continued : (rest.mapM (serve floats outputs rayQueueEnabled)) next with
      | error raised final =>
        rw [continued] at later
        rw [bind_of_error continued, bind_of_error later.symm]
        rfl
      | ok results final =>
        rw [continued] at later
        rw [bind_of_ok continued, bind_of_ok later.symm]
        rfl

def Kept (floats : FloatText) (azureAvailable rayQueueEnabled : Bool) (carried : Log → String)
    (submissions : List InferenceRequest) (state : LoggedEngine) : Prop :=
  Logged floats azureAvailable rayQueueEnabled carried submissions state.engine.metrics.results state.engine.azure
    state.files

theorem stateAfter_serve (request : InferenceRequest) (state : LoggedEngine) :
    let final := stateAfter (serve floats outputs rayQueueEnabled request) state
    let azure := state.engine.azure.noteSubmission
    let files := (submissionLogged rayQueueEnabled azure request).foldl (appendLine floats) state.files
    (final.engine.metrics.results = state.engine.metrics.results ∧ final.engine.azure = azure ∧ final.files = files) ∨
      ∃ result, final.engine.metrics.results = state.engine.metrics.results ++ [result] ∧
        final.engine.azure = azure.recordResult result ∧
        final.files = (resultLogged (azure.recordResult result) result).foldl (appendLine floats)
          ((emitted result).foldl (appendLine floats) (outputs.emit files result)) := by
  unfold stateAfter serve
  dsimp only
  cases ControlPlane.execute request request.arrivalTs
      ((state.engine.controlPlane.refresh request.arrivalTs).noteSubmission request) with
  | error raised controlPlane => exact .inl ⟨rfl, rfl, rfl⟩
  | ok result controlPlane =>
    dsimp only
    cases controlPlane.cacheDirectory.redisStore.writeDecision request.requestId with
    | error raised store => exact .inr ⟨result, rfl, rfl, rfl⟩
    | ok value store => exact .inr ⟨result, rfl, rfl, rfl⟩

theorem Kept.serve (apart : outputs.Apart) (kept : Kept floats azureAvailable rayQueueEnabled carried submissions state)
    (request : InferenceRequest) :
    Kept floats azureAvailable rayQueueEnabled carried (submissions ++ [request])
      (stateAfter (serve floats outputs rayQueueEnabled request) state) := by
  have submitted := Logged.submit kept request
  unfold Kept
  rcases @stateAfter_serve floats outputs rayQueueEnabled request state with
    ⟨same, azure, files⟩ | ⟨result, added, azure, files⟩
  · rw [same, azure, files]
    exact submitted
  · rw [added, azure, files]
    exact (submitted.emit apart result).record result

theorem Kept.mapM (apart : outputs.Apart) (kept : Kept floats azureAvailable rayQueueEnabled carried submissions state)
    (requests : List InferenceRequest) :
    ∃ served, served <+: requests ∧
      Kept floats azureAvailable rayQueueEnabled carried (submissions ++ served)
        (stateAfter (requests.mapM (LoggedEngine.serve floats outputs rayQueueEnabled)) state) ∧
      ∀ results final, (requests.mapM (LoggedEngine.serve floats outputs rayQueueEnabled)) state = .ok results final →
        served = requests := by
  induction requests generalizing submissions state with
  | nil =>
    refine ⟨[], List.prefix_rfl, ?_, fun _ _ _ => rfl⟩
    rw [List.append_nil]
    exact kept
  | cons request rest ih =>
    have first := kept.serve apart request
    cases served : LoggedEngine.serve floats outputs rayQueueEnabled request state with
    | error raised next =>
      rw [stateAfter_error served] at first
      refine ⟨[request], by simp, ?_, ?_⟩
      · rw [Tasks.stateAfter_mapM_error served]
        exact first
      · intro results final returned
        obtain ⟨_, _, _, stepped, _⟩ := mapM_cons_eq_ok.mp returned
        cases served.symm.trans stepped
    | ok result next =>
      rw [stateAfter_ok served] at first
      obtain ⟨later, within, held, complete⟩ := ih first
      refine ⟨request :: later, List.cons_prefix_cons.mpr ⟨rfl, within⟩, ?_, ?_⟩
      · rw [Tasks.stateAfter_mapM_ok served, List.append_cons]
        exact held
      · intro results final returned
        obtain ⟨_, _, others, stepped, continued, _⟩ := mapM_cons_eq_ok.mp returned
        cases served.symm.trans stepped
        rw [complete others final continued]

end LoggedEngine

/-- What a log still holds when a simulation starts. -/
def Log.carried (files : Files) : Log → String
  | .monitor => ""
  | .cost => ""
  | .batch => ""
  | log => (files log.path).getD ""

namespace LoggedEngine

variable {floats : FloatText} {outputs : RunOutputs} {rayQueueEnabled : Bool}

theorem opened_log (apart : outputs.Apart) (files : Files) (log : Log) :
    opened outputs files log.path = some (log.carried files) := by
  have started : ∀ other : Log, outputs.started files other.path = files other.path :=
    fun other => RunOutputs.started_other files (apart other)
  have before := started log
  cases log <;> simp [opened, created, emptied, Log.carried, Log.path] at before ⊢ <;> rw [before]

theorem opened_other (outputs : RunOutputs) (files : Files) {path : String} (differs : ∀ log : Log, path ≠ log.path) :
    opened outputs files path = outputs.started files path := by
  simp [opened, created, emptied, Function.update_apply, differs]

theorem serve_other (request : InferenceRequest) {path : String} (differs : ∀ log : Log, path ≠ log.path)
    (unnamed : outputs.decisionLog ≠ some path) (before : Option String) :
    Keeps (fun state : LoggedEngine => state.files path = before) (serve floats outputs rayQueueEnabled request) := by
  intro state kept
  have other := fun entries files => @foldl_appendLine_other floats entries files path differs
  rcases @stateAfter_serve floats outputs rayQueueEnabled request state with ⟨_, _, files⟩ | ⟨result, _, _, files⟩
  · rw [files, other]
    exact kept
  · rw [files, other, other, RunOutputs.emit_other _ result unnamed, other]
    exact kept

theorem serve_decisions (apart : outputs.Apart) (request : InferenceRequest) {path : String}
    (named : outputs.decisionLog = some path) :
    Keeps (fun state : LoggedEngine => state.files path = some (outputs.decisionText state.engine.metrics.results))
      (serve floats outputs rayQueueEnabled request) := by
  intro state kept
  have differs : ∀ log : Log, path ≠ log.path := fun log same => apart log (by rw [named, same])
  have other := fun entries files => @foldl_appendLine_other floats entries files path differs
  rcases @stateAfter_serve floats outputs rayQueueEnabled request state with
    ⟨same, _, files⟩ | ⟨result, added, _, files⟩
  · rw [files, same, other]
    exact kept
  · rw [files, added, other, other]
    exact RunOutputs.emit_self named ((other _ _).trans kept) result

theorem stateAfter_run_other {config : ExperimentConfig} {environment : Environment} {azureAvailable : Bool}
    {files : Files} {state : LoggedEngine}
    (created : create outputs config environment azureAvailable files = .ok state)
    (requests : List InferenceRequest) {path : String} (differs : ∀ log : Log, path ≠ log.path)
    (unnamed : outputs.decisionLog ≠ some path) :
    (stateAfter (requests.mapM (serve floats outputs rayQueueEnabled)) state).files path = files path := by
  obtain ⟨engine, _, same⟩ := except_bind_eq_ok.mp created
  cases same
  have kept := Keeps.mapM (fun request (_ : request ∈ requests) =>
    @serve_other floats outputs rayQueueEnabled request path differs unnamed (files path))
  exact kept _ ((opened_other outputs files differs).trans (RunOutputs.started_other files unnamed))

/-- Logging does not change a simulation, and however the simulation ends its logs tell exactly what happened in it:
    the results in their order in each log of the fan-out, the cache hits among them in the cache logs, the submissions
    with their numbers and the results with what their cluster has cost so far in the logs of the cloud simulation.
    They follow what the logs held before, or nothing where the cloud simulation empties its own, and a log of
    writable documents reads back line by line. The log of the decisions has one line for each result. -/
theorem runs_logged (floats : FloatText) (outputs : RunOutputs) (apart : outputs.Apart)
    (azureAvailable rayQueueEnabled : Bool) (config : ExperimentConfig) (environment : Environment) (files : Files)
    (state : LoggedEngine) (created : create outputs config environment azureAvailable files = .ok state)
    (requests : List InferenceRequest) :
    let run := requests.mapM (serve floats outputs rayQueueEnabled)
    let final := stateAfter run state
    let history := fun (served : List InferenceRequest) (log : Log) =>
      log.history azureAvailable rayQueueEnabled served final.engine.metrics.results
    erased (run state) = (requests.mapM SimulationEngine.serve) state.engine ∧
    (∃ served, served <+: requests ∧ (∀ results final, run state = .ok results final → served = requests) ∧
      (∀ log : Log, final.files log.path = some (log.carried files ++ logText floats (history served log))) ∧
      ∀ log : Log, ∀ earlier, log.carried files = logText floats earlier →
        (∀ payload ∈ earlier ++ history served log, Json.Writable floats payload) →
        (final.files log.path).map (readLog floats) =
          some ((earlier ++ history served log).map (fun payload => some payload.sortKeys))) ∧
    (∀ path, outputs.decisionLog = some path →
      final.files path = some (outputs.decisionText final.engine.metrics.results)) ∧
    ∀ path, (∀ log : Log, path ≠ log.path) → outputs.decisionLog ≠ some path → final.files path = files path := by
  intro run final history
  have others := fun path differs unnamed =>
    @stateAfter_run_other floats outputs rayQueueEnabled config environment azureAvailable files state created requests
      path differs unnamed
  obtain ⟨engine, built, same⟩ := except_bind_eq_ok.mp created
  obtain ⟨plane, _, begun⟩ := except_bind_eq_ok.mp built
  cases begun
  cases same
  have initial : Kept floats azureAvailable rayQueueEnabled (Log.carried files) [] {
      engine := { config, controlPlane := plane, azure := { available := azureAvailable } }
      files := opened outputs files } := by
    refine ⟨rfl, fun _ => rfl, fun _ _ => rfl, ?_⟩
    intro log
    have nothing : log.history azureAvailable rayQueueEnabled [] [] = [] := by
      cases azureAvailable <;> cases log <;> rfl
    change opened outputs files log.path =
      some (log.carried files ++ logText floats (log.history azureAvailable rayQueueEnabled [] []))
    rw [opened_log apart, nothing]
    simp [logText]
  refine ⟨erased_mapM requests _, ?_, ?_, others⟩
  · obtain ⟨served, within, kept, complete⟩ := initial.mapM apart requests
    refine ⟨served, within, complete, kept.logs, ?_⟩
    intro log earlier held writable
    rw [kept.logs log, held, ← logText_append, Option.map_some]
    exact congrArg some (readLog_logText floats writable)
  · intro path named
    have differs : ∀ log : Log, path ≠ log.path := fun log same => apart log (by rw [named, same])
    have kept := Keeps.mapM (fun request (_ : request ∈ requests) =>
      @serve_decisions floats outputs rayQueueEnabled apart request path named)
    exact kept _ ((opened_other outputs files differs).trans (RunOutputs.started_self files named))

end LoggedEngine

def decisionOutputs : RunOutputs where
  decisionLog := some "decisions.jsonl"
  decisionLine := fun result => result.request.requestId.getD "None" ++ "\n"
  summaryText := fun report => report.summary.configName

def loggedSession : Except PyError LoggedEngine :=
  LoggedEngine.create decisionOutputs (ControlPlane.sessionConfig 2 8 80)
    (ControlPlane.sessionEnvironment (emptyStore false)) true (fun _ => none)

def loggedTurns (requests : List InferenceRequest) : EStateM PyError LoggedEngine (List RequestResult) :=
  requests.mapM (LoggedEngine.serve tenthFloats decisionOutputs false)

theorem LoggedEngine.runs_logged_turns :
    ∃ state results final,
      loggedSession = .ok state ∧
      loggedTurns [sessionRequest 1000, sessionRequest 1000] state = .ok results final ∧
      (final.files "logs/azure_batch.log").map (readLog tenthFloats) =
        some ([1, 2].map (fun number => some (batchPayload false number (sessionRequest 1000)).sortKeys)) := by
  have ran : loggedSession.toOption.bind (fun state =>
      (valueOf (loggedTurns [sessionRequest 1000, sessionRequest 1000] state)).map List.length) = some 2 := by
    decide +kernel
  obtain ⟨state, began, value⟩ := Option.bind_eq_some_iff.mp ran
  obtain ⟨results, value, _⟩ := Option.map_eq_some_iff.mp value
  obtain ⟨final, returned⟩ := valueOf_eq_some.mp value
  have created : loggedSession = .ok state := by
    generalize loggedSession = attempt at began
    cases attempt with
    | error raised => cases began
    | ok started =>
      cases began
      rfl
  obtain ⟨_, ⟨served, _, complete, _, reads⟩, _⟩ := runs_logged tenthFloats decisionOutputs
    (fun log => by cases log <;> decide) true false _ _ _ state created [sessionRequest 1000, sessionRequest 1000]
  have everything := complete results final returned
  have writable : ∀ payload ∈ [] ++ batchHistory false [sessionRequest 1000, sessionRequest 1000],
      Json.Writable tenthFloats payload := by
    simp [batchHistory, batchPayload, writable_requestIdentifier, Json.Writable, Json.WritableFields]
  have batch := reads .batch [] rfl
  unfold loggedTurns at returned
  rw [everything, stateAfter_ok returned] at batch
  exact ⟨state, results, final, created, returned, batch writable⟩

end NimbusMesh
