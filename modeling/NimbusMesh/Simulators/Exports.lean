import NimbusMesh.Simulators.Logs
import NimbusMesh.Simulators.Sweeps

namespace NimbusMesh

open Foundation Foundation.Execution

inductive ExportTable where
  | latency
  | throughput
  | gpuUtilization
  | costAnalysis
  | cacheHitRatio
  deriving DecidableEq

namespace ExportTable

def all : List ExportTable := [.latency, .throughput, .gpuUtilization, .costAnalysis, .cacheHitRatio]

def path : ExportTable → String
  | .latency => "results/latency.csv"
  | .throughput => "results/throughput.csv"
  | .gpuUtilization => "results/gpu_utilization.csv"
  | .costAnalysis => "results/cost_analysis.csv"
  | .cacheHitRatio => "results/cache_hit_ratio.csv"

def figures : ExportTable → List String
  | .latency => ["p50_latency_ms", "p95_latency_ms", "p99_latency_ms", "mean_absolute_latency_error_ms"]
  | .throughput => ["throughput_tokens_per_s", "throughput_requests_per_s"]
  | .gpuUtilization => ["gpu_utilization_proxy", "memory_utilization_proxy", "energy_proxy_total"]
  | .costAnalysis => ["cost_per_1m_tokens_usd", "network_cost_total", "fairness_index"]
  | .cacheHitRatio => ["cache_hit_ratio", "cache_saved_tokens_total", "sla_miss_rate"]

def fieldnames (table : ExportTable) : List String := "config_name" :: "policy_name" :: table.figures

section Cells

variable (conversions : TextConversions) (summary : Summary)

def floatCell (x : ℚ) : String := conversions.toStr (.float x)

/-- The sum of no floats is the integer zero. -/
def totalCell (x : ℚ) : String := if summary.requestsAdmitted = 0 then "0" else floatCell conversions x

def figureCells : ExportTable → List String
  | .latency => [floatCell conversions summary.p50LatencyMs, floatCell conversions summary.p95LatencyMs,
      floatCell conversions summary.p99LatencyMs, floatCell conversions summary.meanAbsoluteLatencyErrorMs]
  | .throughput => [floatCell conversions summary.throughputTokensPerS,
      floatCell conversions summary.throughputRequestsPerS]
  | .gpuUtilization => [floatCell conversions summary.gpuUtilizationProxy,
      floatCell conversions summary.memoryUtilizationProxy, totalCell conversions summary summary.energyProxyTotal]
  | .costAnalysis => [floatCell conversions summary.costPer1mTokensUsd,
      totalCell conversions summary summary.networkCostTotal, floatCell conversions summary.fairnessIndex]
  | .cacheHitRatio => [floatCell conversions summary.cacheHitRatio, toString summary.cacheSavedTokensTotal,
      floatCell conversions summary.slaMissRate]

def cells (table : ExportTable) : List String :=
  summary.configName :: summary.policyName :: table.figureCells conversions summary

end Cells

theorem path_injective {table other : ExportTable} (same : table.path = other.path) : table = other := by
  cases table <;> cases other <;> first | rfl | exact absurd same (by decide)

end ExportTable

namespace ResultCSVExporter

variable (conversions : TextConversions)

/-- `_append` writes the header into a file that is not there yet. -/
def appended (fieldnames cells : List String) (text : Option String) : String :=
  let header := if text = none then csvText [fieldnames] else ""
  text.getD "" ++ header ++ csvText [cells]

def append (fieldnames cells : List String) (path : String) (files : Files) : Files :=
  Function.update files path (some (appended fieldnames cells (files path)))

def exportSummary (files : Files) (summary : Summary) : Files :=
  ExportTable.all.foldl (fun files table => append table.fieldnames (table.cells conversions summary) table.path files)
    files

def exported (table : ExportTable) (summaries : List Summary) : Option String :=
  if summaries = [] then none else some (csvText (table.fieldnames :: summaries.map (table.cells conversions)))

theorem csvText_append (rows others : List (List String)) : csvText (rows ++ others) = csvText rows ++ csvText others := by
  simp [csvText, tableOf, Csv.tableText, List.flatMap_append]

theorem append_other {fieldnames cells : List String} {path other : String} (files : Files) (differs : other ≠ path) :
    append fieldnames cells path files other = files other := Function.update_of_ne differs _ _

theorem foldl_append_other (summary : Summary) (tables : List ExportTable) {other : String}
    (differs : ∀ table ∈ tables, other ≠ table.path) (files : Files) :
    tables.foldl (fun files table => append table.fieldnames (table.cells conversions summary) table.path files) files
      other = files other := by
  induction tables generalizing files with
  | nil => rfl
  | cons table rest ih =>
    rw [List.foldl_cons, ih (fun later member => differs later (List.mem_cons_of_mem _ member))]
    exact append_other files (differs table List.mem_cons_self)

theorem exportSummary_other (files : Files) (summary : Summary) {other : String}
    (differs : ∀ table : ExportTable, other ≠ table.path) : exportSummary conversions files summary other = files other :=
  foldl_append_other conversions summary ExportTable.all (fun table _ => differs table) files

theorem exportSummary_path (files : Files) (summary : Summary) (table : ExportTable) :
    exportSummary conversions files summary table.path =
      some (appended table.fieldnames (table.cells conversions summary) (files table.path)) := by
  obtain ⟨before, after, split⟩ := List.append_of_mem (show table ∈ ExportTable.all by cases table <;> decide)
  have distinct : (before ++ table :: after).Nodup := by
    rw [← split]
    decide
  have away : ∀ other : ExportTable, other ≠ table → table.path ≠ other.path :=
    fun other differs same => differs (ExportTable.path_injective same).symm
  obtain ⟨_, tail, apart⟩ := List.nodup_append.mp distinct
  have earlier : ∀ other ∈ before, other ≠ table := fun other member => apart other member table List.mem_cons_self
  have later : ∀ other ∈ after, other ≠ table := by
    intro other member same
    exact (List.nodup_cons.mp tail).1 (same ▸ member)
  have kept := foldl_append_other conversions summary before (fun other member => away other (earlier other member)) files
  rw [exportSummary, split, List.foldl_append, List.foldl_cons,
    foldl_append_other conversions summary after (fun other member => away other (later other member)),
    append, Function.update_self, kept]

theorem exportSummary_exported {files : Files} {table : ExportTable} {summaries : List Summary}
    (held : files table.path = exported conversions table summaries) (summary : Summary) :
    exportSummary conversions files summary table.path = exported conversions table (summaries ++ [summary]) := by
  rw [exportSummary_path, held]
  unfold exported appended
  by_cases first : summaries = []
  · rw [first]
    simp [← csvText_append]
  · simp [first, ← csvText_append]

end ResultCSVExporter

/-- The text that a row shows in a column, as a format string shows it. -/
def TraceFile.shown (fieldnames row : List String) (name : String) : Except PyError String :=
  match TraceFile.cell fieldnames row name with
  | none => .error (.keyError name)
  | some none => .ok "None"
  | some (some value) => .ok value

def TraceFile.barLabel (fieldnames row : List String) : Except PyError String := do
  let configName ← TraceFile.shown fieldnames row "config_name"
  let policyName ← TraceFile.shown fieldnames row "policy_name"
  return configName ++ ":" ++ policyName

/-- The labels and heights of the bars that `plot_results` draws. Without a latency table it exits. -/
def plotResults (conversions : TextConversions) (files : Files) : Option (Except PyError (List String × List ℚ)) :=
  (files ExportTable.latency.path).map (fun text =>
    match TraceFile.ofText text with
    | none => .error (.valueError "field larger than field limit (131072)")
    | some file => do
      let labels ← file.rows.mapM (TraceFile.barLabel file.fieldnames)
      let p95 ← file.rows.mapM (fun row => TraceFile.number conversions file.fieldnames row "p95_latency_ms")
      return (labels, p95))

structure Attempt where
  experiment : Experiment
  environment : Environment
  source : GeneratorEnvironment
  azureAvailable : Bool
  outputs : RunOutputs
  rayQueueEnabled : Bool

structure Workspace where
  store : RedisStore
  files : Files

def RunOutputs.writeSummary (outputs : RunOutputs) (files : Files) (report : Report) : Files :=
  match outputs.metricsOutput with
  | none => files
  | some path => Function.update files path (some (outputs.summaryText report))

namespace Attempt

variable (conversions : TextConversions) (floats : FloatText)

def simulate (attempt : Attempt) : EStateM PyError RedisStore (List RequestResult × Report) :=
  SimulationEngine.simulate attempt.experiment attempt.environment attempt.source attempt.azureAvailable

/-- The files once the simulation has answered its requests or has raised, with what it has logged on the way. -/
def logged (attempt : Attempt) (workspace : Workspace) : Files :=
  match LoggedEngine.create attempt.outputs attempt.experiment.config
    { attempt.environment with redisStore := workspace.store } attempt.azureAvailable workspace.files with
  | .error _ => workspace.files
  | .ok state =>
    match WorkloadGenerator.generateRequests attempt.source { config := attempt.experiment.workload } with
    | .error _ _ => state.files
    | .ok requests _ =>
      (stateAfter (requests.mapM (LoggedEngine.serve floats attempt.outputs attempt.rayQueueEnabled)) state).files

/-- A simulation writes its summary and exports it at its end. When it raises it has only logged. -/
def perform (attempt : Attempt) (workspace : Workspace) : Workspace × List Report :=
  let files := attempt.logged floats workspace
  match attempt.simulate workspace.store with
  | .error _ store => ({ store, files }, [])
  | .ok outcome store =>
    let written := attempt.outputs.writeSummary files outcome.2
    ({ store, files := ResultCSVExporter.exportSummary conversions written outcome.2.summary }, [outcome.2])

def performAll : List Attempt → Workspace → Workspace × List (Attempt × Report)
  | [], workspace => (workspace, [])
  | attempt :: rest, workspace =>
    let performed := attempt.perform conversions floats workspace
    let later := performAll rest performed.1
    (later.1, performed.2.map (fun report => (attempt, report)) ++ later.2)

end Attempt

namespace SimulationEngine

theorem serve_config {engine final : SimulationEngine} {request : InferenceRequest} {result : RequestResult}
    (returned : serve request engine = .ok result final) : final.config = engine.config := by
  simp only [serve] at returned
  split at returned
  · cases returned
  · split at returned
    · cases returned
    · cases returned
      rfl

theorem run_configName {config : ExperimentConfig} {environment : Environment} {azureAvailable : Bool}
    {requests : List InferenceRequest} {store store' : RedisStore} {results : List RequestResult} {report : Report}
    (returned : run config environment azureAvailable requests store = .ok (results, report) store') :
    report.summary.configName = config.name := by
  obtain ⟨engine, final, created, ran, rfl⟩ := run_eq_ok returned
  obtain ⟨plane, _, built⟩ := except_bind_eq_ok.mp created
  cases built
  have kept : final.config = config := mapM_invariant (fun state : SimulationEngine => state.config = config)
    (fun _ _ _ _ before served => (serve_config served).trans before) rfl ran
  exact congrArg ExperimentConfig.name kept

theorem simulate_configName {experiment : Experiment} {environment : Environment} {source : GeneratorEnvironment}
    {azureAvailable : Bool} {store store' : RedisStore} {results : List RequestResult} {report : Report}
    (returned : simulate experiment environment source azureAvailable store = .ok (results, report) store') :
    report.summary.configName = experiment.config.name ∧ ∃ policy : Policy, policy.name = experiment.config.policy := by
  unfold simulate at returned
  split at returned
  · cases returned
  · rename_i engine created
    split at returned
    · cases returned
    · refine ⟨run_configName returned, ?_⟩
      obtain ⟨plane, planeCreated, _⟩ := except_bind_eq_ok.mp created
      obtain ⟨policy, named, _⟩ := except_bind_eq_ok.mp planeCreated
      exact ⟨policy, Policy.build_name named⟩

end SimulationEngine

/-- The cells of a report stand in a CSV file, and its p95 latency reads back. -/
structure Summary.Legible (conversions : TextConversions) (summary : Summary) : Prop where
  fits : ∀ table : ExportTable, ∀ cell ∈ table.cells conversions summary, cell.toList.length ≤ fieldLimit
  plain : '\r' ∉ (ExportTable.floatCell conversions summary.p95LatencyMs).toList
  reads : conversions.parseFloat (ExportTable.floatCell conversions summary.p95LatencyMs) = some summary.p95LatencyMs

namespace Attempt

open ResultCSVExporter

variable {conversions : TextConversions} {floats : FloatText}

structure Reported (attempt : Attempt) (report : Report) : Prop where
  configName : report.summary.configName = attempt.experiment.config.name
  policyName : report.summary.policyName = attempt.experiment.config.policy
  registered : ∃ policy : Policy, policy.name = attempt.experiment.config.policy

/-- A file that an attempt does not name for its decisions or its summary. -/
def Unnamed (attempt : Attempt) (path : String) : Prop :=
  attempt.outputs.decisionLog ≠ some path ∧ attempt.outputs.metricsOutput ≠ some path

theorem perform_reported {attempt : Attempt} {workspace : Workspace} {report : Report}
    (listed : report ∈ (attempt.perform conversions floats workspace).2) : Reported attempt report := by
  unfold perform at listed
  dsimp only at listed
  split at listed
  · cases listed
  · rename_i outcome store ran
    cases List.mem_singleton.mp listed
    obtain ⟨configName, registered⟩ := SimulationEngine.simulate_configName ran
    exact ⟨configName, SimulationEngine.simulate_policyName ran, registered⟩

theorem table_not_log (table : ExportTable) (log : Log) : table.path ≠ log.path := by
  cases table <;> cases log <;> decide

theorem writeSummary_other {attempt : Attempt} {path : String} (unnamed : attempt.Unnamed path) (files : Files)
    (report : Report) : attempt.outputs.writeSummary files report path = files path := by
  unfold RunOutputs.writeSummary
  cases named : attempt.outputs.metricsOutput with
  | none => rfl
  | some held => exact Function.update_of_ne (fun same => unnamed.2 (by rw [named, same])) _ _

theorem logged_other {attempt : Attempt} {path : String} (unnamed : attempt.Unnamed path)
    (differs : ∀ log : Log, path ≠ log.path) (workspace : Workspace) :
    attempt.logged floats workspace path = workspace.files path := by
  unfold logged
  cases created : LoggedEngine.create attempt.outputs attempt.experiment.config
      { attempt.environment with redisStore := workspace.store } attempt.azureAvailable workspace.files with
  | error raised => rfl
  | ok state =>
    dsimp only
    cases WorkloadGenerator.generateRequests attempt.source { config := attempt.experiment.workload } with
    | error raised generator =>
      exact @LoggedEngine.stateAfter_run_other floats _ attempt.rayQueueEnabled _ _ _ _ _ created [] path differs
        unnamed.1
    | ok requests generator => exact LoggedEngine.stateAfter_run_other created requests differs unnamed.1

theorem perform_exported {attempt : Attempt} {table : ExportTable} (unnamed : attempt.Unnamed table.path)
    {workspace : Workspace} {earlier : List Summary}
    (held : workspace.files table.path = exported conversions table earlier) :
    (attempt.perform conversions floats workspace).1.files table.path = exported conversions table
      (earlier ++ (attempt.perform conversions floats workspace).2.map Report.summary) := by
  have kept := (@logged_other floats _ _ unnamed (table_not_log table) workspace).trans held
  unfold perform
  dsimp only
  split
  · rw [List.map_nil, List.append_nil]
    exact kept
  · exact exportSummary_exported conversions ((writeSummary_other unnamed _ _).trans kept) _

theorem perform_other {attempt : Attempt} {path : String} (unnamed : attempt.Unnamed path)
    (differs : ∀ log : Log, path ≠ log.path) (untabled : ∀ table : ExportTable, path ≠ table.path)
    (workspace : Workspace) :
    (attempt.perform conversions floats workspace).1.files path = workspace.files path := by
  have kept := @logged_other floats _ _ unnamed differs workspace
  unfold perform
  dsimp only
  split
  · exact kept
  · exact (exportSummary_other conversions _ _ untabled).trans ((writeSummary_other unnamed _ _).trans kept)

theorem performAll_reported {attempts : List Attempt} {workspace : Workspace} {entry : Attempt × Report}
    (listed : entry ∈ (performAll conversions floats attempts workspace).2) : Reported entry.1 entry.2 := by
  induction attempts generalizing workspace with
  | nil => cases listed
  | cons attempt rest ih =>
    rcases List.mem_append.mp listed with first | later
    · obtain ⟨report, held, rfl⟩ := List.mem_map.mp first
      exact perform_reported held
    · exact ih later

theorem performAll_exported {attempts : List Attempt} {table : ExportTable}
    (unnamed : ∀ attempt ∈ attempts, attempt.Unnamed table.path) {workspace : Workspace} {earlier : List Summary}
    (held : workspace.files table.path = exported conversions table earlier) :
    (performAll conversions floats attempts workspace).1.files table.path = exported conversions table
      (earlier ++ (performAll conversions floats attempts workspace).2.map (fun entry => entry.2.summary)) := by
  induction attempts generalizing workspace earlier with
  | nil =>
    rw [performAll, List.map_nil, List.append_nil]
    exact held
  | cons attempt rest ih =>
    rw [List.forall_mem_cons] at unnamed
    have later := ih unnamed.2 (@perform_exported conversions floats _ _ unnamed.1 _ _ held)
    rw [performAll]
    dsimp only
    rw [later, List.map_append, List.map_map, List.append_assoc]
    rfl

theorem performAll_other {attempts : List Attempt} {path : String}
    (unnamed : ∀ attempt ∈ attempts, attempt.Unnamed path) (differs : ∀ log : Log, path ≠ log.path)
    (untabled : ∀ table : ExportTable, path ≠ table.path) (workspace : Workspace) :
    (performAll conversions floats attempts workspace).1.files path = workspace.files path := by
  induction attempts generalizing workspace with
  | nil => rfl
  | cons attempt rest ih =>
    rw [List.forall_mem_cons] at unnamed
    exact (ih unnamed.2 _).trans (perform_other unnamed.1 differs untabled workspace)

end Attempt

section Reading

variable {conversions : TextConversions} {summaries : List Summary}

theorem tabular_exported (table : ExportTable) (legible : ∀ summary ∈ summaries, summary.Legible conversions) :
    Tabular (table.fieldnames :: summaries.map (table.cells conversions)) := by
  have short : ∀ name ∈ table.fieldnames, name.toList.length ≤ fieldLimit := by cases table <;> decide
  constructor
  · intro row member
    rcases List.mem_cons.mp member with rfl | inside
    · exact List.cons_ne_nil _ _
    · obtain ⟨summary, _, rfl⟩ := List.mem_map.mp inside
      exact List.cons_ne_nil _ _
  · intro row member
    rcases List.mem_cons.mp member with rfl | inside
    · exact short
    · obtain ⟨summary, held, rfl⟩ := List.mem_map.mp inside
      exact (legible summary held).fits table

theorem ofText_exported (table : ExportTable) (legible : ∀ summary ∈ summaries, summary.Legible conversions) :
    TraceFile.ofText (csvText (table.fieldnames :: summaries.map (table.cells conversions))) = some {
      fieldnames := table.fieldnames
      rows := summaries.map (fun summary => (table.cells conversions summary).map newlines) } := by
  have names : table.fieldnames.map newlines = table.fieldnames := by cases table <;> decide
  have read := ofText_csvText (tabular_exported table legible)
  rw [names, List.map_map] at read
  exact read

theorem latency_cells (first second third fourth fifth sixth : String) :
    TraceFile.cell ExportTable.latency.fieldnames [first, second, third, fourth, fifth, sixth] "config_name" =
        some (some first) ∧
      TraceFile.cell ExportTable.latency.fieldnames [first, second, third, fourth, fifth, sixth] "policy_name" =
        some (some second) ∧
      TraceFile.cell ExportTable.latency.fieldnames [first, second, third, fourth, fifth, sixth] "p95_latency_ms" =
        some (some fourth) :=
  ⟨rfl, rfl, rfl⟩

theorem barLabel_exported (summary : Summary) :
    TraceFile.barLabel ExportTable.latency.fieldnames ((ExportTable.latency.cells conversions summary).map newlines) =
      .ok (newlines summary.configName ++ ":" ++ newlines summary.policyName) := by
  simp [TraceFile.barLabel, TraceFile.shown, ExportTable.cells, ExportTable.figureCells, latency_cells]
  rfl

theorem number_exported {summary : Summary} (legible : summary.Legible conversions) :
    TraceFile.number conversions ExportTable.latency.fieldnames
      ((ExportTable.latency.cells conversions summary).map newlines) "p95_latency_ms" = .ok summary.p95LatencyMs := by
  simp [TraceFile.number, ExportTable.cells, ExportTable.figureCells, latency_cells, newlines_plain legible.plain,
    TextConversions.toFloat, legible.reads]

theorem newlines_policy (policy : Policy) : newlines policy.name = policy.name := by
  cases policy <;> simp only [Policy.name] <;> decide

theorem mapM_rows {β : Type} {read : List String → Except PyError β} {row : Summary → List String} {value : Summary → β}
    (each : ∀ summary ∈ summaries, read (row summary) = .ok (value summary)) :
    (summaries.map row).mapM read = .ok (summaries.map value) := by
  rw [Tasks.except_mapM_eq_ok, List.forall₂_map_left_iff, List.forall₂_map_right_iff, List.forall₂_same]
  exact each

theorem plotResults_exported {files : Files} (some_exported : summaries ≠ [])
    (held : files ExportTable.latency.path = ResultCSVExporter.exported conversions .latency summaries)
    (legible : ∀ summary ∈ summaries, summary.Legible conversions) :
    plotResults conversions files = some (.ok
      (summaries.map (fun summary => newlines summary.configName ++ ":" ++ newlines summary.policyName),
        summaries.map Summary.p95LatencyMs)) := by
  have labels := @mapM_rows summaries _ (TraceFile.barLabel ExportTable.latency.fieldnames)
    (fun summary => (ExportTable.latency.cells conversions summary).map newlines) _
    (fun summary _ => barLabel_exported summary)
  have heights := @mapM_rows summaries _
    (fun row => TraceFile.number conversions ExportTable.latency.fieldnames row "p95_latency_ms")
    (fun summary => (ExportTable.latency.cells conversions summary).map newlines) _
    (fun summary member => number_exported (legible summary member))
  rw [plotResults, held, ResultCSVExporter.exported, if_neg some_exported, Option.map_some]
  simp only [ofText_exported .latency legible, labels, heights]
  rfl

end Reading

/-- From a workspace without results, any simulations one after the other, whether they return or raise, leave a table
    for each kind of figure that reads back as one row for each that returned, in their order, and a plot that shows
    each of them under its configuration and policy. Beside the tables, only the logs and the files that the
    configurations name change. -/
theorem Attempt.results_plotted (conversions : TextConversions) (floats : FloatText) (attempts : List Attempt)
    (workspace : Workspace) (fresh : ∀ table : ExportTable, workspace.files table.path = none)
    (unnamed : ∀ attempt ∈ attempts, ∀ table : ExportTable, attempt.Unnamed table.path)
    (legible : ∀ entry ∈ (performAll conversions floats attempts workspace).2,
      entry.2.summary.Legible conversions) :
    let final := (performAll conversions floats attempts workspace).1.files
    let returned := (performAll conversions floats attempts workspace).2
    (returned ≠ [] →
      (∀ table : ExportTable, (final table.path).bind TraceFile.ofText = some {
        fieldnames := table.fieldnames
        rows := returned.map (fun entry => (table.cells conversions entry.2.summary).map newlines) }) ∧
      plotResults conversions final = some (.ok
        (returned.map (fun entry =>
            newlines entry.1.experiment.config.name ++ ":" ++ entry.1.experiment.config.policy),
          returned.map (fun entry => entry.2.summary.p95LatencyMs)))) ∧
    (returned = [] → (∀ table : ExportTable, final table.path = none) ∧ plotResults conversions final = none) ∧
    ∀ path, (∀ table : ExportTable, path ≠ table.path) → (∀ log : Log, path ≠ log.path) →
      (∀ attempt ∈ attempts, attempt.Unnamed path) → final path = workspace.files path := by
  intro final returned
  have tables : ∀ table : ExportTable, final table.path =
      ResultCSVExporter.exported conversions table (returned.map (fun entry => entry.2.summary)) := by
    intro table
    exact @performAll_exported conversions floats attempts table (fun attempt member => unnamed attempt member table)
      workspace [] (fresh table)
  have each : ∀ summary ∈ returned.map (fun entry => entry.2.summary), summary.Legible conversions := by
    intro summary member
    obtain ⟨entry, held, rfl⟩ := List.mem_map.mp member
    exact legible entry held
  refine ⟨?_, ?_, fun path untabled differs away => performAll_other away differs untabled workspace⟩
  · intro some_returned
    have some_exported : returned.map (fun entry => entry.2.summary) ≠ [] := by simpa using some_returned
    constructor
    · intro table
      rw [tables table, ResultCSVExporter.exported, if_neg some_exported, Option.bind_some, ofText_exported table each,
        List.map_map]
      rfl
    · rw [plotResults_exported some_exported (tables .latency) each, List.map_map, List.map_map]
      have labels : ∀ entry ∈ returned,
          newlines entry.2.summary.configName ++ ":" ++ newlines entry.2.summary.policyName =
            newlines entry.1.experiment.config.name ++ ":" ++ entry.1.experiment.config.policy := by
        intro entry held
        have reported := performAll_reported held
        obtain ⟨policy, name⟩ := reported.registered
        rw [reported.configName, reported.policyName, ← name, newlines_policy]
      rw [← List.map_congr_left labels]
      rfl
  · intro none_returned
    have absent : ∀ table : ExportTable, final table.path = none := by
      intro table
      rw [tables table, none_returned]
      rfl
    refine ⟨absent, ?_⟩
    rw [plotResults, absent .latency]
    rfl

/-- The conversions of numbers with up to four decimals, of which a float shows those it needs and at least one. -/
def decimalConversions : TextConversions where
  render := fun value => match value with
    | .float x =>
      let digits := (fixedText 4 x).toList.reverse
      String.ofList ((digits.take 3).dropWhile (fun c => c = '0') ++ digits.drop 3).reverse
    | _ => "None"
  parseInt := String.toInt?
  parseFloat := fun text =>
    let whole := text.toList.takeWhile (fun c => c ≠ '.')
    let fraction := text.toList.drop (whole.length + 1)
    if (whole ++ fraction).all Char.isDigit then
      some (Nat.ofDigitChars 10 whole 0 + (Nat.ofDigitChars 10 fraction 0 : ℚ) / 10 ^ fraction.length)
    else none

def mixedAttempts : List Attempt :=
  ["round_robin", "random", "spread"].map (fun policy => {
    experiment := SimulationEngine.mixedExperiment.withPolicy policy
    environment := ControlPlane.sessionEnvironment (emptyStore false)
    source := WorkloadGenerator.traceEnvironment (WorkloadGenerator.traceOf [])
    azureAvailable := true
    outputs := decisionOutputs
    rayQueueEnabled := false })

def bareWorkspace : Workspace where
  store := emptyStore false
  files := fun _ => none

theorem Attempt.results_plotted_mixed :
    plotResults decimalConversions (performAll decimalConversions tenthFloats mixedAttempts bareWorkspace).1.files =
      some (.ok (["session:round_robin", "session:spread"], [5741.12, 5741.12])) := by
  have figures : (performAll decimalConversions tenthFloats mixedAttempts bareWorkspace).2.map (fun entry =>
      (newlines entry.1.experiment.config.name ++ ":" ++ entry.1.experiment.config.policy,
        entry.2.summary.p95LatencyMs)) = [("session:round_robin", 5741.12), ("session:spread", 5741.12)] := by
    decide +kernel
  have texts : ∀ entry ∈ (performAll decimalConversions tenthFloats mixedAttempts bareWorkspace).2,
      (∀ table ∈ ExportTable.all, ∀ cell ∈ table.cells decimalConversions entry.2.summary,
        cell.toList.length ≤ fieldLimit) ∧
      '\r' ∉ (ExportTable.floatCell decimalConversions entry.2.summary.p95LatencyMs).toList ∧
      decimalConversions.parseFloat (ExportTable.floatCell decimalConversions entry.2.summary.p95LatencyMs) =
        some entry.2.summary.p95LatencyMs := by
    decide +kernel
  have legible : ∀ entry ∈ (performAll decimalConversions tenthFloats mixedAttempts bareWorkspace).2,
      entry.2.summary.Legible decimalConversions := by
    intro entry held
    obtain ⟨fits, plain, reads⟩ := texts entry held
    exact ⟨fun table => fits table (by cases table <;> decide), plain, reads⟩
  have unnamed : ∀ attempt ∈ mixedAttempts, ∀ table : ExportTable, attempt.Unnamed table.path := by
    intro attempt member table
    obtain ⟨policy, _, rfl⟩ := List.mem_map.mp member
    have apart : ∀ table : ExportTable, decisionOutputs.decisionLog ≠ some table.path ∧
        decisionOutputs.metricsOutput ≠ some table.path := by
      intro table
      cases table <;> decide
    exact apart table
  obtain ⟨plotted, _⟩ := results_plotted decimalConversions tenthFloats mixedAttempts bareWorkspace (fun _ => rfl)
    unnamed legible
  have some_returned : (performAll decimalConversions tenthFloats mixedAttempts bareWorkspace).2 ≠ [] := by
    intro none_returned
    rw [none_returned] at figures
    cases figures
  have labels := congrArg (List.map Prod.fst) figures
  have heights := congrArg (List.map Prod.snd) figures
  rw [List.map_map] at labels heights
  refine (plotted some_returned).2.trans ?_
  exact congrArg some (congrArg Except.ok (Prod.ext labels heights))

end NimbusMesh
