import NimbusMesh.Foundation.Footprints
import NimbusMesh.Pipeline.TraceText

namespace NimbusMesh

open Foundation Foundation.Execution

abbrev Files := String → Option String

/-- The suffix of the last part of a path. -/
def pathSuffix (path : String) : String :=
  let name := (path.toList.reverse.takeWhile (fun c => c ≠ '/')).reverse
  let ending := (name.reverse.takeWhile (fun c => c ≠ '.')).reverse
  if ending ≠ [] ∧ ending.length + 1 < name.length then String.ofList ('.' :: ending) else ""

structure PipelineJob where
  normalizer : String
  input : String
  output : String
  limit : Option ℤ
  defaultModel : String

section Running

-- `place` names the file that a path leads to, since two paths may lead to one file.
variable (environment : PipelineEnvironment) (floats : FloatText) (place : String → String)

def jobText (fields : List (String × Json)) (name : String) : Except PyError String :=
  match fields.lookup name with
  | none => .error (.keyError name)
  | some value => .ok (environment.conversions.toStr value)

def jobLimit (fields : List (String × Json)) : Except PyError (Option ℤ) :=
  match fields.lookup "limit" with
  | none => .ok none
  | some .null => .ok none
  | some value => some <$> environment.conversions.toInt value

def readJob (fields : List (String × Json)) : Except PyError PipelineJob := do
  let normalizer ← jobText environment fields "normalizer"
  let input ← jobText environment fields "input"
  let output ← jobText environment fields "output"
  let limit ← jobLimit environment fields
  let defaultModel := environment.conversions.toStr ((fields.lookup "default_model").getD (.str "llama-3-8b"))
  return { normalizer, input, output, limit, defaultModel }

def datasetAt (files : Files) (path : String) : DatasetFile :=
  match files (place path) with
  | some text => .ofText floats (pathSuffix path) text
  | none =>
    let missing := PyError.fileNotFoundError ("[Errno 2] No such file or directory: '" ++ path ++ "'")
    { csv := .error missing, json := .error missing, suffix := pathSuffix path }

def PipelineJob.report (job : PipelineJob) (rows : List NormalizedWorkloadRow) : Json :=
  .obj [("normalizer", .str job.normalizer), ("input", .str job.input), ("output", .str job.output),
    ("rows", .int rows.length)]

def PipelineJob.perform (job : PipelineJob) : EStateM PyError Files (List Json) := fun files =>
  match normalizedRows environment job.normalizer (datasetAt floats place files job.input) job.limit
    job.defaultModel with
  | .error raised => .error raised files
  | .ok rows =>
    match writeNormalizedRows environment rows with
    | .error raised =>
      -- The rows before the one that stops the writer are in the file.
      let written := rows.takeWhile (NormalizedWorkloadRow.encodable environment)
      .error raised (Function.update files (place job.output) (some (normalizedText environment.conversions written)))
    | .ok _ => .ok [job.report rows]
        (Function.update files (place job.output) (some (normalizedText environment.conversions rows)))

/-- The loop body of `run_pipeline`. A job that is no mapping is passed over. -/
def runJob (item : Json) : EStateM PyError Files (List Json) :=
  match item with
  | .obj fields =>
    match readJob environment fields with
    | .error raised => throw raised
    | .ok job => job.perform environment floats place
  | _ => pure []

def runJobs (payload : Json) : EStateM PyError Files (List Json) :=
  match payload with
  | .obj fields =>
    match (fields.lookup "jobs").getD (.arr []) with
    | .arr jobs => do
      let outputs ← jobs.mapM (runJob environment floats place)
      return outputs.flatten
    | _ => throw (.valueError "`jobs` must be a list.")
  | _ => throw (.valueError "Pipeline config must be a YAML mapping.")

-- `safeLoad` is the YAML parser.
variable (safeLoad : String → Except PyError Json)

def loadPipelineConfig (files : Files) (configPath : String) : Except PyError Json :=
  match files (place configPath) with
  | some text => safeLoad text
  | none => .error (.fileNotFoundError ("[Errno 2] No such file or directory: '" ++ configPath ++ "'"))

def runPipeline (configPath : String) : EStateM PyError Files (List Json) := fun files =>
  match loadPipelineConfig place safeLoad files configPath with
  | .error raised => .error raised files
  | .ok payload => runJobs environment floats place payload files

end Running

section Rerunning

variable {environment : PipelineEnvironment} {floats : FloatText} {place : String → String}

/-- The file that an item of the configuration has read. -/
def ReadBy (environment : PipelineEnvironment) (place : String → String) (item : Json) (file : String) : Prop :=
  ∃ fields job, item = .obj fields ∧ readJob environment fields = .ok job ∧ place job.input = file

def WrittenBy (environment : PipelineEnvironment) (place : String → String) (item : Json) (file : String) : Prop :=
  ∃ fields job, item = .obj fields ∧ readJob environment fields = .ok job ∧ place job.output = file

theorem perform_eq_ok {job : PipelineJob} {files final : Files} {outputs : List Json} :
    job.perform environment floats place files = .ok outputs final ↔
      ∃ rows, normalizedRows environment job.normalizer (datasetAt floats place files job.input) job.limit
          job.defaultModel = .ok rows ∧ (∃ file, writeNormalizedRows environment rows = .ok file) ∧
        outputs = [job.report rows] ∧
        final = Function.update files (place job.output) (some (normalizedText environment.conversions rows)) := by
  unfold PipelineJob.perform
  generalize normalizedRows environment job.normalizer (datasetAt floats place files job.input) job.limit
    job.defaultModel = normalized
  cases normalized with
  | error raised => simp
  | ok rows =>
    cases written : writeNormalizedRows environment rows with
    | error raised => simp [written]
    | ok file => simp [written, eq_comm]

theorem footprint_perform (job : PipelineJob) :
    Footprint (job.perform environment floats place) (fun file => place job.input = file)
      (fun file => place job.output = file) := by
  constructor
  · intro files final outputs ran file untouched
    obtain ⟨rows, _, _, _, written⟩ := perform_eq_ok.mp ran
    rw [written]
    exact Function.update_of_ne (Ne.symm untouched) _ _
  · intro files final others outputs ran agree
    obtain ⟨rows, normalized, encodes, reported, written⟩ := perform_eq_ok.mp ran
    have input : datasetAt floats place others job.input = datasetAt floats place files job.input := by
      unfold datasetAt
      rw [agree (place job.input) rfl]
    rw [← input] at normalized
    refine ⟨_, perform_eq_ok.mpr ⟨rows, normalized, encodes, reported, rfl⟩, ?_⟩
    intro file same
    rw [written, ← same, Function.update_self, Function.update_self]

theorem footprint_runJob (item : Json) :
    Footprint (runJob environment floats place item) (ReadBy environment place item)
      (WrittenBy environment place item) := by
  -- An item that is no mapping reads and writes nothing.
  have passed : (∀ fields, item ≠ .obj fields) → runJob environment floats place item = pure [] →
      Footprint (runJob environment floats place item) (ReadBy environment place item)
        (WrittenBy environment place item) := by
    intro other same
    constructor
    · intro files final outputs ran file _
      rw [same] at ran
      rw [(pure_eq_ok.mp ran).2]
    · intro files final others outputs ran _
      rw [same] at ran ⊢
      refine ⟨others, pure_eq_ok.mpr ⟨(pure_eq_ok.mp ran).1, rfl⟩, ?_⟩
      intro file written
      obtain ⟨fields, _, mapping, _⟩ := written
      exact absurd mapping (other fields)
  cases item with
  | obj fields =>
    cases read : readJob environment fields with
    | error raised =>
      have thrown : runJob environment floats place (.obj fields) = throw raised := by simp only [runJob, read]
      constructor
      · intro files final outputs ran
        rw [thrown] at ran
        cases ran
      · intro files final others outputs ran
        rw [thrown] at ran
        cases ran
    | ok job =>
      have performed : runJob environment floats place (.obj fields) = job.perform environment floats place := by
        simp only [runJob, read]
      have reads : ReadBy environment place (.obj fields) = fun file => place job.input = file := by
        funext file
        simp [ReadBy, read]
      have writes : WrittenBy environment place (.obj fields) = fun file => place job.output = file := by
        funext file
        simp [WrittenBy, read]
      rw [performed, reads, writes]
      exact footprint_perform job
  | null => exact passed (by simp) rfl
  | bool value => exact passed (by simp) rfl
  | int value => exact passed (by simp) rfl
  | float value => exact passed (by simp) rfl
  | nonFinite value => exact passed (by simp) rfl
  | str value => exact passed (by simp) rfl
  | arr items => exact passed (by simp) rfl

def jobsOf (payload : Json) : List Json :=
  match payload with
  | .obj fields =>
    match (fields.lookup "jobs").getD (.arr []) with
    | .arr jobs => jobs
    | _ => []
  | _ => []

theorem runJobs_eq_ok {payload : Json} {files final : Files} {outputs : List Json}
    (ran : runJobs environment floats place payload files = .ok outputs final) :
    runJobs environment floats place payload = (do
      let outputs ← (jobsOf payload).mapM (runJob environment floats place)
      return outputs.flatten) := by
  unfold runJobs jobsOf at *
  split at ran
  · split at ran
    · simp only [*]
    · cases ran
  · cases ran

/-- A configuration whose jobs read no file that they or a later job write, and write none that holds it. -/
structure Rerunnable (environment : PipelineEnvironment) (place : String → String)
    (safeLoad : String → Except PyError Json) (files : Files) (configPath : String) (payload : Json) : Prop where
  loads : loadPipelineConfig place safeLoad files configPath = .ok payload
  undisturbed : Undisturbed (ReadBy environment place) (WrittenBy environment place) (jobsOf payload)
  kept : ∀ item ∈ jobsOf payload, ¬ WrittenBy environment place item (place configPath)

/-- In one process, a pipeline can be run again over the files it left: it returns the same outputs and writes every
    file as it is. -/
theorem pipeline_rerun (environment : PipelineEnvironment) (floats : FloatText) (place : String → String)
    (safeLoad : String → Except PyError Json) (configPath : String) (files final : Files) (payload : Json)
    (outputs : List Json) (rerunnable : Rerunnable environment place safeLoad files configPath payload)
    (ran : runPipeline environment floats place safeLoad configPath files = .ok outputs final) :
    runPipeline environment floats place safeLoad configPath final = .ok outputs final := by
  simp only [runPipeline, rerunnable.loads] at ran
  have loop := runJobs_eq_ok ran
  rw [loop] at ran
  obtain ⟨reports, reached, performed, returned⟩ := bind_eq_ok.mp ran
  obtain ⟨same, rfl⟩ := pure_eq_ok.mp returned
  have config : final (place configPath) = files (place configPath) :=
    frame_mapM footprint_runJob performed (place configPath) rerunnable.kept
  have loads : loadPipelineConfig place safeLoad final configPath = .ok payload := by
    rw [← rerunnable.loads, loadPipelineConfig, config, loadPipelineConfig]
  simp only [runPipeline, loads]
  rw [loop]
  exact bind_eq_ok.mpr ⟨reports, final, mapM_again footprint_runJob rerunnable.undisturbed performed,
    pure_eq_ok.mpr ⟨same, rfl⟩⟩

section Samples

def normalizeJob (input output : String) : Json :=
  .obj [("normalizer", .str "generic_csv"), ("input", .str input), ("output", .str output)]

def chainedJobs : Json :=
  .obj [("jobs", .arr [normalizeJob "raw.csv" "trace.csv", normalizeJob "trace.csv" "again.csv"])]

def chainedText : String :=
  "jobs:\n- normalizer: generic_csv\n  input: raw.csv\n  output: trace.csv\n" ++
    "- normalizer: generic_csv\n  input: trace.csv\n  output: again.csv\n"

def loadChained (text : String) : Except PyError Json :=
  if text = chainedText then .ok chainedJobs else .error (.valueError "")

def rawFiles : Files :=
  Function.update (Function.update (fun _ => none) "raw.csv" (some "timestamp,prompt_length,tenant_id\n7,128,acme\n"))
    "pipeline.yaml" (some chainedText)

theorem readJob_normalizeJob (input output : String) :
    readJob WorkloadGenerator.wholePipeline
        [("normalizer", .str "generic_csv"), ("input", .str input), ("output", .str output)] =
      .ok {
        normalizer := "generic_csv", input := input, output := output, limit := none, defaultModel := "llama-3-8b" } :=
  rfl

theorem rerunnable_chainedJobs :
    Rerunnable WorkloadGenerator.wholePipeline id loadChained rawFiles "pipeline.yaml" chainedJobs := by
  have reads : ∀ input output file,
      ReadBy WorkloadGenerator.wholePipeline id (normalizeJob input output) file ↔ input = file := by
    intro input output file
    simp [ReadBy, normalizeJob, readJob_normalizeJob]
  have writes : ∀ input output file,
      WrittenBy WorkloadGenerator.wholePipeline id (normalizeJob input output) file ↔ output = file := by
    intro input output file
    simp [WrittenBy, normalizeJob, readJob_normalizeJob]
  have jobs : jobsOf chainedJobs = [normalizeJob "raw.csv" "trace.csv", normalizeJob "trace.csv" "again.csv"] := rfl
  refine ⟨rfl, ?_, ?_⟩
  · rw [jobs]
    simp [Undisturbed, reads, writes]
  · rw [jobs]
    simp [writes]

theorem pipeline_rerun_chained :
    ∃ outputs final,
      runPipeline WorkloadGenerator.wholePipeline tenthFloats id loadChained "pipeline.yaml" rawFiles =
          .ok outputs final ∧
        runPipeline WorkloadGenerator.wholePipeline tenthFloats id loadChained "pipeline.yaml" final =
          .ok outputs final := by
  have returns : (valueOf (runPipeline WorkloadGenerator.wholePipeline tenthFloats id loadChained "pipeline.yaml"
      rawFiles)).isSome := by
    decide +kernel
  obtain ⟨outputs, value⟩ := Option.isSome_iff_exists.mp returns
  obtain ⟨final, ran⟩ := valueOf_eq_some.mp value
  exact ⟨outputs, final, ran, pipeline_rerun _ _ _ _ _ rawFiles final chainedJobs outputs rerunnable_chainedJobs ran⟩

end Samples

end Rerunning

end NimbusMesh
