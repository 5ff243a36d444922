import NimbusMesh.Text
import NimbusMesh.Workload.Generator

namespace NimbusMesh

open Foundation Foundation.Decimal Foundation.Execution

namespace Json

def get (record : Json) (name : String) : Except PyError (Option Json) :=
  match record with
  | .obj fields => .ok (fields.lookup name)
  | other => .error (.attributeError ("'" ++ other.typeName ++ "' object has no attribute 'get'"))

/-- The chain `record.get(first) or record.get(second) or ... or default`. -/
def getFirst (record default : Json) : List String → Except PyError Json
  | [] => .ok default
  | name :: rest => do
    match ← record.get name with
    | none => record.getFirst default rest
    | some value => if value.truthy then return value else record.getFirst default rest

/-- What a `for` loop over a value goes through. -/
def elements : Json → Except PyError (List Json)
  | .arr items => .ok items
  | .obj fields => .ok (fields.map (fun field => .str field.1))
  | .str value => .ok (value.toList.map (fun c => .str (String.singleton c)))
  | other => .error (.typeError ("'" ++ other.typeName ++ "' object is not iterable"))

def lower : Json → Except PyError String
  | .str value => .ok (Text.lower value)
  | other => .error (.attributeError ("'" ++ other.typeName ++ "' object has no attribute 'lower'"))

/-- A cell that a short row does not have is `None`. -/
def ofCell : Option String → Json
  | none => .null
  | some value => .str value

/-- The records of a document: the document itself if it is a list, else what it has under `data`. -/
def records : Json → Except PyError (List Json)
  | .arr items => .ok items
  | document => do
    match ← document.get "data" with
    | none => return []
    | some data => data.elements

end Json

/-- A row of a normalized workload. A text taken from a CSV row that is too short is `none`. -/
structure NormalizedWorkloadRow where
  timestamp : ℚ
  requestId : Option String
  promptLength : ℤ
  expectedOutputLength : ℤ
  tenantId : Option String
  priorityClass : String
  modelId : Option String
  sessionId : Option String
  deriving DecidableEq, Repr

def normalizedColumns : List String :=
  ["timestamp", "request_id", "prompt_length", "expected_output_length", "tenant_id", "priority_class",
    "model_id", "session_id"]

def NormalizedWorkloadRow.cells (conversions : TextConversions) (row : NormalizedWorkloadRow) : List String :=
  [conversions.toStr (.float (roundTo 6 row.timestamp)), row.requestId.getD "", toString row.promptLength,
    toString row.expectedOutputLength, row.tenantId.getD "", row.priorityClass, row.modelId.getD "",
    row.sessionId.getD ""]

def normalizedTable (conversions : TextConversions) (rows : List NormalizedWorkloadRow) : TraceFile where
  fieldnames := normalizedColumns
  rows := rows.map (NormalizedWorkloadRow.cells conversions)

def clampPriority (raw : Option String) : String :=
  let value := Text.lower (Text.strip (raw.getD ""))
  if value ∈ ["realtime", "interactive", "best_effort"] then value
  else if value ∈ ["high", "p0", "critical"] then "realtime"
  else if value ∈ ["low", "p2", "batch"] then "best_effort"
  else "interactive"

def approxTokenCount (text : String) : ℤ :=
  let stripped := Text.strip text
  if stripped = "" then 1 else max 1 (truncate ((Text.split stripped).length * 1.33))

def approxTokenLength (text : Json) : Except PyError ℤ :=
  if !text.truthy then .ok (approxTokenCount "")
  else
    match text with
    | .str value => .ok (approxTokenCount value)
    | other => .error (.attributeError ("'" ++ other.typeName ++ "' object has no attribute 'strip'"))

/-- The built-in hashes that differ from process to process: that of a string, which is salted, and those of `None`
    and of the `nan` of a record, which go by the address of the object. -/
structure ProcessHashes where
  text : String → ℤ
  null : ℤ
  nan : ℕ → ℤ

/-- What a normalizer is given by its interpreter: the conversions to and from text, which texts UTF-8 can encode
    (none with a lone surrogate), the hashes of the process, and the hash of any other scalar. -/
structure PipelineEnvironment where
  conversions : TextConversions
  encodes : String → Bool
  hashes : ProcessHashes
  scalarHash : Json → ℤ

def NormalizedWorkloadRow.encodable (environment : PipelineEnvironment) (row : NormalizedWorkloadRow) : Bool :=
  (row.cells environment.conversions).all environment.encodes

/-- The file that is written. A text that cannot be encoded stops the writer. -/
def writeNormalizedRows (environment : PipelineEnvironment) (rows : List NormalizedWorkloadRow) :
    Except PyError TraceFile :=
  if rows.all (NormalizedWorkloadRow.encodable environment) then .ok (normalizedTable environment.conversions rows)
  else .error (.valueError "'utf-8' codec can't encode characters: surrogates not allowed")

/-- A dataset by its path: what the CSV reader and the JSON parser make of the file, and its suffix. -/
structure DatasetFile where
  csv : Except PyError TraceFile
  json : Except PyError Json
  suffix : String

/-- The loop of every normalizer: it stops once there are as many rows as the limit, and a record may be
    passed over. The index counts the records, and `taken` the rows so far. -/
def normalizeRecords {ρ β : Type} (limit : Option ℤ) (normalize : ℕ → ρ → Except PyError (Option β)) :
    ℕ → ℕ → List ρ → Except PyError (List β)
  | _, _, [] => .ok []
  | index, taken, record :: rest =>
    if ∃ bound ∈ limit, bound ≤ taken then .ok []
    else do
      match ← normalize index record with
      | none => normalizeRecords limit normalize (index + 1) taken rest
      | some row => return row :: (← normalizeRecords limit normalize (index + 1) (taken + 1) rest)

section Normalizers

variable (environment : PipelineEnvironment)

/-- The call `float(row.get(name, default))`. -/
def floatCell (cell : Option (Option String)) (default : ℚ) : Except PyError ℚ :=
  match cell with
  | none => .ok default
  | some value => environment.conversions.toFloat (.ofCell value)

def alibabaRow (fieldnames : List String) (defaultModel : String) (index : ℕ) (row : List String) :
    Except PyError NormalizedWorkloadRow := do
  let cell := TraceFile.cell fieldnames row
  let startTime ← floatCell environment (cell "start_time") index
  let duration ← floatCell environment ((cell "task_duration").orElse fun _ => cell "duration") 1.0
  let cpu ← floatCell environment ((cell "cpu_usage").orElse fun _ => cell "plan_cpu") 1.0
  let memory ← floatCell environment ((cell "memory_usage").orElse fun _ => cell "plan_mem") 1.0
  let machineId := environment.conversions.toStr (.ofCell ((cell "machine_id").getD (some "machine-unknown")))
  let tenantId := "tenant-" ++ machineId
  return {
    timestamp := startTime
    requestId := (cell "task_id").getD (some ("alibaba-" ++ zeroPadded 7 index))
    promptLength := max 32 (truncate (cpu * 220.0 + memory * 100.0))
    expectedOutputLength := max 16 (truncate (duration * 40.0))
    tenantId := some tenantId
    priorityClass := clampPriority ((cell "priority").getD (some "interactive"))
    modelId := some defaultModel
    sessionId := some s!"{tenantId}-session-{index / 4}" }

def normalizeAlibabaClusterTrace (input : DatasetFile) (limit : Option ℤ := none)
    (defaultModel : String := "llama-3-8b") : Except PyError (List NormalizedWorkloadRow) := do
  let file ← input.csv
  normalizeRecords limit (fun index row => some <$> alibabaRow environment file.fieldnames defaultModel index row)
    0 0 file.rows

/-- The loop over the turns of a conversation: the first prompt and the first response that are not empty. -/
def readTurns : List Json → Json → Json → Except PyError (Json × Json)
  | [], prompt, response => .ok (prompt, response)
  | turn :: rest, prompt, response => do
    let role ← (← turn.getFirst (.str "") ["from", "role"]).lower
    let value ← turn.getFirst (.str "") ["value", "content"]
    let read :=
      if !prompt.truthy ∧ role ∈ ["human", "user"] then (value, response)
      else if !response.truthy ∧ role ∈ ["gpt", "assistant"] then (prompt, value)
      else (prompt, response)
    if read.1.truthy && read.2.truthy then return read else readTurns rest read.1 read.2

structure Conversation where
  promptLength : ℤ
  outputLength : ℤ
  convId : Json

/-- The loop body of `normalize_sharegpt_dataset` up to the hash. A record without turns is passed over. -/
def readConversation (index : ℕ) (record : Json) : Except PyError (Option Conversation) := do
  let conversations ← record.getFirst (.arr []) ["conversations", "conversation"]
  if !conversations.truthy then return none
  else
    let (prompt, response) ← readTurns (← conversations.elements) (.str "") (.str "")
    let promptLength ← approxTokenLength prompt
    let outputLength ← approxTokenLength response
    let convId := (← record.get "id").getD (.str ("sharegpt-" ++ zeroPadded 6 index))
    return some { promptLength, outputLength, convId }

/-- The call `hash(conv_id)` for the record of an index. -/
def hash (index : ℕ) : Json → Except PyError ℤ
  | .str value => .ok (environment.hashes.text value)
  | .null => .ok environment.hashes.null
  | .nonFinite .nan => .ok (environment.hashes.nan index)
  | .arr _ => .error (.typeError "unhashable type: 'list'")
  | .obj _ => .error (.typeError "unhashable type: 'dict'")
  | scalar => .ok (environment.scalarHash scalar)

def hashedRow (defaultModel : String) (index : ℕ) (conversation : Conversation) (hashed : ℤ) :
    NormalizedWorkloadRow :=
  let tenantId := "sharegpt-" ++ zeroPadded 3 (hashed % 1000).toNat
  { timestamp := index
    requestId := some (environment.conversions.toStr conversation.convId)
    promptLength := conversation.promptLength
    expectedOutputLength := max 16 conversation.outputLength
    tenantId := some tenantId
    priorityClass := "interactive"
    modelId := some defaultModel
    sessionId := some s!"{tenantId}-session-{index / 6}" }

def sharegptRow (defaultModel : String) (index : ℕ) (conversation : Conversation) :
    Except PyError NormalizedWorkloadRow := do
  return hashedRow environment defaultModel index conversation (← hash environment index conversation.convId)

def normalizeSharegptDataset (input : DatasetFile) (limit : Option ℤ := none)
    (defaultModel : String := "llama-3-70b") : Except PyError (List NormalizedWorkloadRow) := do
  let document ← input.json
  let records ← document.records
  normalizeRecords limit (fun index record => do
    match ← readConversation index record with
    | none => return none
    | some conversation => some <$> sharegptRow environment defaultModel index conversation) 0 0 records

def lmsysRow (defaultModel : String) (index : ℕ) (record : Json) : Except PyError NormalizedWorkloadRow := do
  let prompt ← record.getFirst (.str "") ["prompt", "conversation_a", "input", "question"]
  let output ← record.getFirst (.str "") ["response", "conversation_b", "output", "answer"]
  let modelId ← record.getFirst (.str defaultModel) ["model", "model_a"]
  let tenant ← record.getFirst (.str ("arena-" ++ zeroPadded 3 (index % 64))) ["user_id"]
  let identifier := (← record.get "id").getD (.str ("lmsys-" ++ zeroPadded 6 index))
  let tenantId := environment.conversions.toStr tenant
  return {
    timestamp := index
    requestId := some (environment.conversions.toStr identifier)
    promptLength := approxTokenCount (environment.conversions.toStr prompt)
    expectedOutputLength := max 16 (approxTokenCount (environment.conversions.toStr output))
    tenantId := some tenantId
    priorityClass := if index % 5 = 0 then "realtime" else "interactive"
    modelId := some (environment.conversions.toStr modelId)
    sessionId := some s!"{tenantId}-session-{index / 8}" }

/-- A row of a CSV file as a record. Of two columns with one name the later one counts. -/
def csvRecord (fieldnames row : List String) : Json :=
  .obj ((fieldnames.eraseDups).filterMap (fun name =>
    (TraceFile.cell fieldnames row name).map (fun value => (name, .ofCell value))))

def lmsysRecords (input : DatasetFile) : Except PyError (List Json) := do
  if Text.lower input.suffix = ".json" then (← input.json).records
  else
    let file ← input.csv
    return file.rows.map (csvRecord file.fieldnames)

def normalizeLmsysDataset (input : DatasetFile) (limit : Option ℤ := none)
    (defaultModel : String := "mixtral-8x7b") : Except PyError (List NormalizedWorkloadRow) := do
  let records ← lmsysRecords input
  normalizeRecords limit (fun index record => some <$> lmsysRow environment defaultModel index record) 0 0 records

def instructionRow (defaultModel : String) (index : ℕ) (record : Json) : Except PyError NormalizedWorkloadRow := do
  let instruction ← record.getFirst (.str "") ["instruction", "prompt", "query"]
  let context ← record.getFirst (.str "") ["context"]
  let output ← record.getFirst (.str "") ["output", "response", "answer"]
  let identifier := (← record.get "id").getD (.str ("open-llm-" ++ zeroPadded 7 index))
  let text := environment.conversions.toStr instruction ++ "\n" ++ environment.conversions.toStr context
  let tenant := "open-llm-" ++ zeroPadded 2 (index % 48)
  return {
    timestamp := index
    requestId := some (environment.conversions.toStr identifier)
    promptLength := approxTokenCount (Text.strip text)
    expectedOutputLength := max 16 (approxTokenCount (environment.conversions.toStr output))
    tenantId := some tenant
    priorityClass := "interactive"
    modelId := some defaultModel
    sessionId := some s!"{tenant}-session-{index / 5}" }

def normalizeInstructionDataset (input : DatasetFile) (limit : Option ℤ := none)
    (defaultModel : String := "llama-3-8b") : Except PyError (List NormalizedWorkloadRow) := do
  let document ← input.json
  let records ← document.records
  normalizeRecords limit (fun index record => some <$> instructionRow environment defaultModel index record)
    0 0 records

def genericRow (fieldnames : List String) (defaultModel : String) (index : ℕ) (row : List String) :
    Except PyError NormalizedWorkloadRow := do
  let cell := TraceFile.cell fieldnames row
  let timestamp ← floatCell environment (cell "timestamp") index
  let promptLength ← floatCell environment (cell "prompt_length") 1
  let outputLength ← floatCell environment (cell "expected_output_length") 1
  return {
    timestamp
    requestId := (cell "request_id").getD (some ("generic-" ++ zeroPadded 7 index))
    promptLength := max 1 (truncate promptLength)
    expectedOutputLength := max 1 (truncate outputLength)
    tenantId := (cell "tenant_id").getD (some s!"tenant-{index % 16}")
    priorityClass := clampPriority ((cell "priority_class").getD (some "interactive"))
    modelId := (cell "model_id").getD (some defaultModel)
    sessionId := (cell "session_id").getD (some s!"session-{index / 4}") }

def normalizeGenericWorkloadCsv (input : DatasetFile) (limit : Option ℤ := none)
    (defaultModel : String := "llama-3-8b") : Except PyError (List NormalizedWorkloadRow) := do
  let file ← input.csv
  normalizeRecords limit (fun index row => some <$> genericRow environment file.fieldnames defaultModel index row)
    0 0 file.rows

def normalizerRegistry :
    List (String × (DatasetFile → Option ℤ → String → Except PyError (List NormalizedWorkloadRow))) :=
  [("alibaba", fun input limit model => normalizeAlibabaClusterTrace environment input limit model),
    ("sharegpt", fun input limit model => normalizeSharegptDataset environment input limit model),
    ("lmsys", fun input limit model => normalizeLmsysDataset environment input limit model),
    ("openorca", fun input limit model => normalizeInstructionDataset environment input limit model),
    ("ultrachat", fun input limit model => normalizeInstructionDataset environment input limit model),
    ("dolly", fun input limit model => normalizeInstructionDataset environment input limit model),
    ("mlperf", fun input limit model => normalizeGenericWorkloadCsv environment input limit model),
    ("azure_retail", fun input limit model => normalizeGenericWorkloadCsv environment input limit model),
    ("generic_csv", fun input limit model => normalizeGenericWorkloadCsv environment input limit model)]

def normalizedRows (name : String) (input : DatasetFile) (limit : Option ℤ) (defaultModel : String) :
    Except PyError (List NormalizedWorkloadRow) :=
  match (normalizerRegistry environment).lookup name with
  | none => .error (.keyError name)
  | some normalizer => normalizer input limit defaultModel

variable {environment}

theorem registered_cases {name : String} {input : DatasetFile} {limit : Option ℤ} {defaultModel : String}
    {rows : List NormalizedWorkloadRow}
    (returned : normalizedRows environment name input limit defaultModel = .ok rows) :
    normalizeAlibabaClusterTrace environment input limit defaultModel = .ok rows ∨
      normalizeSharegptDataset environment input limit defaultModel = .ok rows ∨
      normalizeLmsysDataset environment input limit defaultModel = .ok rows ∨
      normalizeInstructionDataset environment input limit defaultModel = .ok rows ∨
      normalizeGenericWorkloadCsv environment input limit defaultModel = .ok rows := by
  unfold normalizedRows at returned
  split at returned
  · cases returned
  · rename_i normalizer found
    obtain ⟨before, after, split, _⟩ := List.lookup_eq_some_iff.mp found
    have registered : (name, normalizer) ∈ normalizerRegistry environment := by simp [split]
    simp only [normalizerRegistry, List.mem_cons, Prod.mk.injEq, List.not_mem_nil, or_false] at registered
    rcases registered with ⟨_, rfl⟩ | ⟨_, rfl⟩ | ⟨_, rfl⟩ | ⟨_, rfl⟩ | ⟨_, rfl⟩ | ⟨_, rfl⟩ | ⟨_, rfl⟩ | ⟨_, rfl⟩ |
      ⟨_, rfl⟩
    all_goals simp only [returned, true_or, or_true]

end Normalizers

end NimbusMesh
