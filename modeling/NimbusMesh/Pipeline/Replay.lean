import NimbusMesh.Pipeline.Normalizers
import NimbusMesh.Workload.Arrivals

namespace NimbusMesh

open Foundation Foundation.Decimal Foundation.Execution

section Rows

structure NormalizedWorkloadRow.WellFormed (row : NormalizedWorkloadRow) : Prop where
  promptLength : 0 < row.promptLength
  expectedOutputLength : 0 < row.expectedOutputLength
  priorityClass : ∃ sla, slaNamed row.priorityClass = some sla

theorem clampPriority_named (raw : Option String) : ∃ sla, slaNamed (clampPriority raw) = some sla := by
  simp only [clampPriority]
  split_ifs with known high low
  · simp only [List.mem_cons, List.not_mem_nil, or_false] at known
    rcases known with same | same | same
    all_goals
      rw [same]
      exact ⟨_, rfl⟩
  · exact ⟨.realtime, rfl⟩
  · exact ⟨.bestEffort, rfl⟩
  · exact ⟨.interactive, rfl⟩

theorem approxTokenCount_pos (text : String) : 0 < approxTokenCount text := by
  simp only [approxTokenCount]
  split
  · exact one_pos
  · exact lt_max_of_lt_left one_pos

theorem approxTokenLength_pos {text : Json} {length : ℤ} (returned : approxTokenLength text = .ok length) :
    0 < length := by
  unfold approxTokenLength at returned
  split at returned
  · rw [← Except.ok.inj returned]
    exact approxTokenCount_pos ""
  · split at returned
    · rw [← Except.ok.inj returned]
      exact approxTokenCount_pos _
    · cases returned

theorem normalizeRecords_mem {ρ β : Type} {limit : Option ℤ} {normalize : ℕ → ρ → Except PyError (Option β)}
    {index taken : ℕ} {records : List ρ} {rows : List β}
    (returned : normalizeRecords limit normalize index taken records = .ok rows) {row : β} (member : row ∈ rows) :
    ∃ position record, record ∈ records ∧ normalize position record = .ok (some row) := by
  induction records generalizing index taken rows with
  | nil =>
    cases returned
    cases member
  | cons record rest ih =>
    unfold normalizeRecords at returned
    split at returned
    · cases returned
      cases member
    · obtain ⟨made, normalized, returned⟩ := except_bind_eq_ok.mp returned
      cases made with
      | none =>
        obtain ⟨position, found, inside, same⟩ := ih returned member
        exact ⟨position, found, by simp [inside], same⟩
      | some first =>
        obtain ⟨later, continued, returned⟩ := except_bind_eq_ok.mp returned
        cases returned
        rcases List.mem_cons.mp member with rfl | member
        · exact ⟨index, record, by simp, normalized⟩
        · obtain ⟨position, found, inside, same⟩ := ih continued member
          exact ⟨position, found, by simp [inside], same⟩

theorem some_map_eq_ok {α : Type} {outcome : Except PyError α} {value : α}
    (returned : some <$> outcome = .ok (some value)) : outcome = .ok value := by
  cases outcome with
  | error raised => cases returned
  | ok made =>
    cases returned
    rfl

variable {environment : PipelineEnvironment} {defaultModel : String} {index : ℕ} {row : NormalizedWorkloadRow}

theorem alibabaRow_wellFormed {fieldnames cells : List String}
    (returned : alibabaRow environment fieldnames defaultModel index cells = .ok row) : row.WellFormed := by
  iterate 4 obtain ⟨_, _, returned⟩ := except_bind_eq_ok.mp returned
  cases returned
  constructor
  all_goals dsimp only
  · exact lt_max_of_lt_left (by decide)
  · exact lt_max_of_lt_left (by decide)
  · exact clampPriority_named _

theorem readConversation_pos {record : Json} {conversation : Conversation}
    (returned : readConversation index record = .ok (some conversation)) : 0 < conversation.promptLength := by
  obtain ⟨conversations, _, returned⟩ := except_bind_eq_ok.mp returned
  split at returned
  · cases returned
  · iterate 2 obtain ⟨_, _, returned⟩ := except_bind_eq_ok.mp returned
    obtain ⟨promptLength, measured, returned⟩ := except_bind_eq_ok.mp returned
    iterate 2 obtain ⟨_, _, returned⟩ := except_bind_eq_ok.mp returned
    cases returned
    exact approxTokenLength_pos measured

theorem sharegptRow_wellFormed {conversation : Conversation} (positive : 0 < conversation.promptLength)
    (returned : sharegptRow environment defaultModel index conversation = .ok row) : row.WellFormed := by
  obtain ⟨_, _, returned⟩ := except_bind_eq_ok.mp returned
  cases returned
  exact ⟨positive, lt_max_of_lt_left (by decide), .interactive, rfl⟩

theorem lmsysRow_wellFormed {record : Json}
    (returned : lmsysRow environment defaultModel index record = .ok row) : row.WellFormed := by
  iterate 5 obtain ⟨_, _, returned⟩ := except_bind_eq_ok.mp returned
  cases returned
  constructor
  all_goals dsimp only
  · exact approxTokenCount_pos _
  · exact lt_max_of_lt_left (by decide)
  · split
    · exact ⟨.realtime, rfl⟩
    · exact ⟨.interactive, rfl⟩

theorem instructionRow_wellFormed {record : Json}
    (returned : instructionRow environment defaultModel index record = .ok row) : row.WellFormed := by
  iterate 4 obtain ⟨_, _, returned⟩ := except_bind_eq_ok.mp returned
  cases returned
  constructor
  all_goals dsimp only
  · exact approxTokenCount_pos _
  · exact lt_max_of_lt_left (by decide)
  · exact ⟨.interactive, rfl⟩

theorem genericRow_wellFormed {fieldnames cells : List String}
    (returned : genericRow environment fieldnames defaultModel index cells = .ok row) : row.WellFormed := by
  iterate 3 obtain ⟨_, _, returned⟩ := except_bind_eq_ok.mp returned
  cases returned
  constructor
  all_goals dsimp only
  · exact lt_max_of_lt_left (by decide)
  · exact lt_max_of_lt_left (by decide)
  · exact clampPriority_named _

theorem normalizedRows_wellFormed {name : String} {input : DatasetFile} {limit : Option ℤ}
    {rows : List NormalizedWorkloadRow} (returned : normalizedRows environment name input limit defaultModel = .ok rows)
    (member : row ∈ rows) : row.WellFormed := by
  rcases registered_cases returned with returned | returned | returned | returned | returned
  · obtain ⟨file, _, returned⟩ := except_bind_eq_ok.mp returned
    obtain ⟨_, _, _, made⟩ := normalizeRecords_mem returned member
    exact alibabaRow_wellFormed (some_map_eq_ok made)
  · iterate 2 obtain ⟨_, _, returned⟩ := except_bind_eq_ok.mp returned
    obtain ⟨_, _, _, made⟩ := normalizeRecords_mem returned member
    obtain ⟨read, reading, made⟩ := except_bind_eq_ok.mp made
    cases read with
    | none => cases made
    | some conversation => exact sharegptRow_wellFormed (readConversation_pos reading) (some_map_eq_ok made)
  · obtain ⟨_, _, returned⟩ := except_bind_eq_ok.mp returned
    obtain ⟨_, _, _, made⟩ := normalizeRecords_mem returned member
    exact lmsysRow_wellFormed (some_map_eq_ok made)
  · iterate 2 obtain ⟨_, _, returned⟩ := except_bind_eq_ok.mp returned
    obtain ⟨_, _, _, made⟩ := normalizeRecords_mem returned member
    exact instructionRow_wellFormed (some_map_eq_ok made)
  · obtain ⟨file, _, returned⟩ := except_bind_eq_ok.mp returned
    obtain ⟨_, _, _, made⟩ := normalizeRecords_mem returned member
    exact genericRow_wellFormed (some_map_eq_ok made)

end Rows

namespace WorkloadGenerator

variable {environment : GeneratorEnvironment} {config : WorkloadConfig}

def Configured (config : WorkloadConfig) (generator : WorkloadGenerator) : Prop := generator.config = config

theorem ensures_draw {α : Type} (take : ℕ → α) :
    Ensures (Configured config) (draw take) (fun value => ∃ i, value = take i) :=
  fun generator kept => ⟨_, _, rfl, kept, generator.drawn, rfl⟩

theorem ensures_raising {α : Type} {outcome : Except PyError α} {value : α} (returned : outcome = .ok value) :
    Ensures (Configured config) (raising outcome) (fun result => result = value) := by
  intro generator kept
  refine ⟨value, generator, ?_, kept, rfl⟩
  rw [returned]
  rfl

theorem ensures_choice {population : List String} (nonempty : population ≠ []) :
    Ensures (Configured config) (choice environment population) (fun _ => True) := by
  unfold choice
  rw [if_neg (by simp [nonempty])]
  apply (ensures_draw _).bind
  rintro _ ⟨i, rfl⟩
  have bound := environment.draws.below_lt i population.length (List.length_pos_iff.mpr nonempty)
  rw [List.getElem?_eq_getElem bound]
  exact ensures_pure True.intro

theorem ensures_newSession (tenantId modelId : String) :
    Ensures (Configured config) (newSession tenantId modelId) (fun _ => True) :=
  fun _ kept => ⟨_, _, rfl, kept, True.intro⟩

theorem ensures_pickSession (tenantId modelId : String) :
    Ensures (Configured config) (pickSession environment tenantId modelId) (fun _ => True) := by
  apply ensures_get_bind
  intro generator _
  split
  · exact ensures_newSession tenantId modelId
  · rename_i known
    apply (ensures_draw _).bind
    rintro unit -
    split
    · exact ensures_choice known
    · exact ensures_newSession tenantId modelId

theorem ensures_traceSession (session : Option String) (tenantId modelId : String) :
    Ensures (Configured config) (traceSession environment session tenantId modelId)
      (fun sessionId => ∀ given, session = some given → sessionId = given) := by
  cases session with
  | some sessionId =>
    apply ensures_pure
    rintro _ ⟨⟩
    rfl
  | none =>
    apply (ensures_pickSession tenantId modelId).imp
    rintro sessionId - _ ⟨⟩

end WorkloadGenerator

/-- What a replay keeps of a row, its identifier apart. -/
structure Resembles (row : NormalizedWorkloadRow) (request : InferenceRequest) : Prop where
  promptTokens : request.promptTokens = row.promptLength
  generationTokens : request.generationTokens = row.expectedOutputLength
  slaClass : slaNamed row.priorityClass = some request.slaClass
  maxLatencyMs : slaLatencyMs.lookup row.priorityClass = some request.maxLatencyMs
  tenantId : ∀ tenantId, row.tenantId = some tenantId → tenantId ≠ "" → request.tenantId = tenantId
  modelId : ∀ modelId, row.modelId = some modelId → modelId ≠ "" → request.modelId = modelId
  sessionId : ∀ sessionId, row.sessionId = some sessionId → sessionId ≠ "" → request.sessionId = some sessionId

structure Replays (row : NormalizedWorkloadRow) (request : InferenceRequest) : Prop extends Resembles row request where
  requestId : request.requestId = row.requestId

/-- The request that a row gives: it has the empty text for an absent identifier. -/
structure ReplayedFrom (row : NormalizedWorkloadRow) (request : InferenceRequest) : Prop
    extends Resembles row request where
  identifier : request.requestId = some (row.requestId.getD "")

theorem ReplayedFrom.replays_iff {row : NormalizedWorkloadRow} {request : InferenceRequest}
    (replayed : ReplayedFrom row request) : Replays row request ↔ row.requestId ≠ none := by
  have identifier := replayed.identifier
  constructor
  · intro replays absent
    have named := replays.requestId
    rw [absent, identifier] at named
    cases named
  · intro present
    refine ⟨replayed.toResembles, ?_⟩
    obtain ⟨name, held⟩ := Option.ne_none_iff_exists'.mp present
    rw [identifier, held, Option.getD_some]

/-- The numbers of a row are read back from the texts they are written as: a timestamp from its shortest
    representation, a length, which is the truncation of a float, from its digits. -/
structure ReadsBack (writer reader : TextConversions) (row : NormalizedWorkloadRow) : Prop where
  timestamp : reader.parseFloat (writer.toStr (.float (roundTo 6 row.timestamp))) = some (roundTo 6 row.timestamp)
  promptLength : reader.parseFloat (toString row.promptLength) = some (row.promptLength : ℚ)
  expectedOutputLength : reader.parseFloat (toString row.expectedOutputLength) = some (row.expectedOutputLength : ℚ)

section Cells

variable {writer reader : TextConversions} {row : NormalizedWorkloadRow}

theorem number_written {name text : String} {value : ℚ} (parsed : reader.parseFloat text = some value)
    (written : TraceFile.cell normalizedColumns (row.cells writer) name = some (some text)) :
    TraceFile.number reader normalizedColumns (row.cells writer) name = .ok value := by
  simp only [TraceFile.number, written, TextConversions.toFloat, parsed]

theorem text_given {name given : String} {field : Option String} (filled : field = some given) (nonempty : given ≠ "")
    (written : TraceFile.cell normalizedColumns (row.cells writer) name = some (some (field.getD ""))) :
    TraceFile.text normalizedColumns (row.cells writer) name = some given := by
  rw [filled, Option.getD_some] at written
  simp only [TraceFile.text, written, if_neg nonempty]

theorem max_truncate {length : ℤ} (positive : 0 < length) : max 1 (truncate (length : ℚ)) = length := by
  have whole : truncate (length : ℚ) = length := by
    rw [truncate, if_pos (by exact_mod_cast positive.le), Int.floor_intCast]
  rw [whole]
  omega

theorem sla_written {name : String} {sla : SlaClass} (named : slaNamed name = some sla) :
    name ≠ "" ∧ ∃ maxLatencyMs, slaLatencyMs.lookup name = some maxLatencyMs ∧ 0 < maxLatencyMs := by
  unfold slaNamed at named
  split at named
  · exact ⟨by decide, 900.0, rfl, by norm_num⟩
  · exact ⟨by decide, 1800.0, rfl, by norm_num⟩
  · exact ⟨by decide, 4200.0, rfl, by norm_num⟩
  · cases named

end Cells

theorem InferenceRequest.create_returns (digest : String → String) (requestId : Option String)
    (tenantId modelId : String) {promptTokens generationTokens : ℤ}
    (tokens : 0 < promptTokens ∧ 0 < generationTokens) {arrivalTs : ℚ} (arrival : 0 ≤ arrivalTs) {slaClass : String} {sla : SlaClass} (named : slaNamed slaClass = some sla)
    (sessionId prefixSignature : Option String) {maxLatencyMs : ℚ} (latency : 0 < maxLatencyMs) :
    ∃ request, InferenceRequest.create digest requestId tenantId modelId promptTokens generationTokens arrivalTs
        slaClass sessionId prefixSignature maxLatencyMs = .ok request ∧
      request.requestId = requestId ∧ request.tenantId = tenantId ∧ request.modelId = modelId ∧
      request.promptTokens = promptTokens ∧ request.generationTokens = generationTokens ∧
      request.slaClass = sla ∧ request.sessionId = sessionId ∧ request.maxLatencyMs = maxLatencyMs := by
  unfold InferenceRequest.create
  rw [named]
  dsimp only
  rw [dif_pos tokens, dif_pos arrival, dif_pos latency]
  exact ⟨_, rfl, rfl, rfl, rfl, rfl, rfl, rfl, rfl, rfl⟩

namespace WorkloadGenerator

variable {environment : GeneratorEnvironment} {config : WorkloadConfig} {writer : TextConversions}

theorem replayTs_nonneg (config : WorkloadConfig) (firstTs rawTs : ℚ) : 0 ≤ replayTs config firstTs rawTs :=
  roundTo_nonneg 4 (le_max_left _ _)

theorem ensures_traceRequest {row : NormalizedWorkloadRow} (formed : row.WellFormed)
    (reads : ReadsBack writer environment.conversions row) (firstTs : ℚ) (index : ℕ) :
    Ensures (Configured config) (traceRequest environment normalizedColumns firstTs (row.cells writer) index)
      (ReplayedFrom row) := by
  obtain ⟨sla, named⟩ := formed.priorityClass
  obtain ⟨filled, maxLatencyMs, latency, positive⟩ := sla_written named
  have prompt := max_truncate formed.promptLength
  have output := max_truncate formed.expectedOutputLength
  have priority : TraceFile.text normalizedColumns (row.cells writer) "priority_class" = some row.priorityClass :=
    text_given rfl filled rfl
  have identified : TraceFile.cell normalizedColumns (row.cells writer) "request_id" =
      some (some (row.requestId.getD "")) := rfl
  apply ensures_get_bind
  intro generator _
  apply (ensures_raising (number_written reads.timestamp rfl)).bind
  rintro _ rfl
  apply (ensures_raising (number_written reads.promptLength rfl)).bind
  rintro _ rfl
  apply (ensures_raising (number_written reads.expectedOutputLength rfl)).bind
  rintro _ rfl
  apply (ensures_traceSession _ _ _).bind
  intro sessionId given
  simp only [prompt, output, priority, identified, named, latency, Option.getD_some, Option.isSome_some, if_true]
  obtain ⟨request, created, facts⟩ := InferenceRequest.create_returns environment.digest (some (row.requestId.getD ""))
    ((TraceFile.text normalizedColumns (row.cells writer) "tenant_id").getD "tenant-unknown")
    ((TraceFile.text normalizedColumns (row.cells writer) "model_id").getD generator.config.traceDefaultModel)
    ⟨formed.promptLength, formed.expectedOutputLength⟩
    (replayTs_nonneg generator.config firstTs (roundTo 6 row.timestamp)) named (some sessionId)
    (some (stablePrefixSignature environment.digest _ _ _ _)) positive
  obtain ⟨identifier, tenant, model, promptTokens, generationTokens, slaClass, session, maxLatency⟩ := facts
  apply (ensures_raising created).imp
  rintro _ rfl
  refine ⟨⟨promptTokens, generationTokens, by rw [named, slaClass], by rw [latency, maxLatency], ?_, ?_, ?_⟩, identifier⟩
  · intro tenantId filled nonempty
    rw [tenant, text_given filled nonempty rfl, Option.getD_some]
  · intro modelId filled nonempty
    rw [model, text_given filled nonempty rfl, Option.getD_some]
  · intro name filled nonempty
    rw [session, given name (text_given filled nonempty rfl)]

def limited {α : Type} (config : WorkloadConfig) (rows : List α) : List α :=
  match config.traceLimit with
  | none => rows
  | some limit => sliceTo limit rows

/-- The rows that a replay is configured to take: the first `trace_limit`, and of these the first
    `request_count` if that is positive. -/
def allowedRows {α : Type} (config : WorkloadConfig) (rows : List α) : List α := counted config (limited config rows)

theorem prefix_limited {α : Type} (config : WorkloadConfig) (rows : List α) : limited config rows <+: rows := by
  unfold limited
  split
  · exact List.prefix_rfl
  · exact List.take_prefix _ rows

theorem prefix_counted {α : Type} (config : WorkloadConfig) (rows : List α) : counted config rows <+: rows := by
  unfold counted
  split
  · exact List.take_prefix _ rows
  · exact List.prefix_rfl

theorem limitedRows_written (config : WorkloadConfig) (writer : TextConversions) (rows : List NormalizedWorkloadRow) :
    limitedRows config (normalizedTable writer rows) =
      (limited config rows).map (NormalizedWorkloadRow.cells writer) := by
  unfold limitedRows limited
  cases config.traceLimit with
  | none => rfl
  | some limit => simp [sliceTo, normalizedTable, List.map_take]

theorem forall₂_counted {α β : Type} {related : α → β → Prop} (config : WorkloadConfig) {items : List α}
    {images : List β} (all : List.Forall₂ related items images) :
    List.Forall₂ related (counted config items) (counted config images) := by
  unfold counted
  rw [all.length_eq]
  split
  · exact List.forall₂_take _ all
  · exact all

theorem ensures_firstTimestamp {rows : List NormalizedWorkloadRow}
    (reads : ∀ row ∈ rows, ReadsBack writer environment.conversions row) :
    Ensures (Configured config) (raising (firstTimestamp environment normalizedColumns
      (rows.map (NormalizedWorkloadRow.cells writer)))) (fun _ => True) := by
  cases rows with
  | nil => exact (ensures_raising rfl).imp (fun _ _ => True.intro)
  | cons first rest =>
    have parsed : TraceFile.number environment.conversions normalizedColumns (first.cells writer) "timestamp" =
        .ok (roundTo 6 first.timestamp) := number_written (reads first (by simp)).timestamp rfl
    exact (ensures_raising parsed).imp (fun _ _ => True.intro)

theorem ensures_generateRequests {rows : List NormalizedWorkloadRow} (formed : ∀ row ∈ rows, row.WellFormed)
    (reads : ∀ row ∈ rows, ReadsBack writer environment.conversions row) {path : String}
    (written : environment.traceFile path = some (normalizedTable writer rows)) :
    Ensures (Configured config) (generateRequestsFromTrace environment path)
      (List.Forall₂ ReplayedFrom (allowedRows config rows)) := by
  have inside : ∀ row ∈ limited config rows, row ∈ rows := fun row member => (prefix_limited config rows).subset member
  unfold generateRequestsFromTrace
  rw [written]
  apply (ensures_raising (show TraceFile.checkColumns _ = .ok () by rfl)).bind
  rintro _ -
  apply ensures_get_bind
  intro generator same
  rw [Configured] at same
  subst same
  simp only [limitedRows_written]
  apply (ensures_firstTimestamp (fun row member => reads row (inside row member))).bind
  rintro firstTs -
  rw [List.zipIdx_map, List.mapM_map]
  have replays : ∀ item ∈ (limited generator.config rows).zipIdx, Ensures (Configured generator.config)
      (traceRequest environment normalizedColumns firstTs (item.1.cells writer) item.2) (ReplayedFrom item.1) := by
    intro item member
    have listed := inside item.1 (List.fst_mem_of_mem_zipIdx member)
    exact ensures_traceRequest (formed item.1 listed) (reads item.1 listed) firstTs item.2
  apply (Ensures.mapM replays).bind
  intro requests all
  apply ensures_pure
  have rowwise := List.forall₂_map_left_iff.mpr all
  rw [List.zipIdx_map_fst] at rowwise
  exact forall₂_counted generator.config rowwise

theorem forall₂_replays_iff {rows : List NormalizedWorkloadRow} {requests : List InferenceRequest}
    (replayed : List.Forall₂ ReplayedFrom rows requests) :
    List.Forall₂ Replays rows requests ↔ ∀ row ∈ rows, row.requestId ≠ none := by
  induction replayed with
  | nil => simp
  | cons first _ ih => rw [List.forall₂_cons, List.forall_mem_cons, first.replays_iff, ih]

theorem writeNormalizedRows_returns_iff (pipeline : PipelineEnvironment) (rows : List NormalizedWorkloadRow) :
    writeNormalizedRows pipeline rows = .ok (normalizedTable pipeline.conversions rows) ↔
      ∀ row ∈ rows, ∀ cell ∈ row.cells pipeline.conversions, pipeline.encodes cell = true := by
  unfold writeNormalizedRows
  split
  · rename_i encodes
    simpa [NormalizedWorkloadRow.encodable] using encodes
  · rename_i encodes
    simpa [NormalizedWorkloadRow.encodable] using encodes

def SurvivesReplay (pipeline : PipelineEnvironment) (environment : GeneratorEnvironment)
    (generator : WorkloadGenerator) (rows : List NormalizedWorkloadRow) : Prop :=
  writeNormalizedRows pipeline rows = .ok (normalizedTable pipeline.conversions rows) ∧
    allowedRows generator.config rows <+: rows ∧
    ∃ requests final, generateRequests environment generator = .ok requests final ∧
      List.Forall₂ Replays (allowedRows generator.config rows) requests

section Samples

def wholeConversions : TextConversions where
  render := fun value => match value with
    | .float number => toString ⌊number⌋ ++ ".0"
    | _ => "None"
  parseInt := String.toInt?
  parseFloat := fun text => match text.toList.reverse with
    | '0' :: '.' :: digits => decimal (String.ofList digits.reverse)
    | _ => decimal text

def namedRequests (rows : List (List String)) : DatasetFile where
  csv := .ok {
    fieldnames := ["timestamp", "prompt_length", "expected_output_length", "tenant_id", "priority_class", "request_id"]
    rows }
  json := .error (.valueError "Expecting value")
  suffix := ".csv"

def wholePipeline : PipelineEnvironment where
  conversions := wholeConversions
  encodes := fun _ => true
  hashes := { text := fun text => text.length, null := 0, nan := fun _ => 0 }
  scalarHash := fun _ => 0

def wholeReplay (rows : List NormalizedWorkloadRow) : GeneratorEnvironment :=
  { traceEnvironment (normalizedTable wholeConversions rows) with conversions := wholeConversions }

def acmeRow (requestId : Option String) : NormalizedWorkloadRow where
  timestamp := 7
  requestId
  promptLength := 128
  expectedOutputLength := 64
  tenantId := some "acme"
  priorityClass := "realtime"
  modelId := some "llama-3-8b"
  sessionId := some "session-0"

end Samples

end WorkloadGenerator

end NimbusMesh
