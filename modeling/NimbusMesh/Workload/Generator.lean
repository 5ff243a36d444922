import Mathlib.Data.List.Sort
import NimbusMesh.Foundation.Execution
import NimbusMesh.Storage.RedisStore

namespace NimbusMesh

open Foundation Foundation.Decimal Foundation.Execution

/-- Any other name of a pattern is taken as `poisson`. -/
inductive ArrivalPattern where
  | uniform
  | bursty
  | poisson

/-- Any other name of a distribution is taken as `lognormal`. -/
inductive TokenDistribution where
  | uniform
  | normal
  | lognormal

structure DistributionConfig where
  distribution : TokenDistribution := .lognormal
  mean : ℚ := 1024.0
  sigma : ℚ := 0.7
  min : ℤ := 32
  max : ℤ := 32768

structure WorkloadConfig where
  requestCount : ℤ
  durationS : ℚ := 60.0
  arrivalPattern : ArrivalPattern := .poisson
  promptTokens : DistributionConfig := {}
  generationTokens : DistributionConfig := {}
  tenantWeights : Dict String ℚ
  modelMix : Dict String ℚ
  slaMix : Dict String ℚ
  tracePath : Option String := none
  traceReplaySpeed : ℚ := 1.0
  traceDefaultModel : String := "llama-3-8b"
  traceDefaultSla : String := "interactive"
  traceLimit : Option ℤ := none
  sessionReuseProbability : ℚ := 0.4
  burstFactor : ℚ := 1.0
  cacheHostility : ℚ := 0.0

/-- The random source: what each call would return were it the next one, within the range of the call. A log-normal
    draw is given by the mean whose logarithm it is called with. It is the exponential of a draw at most 12.2 standard
    deviations off, which overflows beyond 709.7. -/
structure Draws where
  random : ℕ → ℚ
  below : ℕ → ℕ → ℕ
  expovariate : ℕ → ℚ → ℚ
  gauss : ℕ → ℚ → ℚ → ℚ
  lognormvariate : ℕ → ℚ → ℚ → Except PyError ℚ
  random_unit : ∀ i, 0 ≤ random i ∧ random i < 1
  below_lt : ∀ i n, 0 < n → below i n < n
  expovariate_nonneg : ∀ i rate, 0 < rate → 0 ≤ expovariate i rate
  lognormvariate_returns : ∀ i mean sigma, mean ≤ 10 ^ 90 → |sigma| ≤ 40 →
    ∃ value, lognormvariate i mean sigma = .ok value

/-- A trace as its CSV reader gives it: the header, and the cells of every row that is not blank. -/
structure TraceFile where
  fieldnames : List String
  rows : List (List String)

/-- What the generator is given: the random source, the digest of a text, the conversions of a
    text to a number, and the trace files. -/
structure GeneratorEnvironment where
  draws : Draws
  digest : String → String
  conversions : TextConversions
  traceFile : String → Option TraceFile

structure WorkloadGenerator where
  config : WorkloadConfig
  drawn : ℕ := 0
  sessions : Dict (String × String) (List String) := KeyedList.empty

def slaNamed : String → Option SlaClass
  | "realtime" => some .realtime
  | "interactive" => some .interactive
  | "best_effort" => some .bestEffort
  | _ => none

def slaLatencyMs : List (String × ℚ) :=
  [("realtime", 900.0), ("interactive", 1800.0), ("best_effort", 4200.0)]

def latencyFor (slaClass : String) : Except PyError ℚ :=
  match slaLatencyMs.lookup slaClass with
  | some maxLatencyMs => .ok maxLatencyMs
  | none => .error (.keyError slaClass)

def stablePrefixSignature (digest : String → String) (tenantId modelId : String)
    (sessionId : Option String) (salt : String) : String :=
  let session := match sessionId with
    | none => "anon"
    | some "" => "anon"
    | some name => name
  digest s!"{tenantId}:{modelId}:{session}:{salt}"

def InferenceRequest.create (digest : String → String) (requestId : Option String) (tenantId modelId : String)
    (promptTokens generationTokens : ℤ) (arrivalTs : ℚ) (slaClass : String) (sessionId : Option String)
    (prefixSignature : Option String) (maxLatencyMs : ℚ) : Except PyError InferenceRequest :=
  match slaNamed slaClass with
  | none => .error (.valueError s!"Unsupported SLA class: {slaClass}")
  | some slaClass =>
    if tokens_positive : 0 < promptTokens ∧ 0 < generationTokens then
      if arrival_nonneg : 0 ≤ arrivalTs then
        if latency_positive : 0 < maxLatencyMs then
          .ok {
            requestId, tenantId, modelId, promptTokens, generationTokens, arrivalTs, slaClass, sessionId
            prefixSignature := prefixSignature.getD (stablePrefixSignature digest tenantId modelId sessionId
              s!"{promptTokens / 128}:{generationTokens / 64}")
            maxLatencyMs, tokens_positive, arrival_nonneg, latency_positive }
        else .error (.valueError "max_latency_ms must be positive.")
      else .error (.valueError "arrival_ts must be non-negative.")
    else .error (.valueError "Token counts must be positive.")

def zeroPadded (width n : ℕ) : String :=
  let digits := toString n
  "".pushn '0' (width - digits.length) ++ digits

/-- The index at which a value would be inserted into a sorted list, after its equals. -/
def bisect (values : List ℚ) (x : ℚ) : ℕ → ℕ → ℕ → ℕ
  | 0, low, _ => low
  | fuel + 1, low, high =>
    if low < high then
      let middle := (low + high) / 2
      if x < values.getD middle 0 then bisect values x fuel low middle
      else bisect values x fuel (middle + 1) high
    else low

/-- The slice `rows[:limit]`, where a negative limit counts from the end. -/
def sliceTo {α : Type} (limit : ℤ) (rows : List α) : List α :=
  rows.take (if 0 ≤ limit then limit else rows.length + limit).toNat

namespace TraceFile

def required : List String :=
  ["timestamp", "request_id", "prompt_length", "expected_output_length", "tenant_id", "priority_class"]

/-- The cell of a row in the last column of that name: `none` in a row that is too short. -/
def cell (fieldnames row : List String) (name : String) : Option (Option String) :=
  (fieldnames.zip (row.map some ++ List.replicate (fieldnames.length - row.length) none)).reverse.lookup name

def text (fieldnames row : List String) (name : String) : Option String :=
  match cell fieldnames row name with
  | some (some value) => if value = "" then none else some value
  | _ => none

def number (conversions : TextConversions) (fieldnames row : List String) (name : String) :
    Except PyError ℚ :=
  match cell fieldnames row name with
  | none => .error (.keyError name)
  | some none => conversions.toFloat .null
  | some (some value) => conversions.toFloat (.str value)

def checkColumns (file : TraceFile) : Except PyError Unit :=
  let missing := (required.filter (fun name => name ∉ file.fieldnames)).insertionSort (· ≤ ·)
  if missing = [] then .ok ()
  else
    let names := ", ".intercalate (missing.map (fun name => "'" ++ name ++ "'"))
    .error (.valueError ("Trace file is missing required columns: [" ++ names ++ "]"))

end TraceFile

namespace WorkloadGenerator

variable (environment : GeneratorEnvironment)

def draw {α : Type} (take : ℕ → α) : EStateM PyError WorkloadGenerator α :=
  fun generator => .ok (take generator.drawn) { generator with drawn := generator.drawn + 1 }

def raising {α : Type} (outcome : Except PyError α) : EStateM PyError WorkloadGenerator α :=
  fun generator =>
    match outcome with
    | .ok value => .ok value generator
    | .error raised => .error raised generator

def random : EStateM PyError WorkloadGenerator ℚ := draw environment.draws.random

def uniform (low high : ℚ) : EStateM PyError WorkloadGenerator ℚ := do
  let unit ← random environment
  return low + (high - low) * unit

/-- A uniform draw between two integers, which are converted only after the random number is drawn. -/
def uniformTokens (low high : ℤ) : EStateM PyError WorkloadGenerator ℚ := do
  let unit ← random environment
  let span ← raising (asFloat (high - low))
  let first ← raising (asFloat low)
  return first + span * unit

def choice {α : Type} (population : List α) : EStateM PyError WorkloadGenerator α := do
  if population.isEmpty then throw (.indexError "Cannot choose from an empty sequence")
  else
    let index ← draw (fun i => environment.draws.below i population.length)
    match population[index]? with
    | some chosen => return chosen
    | none => throw (.indexError "list index out of range")

def weightedChoice (weights : Dict String ℚ) : EStateM PyError WorkloadGenerator String := do
  let population := weights.toList.map Prod.fst
  let cumWeights := ((Dict.values weights).scanl (· + ·) 0).tail
  -- a sum beyond the floats is infinite and stays so
  match (cumWeights.find? (fun reached => (floatLimit : ℚ) ≤ |reached|)).or cumWeights.getLast? with
  | none => throw (.indexError "list index out of range")
  | some total =>
    if total ≤ 0 then throw (.valueError "Total of weights must be greater than zero")
    else if floatLimit ≤ total then throw (.valueError "Total of weights must be finite")
    else
      let unit ← random environment
      let last := population.length - 1
      match population[bisect cumWeights (unit * total) population.length 0 last]? with
      | some chosen => return chosen
      | none => throw (.indexError "list index out of range")

def sampleValue (distribution : DistributionConfig) : EStateM PyError WorkloadGenerator ℚ :=
  match distribution.distribution with
  | .uniform => uniformTokens environment distribution.min distribution.max
  | .normal => draw (fun i =>
      environment.draws.gauss i distribution.mean (distribution.sigma * distribution.mean))
  | .lognormal => do
    let drawn ← draw (fun i => environment.draws.lognormvariate i (max 1 distribution.mean) distribution.sigma)
    raising drawn

def sampleTokens (distribution : DistributionConfig) : EStateM PyError WorkloadGenerator ℤ := do
  let value ← sampleValue environment distribution
  return truncate (max distribution.min (min distribution.max value))

def sessionsOf (generator : WorkloadGenerator) (tenantId modelId : String) : List String :=
  (Dict.lookup generator.sessions (tenantId, modelId)).getD []

def newSession (tenantId modelId : String) : EStateM PyError WorkloadGenerator String :=
  fun generator =>
    let known := generator.sessionsOf tenantId modelId
    let sessionId := s!"{tenantId}-{modelId}-" ++ zeroPadded 4 known.length
    .ok sessionId { generator with
      sessions := Dict.set generator.sessions (tenantId, modelId) (known ++ [sessionId]) }

def pickSession (tenantId modelId : String) : EStateM PyError WorkloadGenerator String := do
  let generator ← get
  if generator.sessionsOf tenantId modelId = [] then newSession tenantId modelId
  else
    let unit ← random environment
    if unit < generator.config.sessionReuseProbability then
      choice environment (generator.sessionsOf tenantId modelId)
    else newSession tenantId modelId

def uniformArrivals (config : WorkloadConfig) : List ℚ :=
  (List.range config.requestCount.toNat).map (fun i : ℕ =>
    (i : ℚ) * (config.durationS / (max 1 config.requestCount : ℤ)))

def burstWindows (duration : ℚ) : List (ℚ × ℚ) :=
  [(duration * 0.2, duration * 0.3), (duration * 0.55, duration * 0.65), (duration * 0.8, duration * 0.9)]

def burstyArrival (config : WorkloadConfig) : EStateM PyError WorkloadGenerator ℚ := do
  let unit ← random environment
  if unit < min 0.75 (0.35 * config.burstFactor) then
    let window ← choice environment (burstWindows config.durationS)
    uniform environment window.1 window.2
  else uniform environment 0 config.durationS

/-- The poisson loop: how many arrivals are left and the time it has reached. -/
def poissonArrivals (duration rate : ℚ) : ℕ → ℚ → EStateM PyError WorkloadGenerator (List ℚ)
  | 0, _ => return []
  | remaining + 1, reached => do
    let gap ← draw (fun i => environment.draws.expovariate i rate)
    let later ← poissonArrivals duration rate remaining (reached + gap)
    return min duration (reached + gap) :: later

def generateArrivals : EStateM PyError WorkloadGenerator (List ℚ) := do
  let config := (← get).config
  match config.arrivalPattern with
  | .uniform => return uniformArrivals config
  | .bursty =>
    let arrivals ← (List.range config.requestCount.toNat).mapM (fun _ => burstyArrival environment config)
    return arrivals.insertionSort (· ≤ ·)
  | .poisson =>
    let rate := config.requestCount / max config.durationS 1e-9
    poissonArrivals environment config.durationS rate config.requestCount.toNat 0

def generateRequest (arrivalTs : ℚ) (index : ℕ) : EStateM PyError WorkloadGenerator InferenceRequest := do
  let config := (← get).config
  let tenantId ← weightedChoice environment config.tenantWeights
  let modelId ← weightedChoice environment config.modelMix
  let slaClass ← weightedChoice environment config.slaMix
  let sessionId ← pickSession environment tenantId modelId
  let promptTokens ← sampleTokens environment config.promptTokens
  let generationTokens ← sampleTokens environment config.generationTokens
  let hostile ← random environment
  let prefixSignature :=
    if hostile < config.cacheHostility then
      stablePrefixSignature environment.digest tenantId modelId none s!"hostile-{index}"
    else stablePrefixSignature environment.digest tenantId modelId (some sessionId)
      s!"{promptTokens / 256}:{generationTokens / 128}"
  let maxLatencyMs ← raising (latencyFor slaClass)
  raising (InferenceRequest.create environment.digest (some ("req-" ++ zeroPadded 6 index)) tenantId modelId
    promptTokens generationTokens (roundTo 4 arrivalTs) slaClass (some sessionId) (some prefixSignature)
    maxLatencyMs)

def replayTs (config : WorkloadConfig) (firstTs rawTs : ℚ) : ℚ :=
  roundTo 4 (max 0 ((rawTs - firstTs) / max 1e-9 config.traceReplaySpeed))

def traceSession (session : Option String) (tenantId modelId : String) :
    EStateM PyError WorkloadGenerator String :=
  match session with
  | some sessionId => return sessionId
  | none => pickSession environment tenantId modelId

def traceRequest (fieldnames : List String) (firstTs : ℚ) (row : List String) (index : ℕ) :
    EStateM PyError WorkloadGenerator InferenceRequest := do
  let config := (← get).config
  let number := TraceFile.number environment.conversions fieldnames row
  let text := TraceFile.text fieldnames row
  let rawTs ← raising (number "timestamp")
  let promptLength ← raising (number "prompt_length")
  let promptTokens := max 1 (truncate promptLength)
  let outputLength ← raising (number "expected_output_length")
  let generationTokens := max 1 (truncate outputLength)
  let tenantId := (text "tenant_id").getD "tenant-unknown"
  let slaClass := (text "priority_class").getD config.traceDefaultSla
  let modelId := (text "model_id").getD config.traceDefaultModel
  let sessionId ← traceSession environment (text "session_id") tenantId modelId
  let prefixSignature := stablePrefixSignature environment.digest tenantId modelId (some sessionId)
    s!"{promptTokens / 256}:{generationTokens / 128}"
  let maxLatencyMs := (slaLatencyMs.lookup slaClass).getD 1800.0
  let requestId := (TraceFile.cell fieldnames row "request_id").getD (some ("trace-" ++ zeroPadded 6 index))
  raising (InferenceRequest.create environment.digest requestId tenantId modelId promptTokens generationTokens
    (replayTs config firstTs rawTs) (if (slaNamed slaClass).isSome then slaClass else "interactive")
    (some sessionId) (some prefixSignature) maxLatencyMs)

def limitedRows (config : WorkloadConfig) (file : TraceFile) : List (List String) :=
  match config.traceLimit with
  | none => file.rows
  | some limit => sliceTo limit file.rows

def firstTimestamp (fieldnames : List String) : List (List String) → Except PyError ℚ
  | [] => .ok 0
  | first :: _ => TraceFile.number environment.conversions fieldnames first "timestamp"

def counted {α : Type} (config : WorkloadConfig) (requests : List α) : List α :=
  if 0 < config.requestCount ∧ config.requestCount < requests.length then
    requests.take config.requestCount.toNat
  else requests

def generateRequestsFromTrace (tracePath : String) :
    EStateM PyError WorkloadGenerator (List InferenceRequest) := do
  match environment.traceFile tracePath with
  | none => throw (.fileNotFoundError s!"Trace file not found: {tracePath}")
  | some file =>
    raising file.checkColumns
    let config := (← get).config
    let rows := limitedRows config file
    let firstTs ← raising (firstTimestamp environment file.fieldnames rows)
    let requests ← rows.zipIdx.mapM (fun item =>
      traceRequest environment file.fieldnames firstTs item.1 item.2)
    return counted config requests

/-- The trace to replay, if the path of one is given and not empty. -/
def replayedPath (config : WorkloadConfig) : Option String := config.tracePath.filter (fun path => path ≠ "")

def generateRequests : EStateM PyError WorkloadGenerator (List InferenceRequest) := do
  match replayedPath (← get).config with
  | some tracePath => generateRequestsFromTrace environment tracePath
  | none =>
    let arrivals ← generateArrivals environment
    arrivals.zipIdx.mapM (fun item => generateRequest environment item.1 item.2)

end WorkloadGenerator

end NimbusMesh
