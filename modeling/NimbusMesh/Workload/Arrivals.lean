import NimbusMesh.Workload.Generator

namespace NimbusMesh

open Foundation Foundation.Decimal Foundation.Execution

theorem InferenceRequest.create_eq_ok {digest : String → String} {requestId : Option String}
    {tenantId modelId : String} {promptTokens generationTokens : ℤ} {arrivalTs : ℚ} {slaClass : String}
    {sessionId prefixSignature : Option String} {maxLatencyMs : ℚ} {request : InferenceRequest}
    (returned : InferenceRequest.create digest requestId tenantId modelId promptTokens generationTokens arrivalTs
      slaClass sessionId prefixSignature maxLatencyMs = .ok request) : request.arrivalTs = arrivalTs := by
  unfold InferenceRequest.create at returned
  split at returned
  · cases returned
  · split at returned
    · split at returned
      · split at returned
        · cases returned
          rfl
        · cases returned
      · cases returned
    · cases returned

namespace WorkloadGenerator

variable {environment : GeneratorEnvironment}

theorem raising_eq_ok {α : Type} {outcome : Except PyError α} {generator final : WorkloadGenerator} {value : α}
    (returned : raising outcome generator = .ok value final) : outcome = .ok value ∧ final = generator := by
  unfold raising at returned
  split at returned
  · cases returned
    exact ⟨rfl, rfl⟩
  · cases returned

section Config

theorem preserves_draw {α : Type} (take : ℕ → α) : Preserves config (draw take) := by
  intro generator value final returned
  cases returned
  rfl

theorem preserves_raising {α : Type} (outcome : Except PyError α) : Preserves config (raising outcome) := by
  intro generator value final returned
  rw [(raising_eq_ok returned).2]

theorem preserves_choice {α : Type} (population : List α) : Preserves config (choice environment population) := by
  unfold choice
  split
  · exact preserves_throw _
  · apply (preserves_draw _).bind
    intro index
    split
    · exact preserves_pure _
    · exact preserves_throw _

theorem preserves_newSession (tenantId modelId : String) : Preserves config (newSession tenantId modelId) := by
  intro generator value final returned
  cases returned
  rfl

theorem preserves_pickSession (tenantId modelId : String) :
    Preserves config (pickSession environment tenantId modelId) := by
  apply preserves_get_bind
  intro generator
  split
  · exact preserves_newSession tenantId modelId
  · apply (preserves_draw _).bind
    intro unit
    split
    · exact preserves_choice _
    · exact preserves_newSession tenantId modelId

theorem preserves_traceSession (session : Option String) (tenantId modelId : String) :
    Preserves config (traceSession environment session tenantId modelId) := by
  cases session with
  | none => exact preserves_pickSession tenantId modelId
  | some sessionId => exact preserves_pure sessionId

theorem preserves_traceRequest (fieldnames : List String) (firstTs : ℚ) (row : List String) (index : ℕ) :
    Preserves config (traceRequest environment fieldnames firstTs row index) := by
  apply preserves_get_bind
  intro generator
  apply (preserves_raising _).bind
  intro rawTs
  apply (preserves_raising _).bind
  intro promptLength
  apply (preserves_raising _).bind
  intro outputLength
  apply (preserves_traceSession _ _ _).bind
  intro sessionId
  exact preserves_raising _

end Config

theorem traceRequest_arrivalTs {fieldnames : List String} {firstTs : ℚ} {row : List String} {index : ℕ}
    {generator final : WorkloadGenerator} {request : InferenceRequest}
    (returned : traceRequest environment fieldnames firstTs row index generator = .ok request final) :
    ∃ rawTs, TraceFile.number environment.conversions fieldnames row "timestamp" = .ok rawTs ∧
      request.arrivalTs = replayTs generator.config firstTs rawTs := by
  obtain ⟨_, _, reading, body⟩ := bind_eq_ok.mp returned
  rw [(get_eq_ok.mp reading).1, (get_eq_ok.mp reading).2] at body
  obtain ⟨rawTs, _, parsing, columns⟩ := bind_eq_ok.mp body
  have parsed := (raising_eq_ok parsing).1
  -- the other columns and the session
  iterate 3 obtain ⟨_, _, _, columns⟩ := bind_eq_ok.mp columns
  exact ⟨rawTs, parsed, InferenceRequest.create_eq_ok (raising_eq_ok columns).1⟩

theorem generateRequest_arrivalTs {arrivalTs : ℚ} {index : ℕ} {generator final : WorkloadGenerator}
    {request : InferenceRequest}
    (returned : generateRequest environment arrivalTs index generator = .ok request final) :
    request.arrivalTs = roundTo 4 arrivalTs := by
  -- the configuration and the draws before the request is built
  iterate 9 obtain ⟨_, _, _, returned⟩ := bind_eq_ok.mp returned
  exact InferenceRequest.create_eq_ok (raising_eq_ok returned).1

def arrivals (requests : List InferenceRequest) : List ℚ := requests.map InferenceRequest.arrivalTs

def Forward (requests : List InferenceRequest) : Prop :=
  (arrivals requests).Pairwise (· ≤ ·) ∧ ∀ request ∈ requests, 0 ≤ request.arrivalTs

theorem forward_iff {requests : List InferenceRequest} :
    Forward requests ↔ (arrivals requests).Pairwise (· ≤ ·) :=
  ⟨fun forward => forward.1, fun ordered => ⟨ordered, fun request _ => request.arrival_nonneg⟩⟩

theorem pairwise_roundTo {times : List ℚ} (ordered : times.Pairwise (· ≤ ·)) :
    (times.map (roundTo 4)).Pairwise (· ≤ ·) := by
  rw [List.pairwise_map]
  exact ordered.imp (fun le => roundTo_mono 4 le)

/-- Evenly spaced arrivals are in order. With a negative duration they go backwards, but then the
    requests that can be built all arrive at zero. -/
theorem uniformArrivals_ordered (config : WorkloadConfig)
    (nonneg : ∀ arrival ∈ (uniformArrivals config).map (roundTo 4), 0 ≤ arrival) :
    ((uniformArrivals config).map (roundTo 4)).Pairwise (· ≤ ·) := by
  rcases le_or_gt 0 (config.durationS / (max 1 config.requestCount : ℤ)) with forward | backward
  · apply pairwise_roundTo
    rw [uniformArrivals, List.pairwise_map]
    apply List.pairwise_lt_range.imp
    intro i j less
    have le : (i : ℚ) ≤ j := by exact_mod_cast less.le
    gcongr
  · have zero : ∀ arrival ∈ (uniformArrivals config).map (roundTo 4), arrival = 0 := by
      intro arrival member
      obtain ⟨time, inside, rfl⟩ := List.mem_map.mp member
      obtain ⟨i, _, rfl⟩ := List.mem_map.mp inside
      apply le_antisymm _ (nonneg _ member)
      rw [← roundTo_zero 4]
      exact roundTo_mono 4 (mul_nonpos_of_nonneg_of_nonpos (by positivity) backward.le)
    apply List.pairwise_of_forall_mem_list
    intro first left second right
    rw [zero first left, zero second right]

theorem poissonArrivals_ordered {duration rate : ℚ} (positive : 0 < rate) {remaining : ℕ} {reached : ℚ}
    {generator final : WorkloadGenerator} {times : List ℚ}
    (returned : poissonArrivals environment duration rate remaining reached generator = .ok times final) :
    times.Pairwise (· ≤ ·) ∧ ∀ time ∈ times, min duration reached ≤ time := by
  induction remaining generalizing reached generator final times with
  | zero =>
    rw [(pure_eq_ok.mp returned).1]
    exact ⟨List.Pairwise.nil, by simp⟩
  | succ remaining ih =>
    obtain ⟨gap, next, drawing, returned⟩ := bind_eq_ok.mp returned
    obtain ⟨later, _, continued, finished⟩ := bind_eq_ok.mp returned
    obtain ⟨rfl, _⟩ := pure_eq_ok.mp finished
    cases drawing
    obtain ⟨ordered, after⟩ := ih continued
    have nonneg := environment.draws.expovariate_nonneg generator.drawn rate positive
    have step : min duration reached ≤
        min duration (reached + environment.draws.expovariate generator.drawn rate) :=
      min_le_min_left _ (by linarith)
    refine ⟨List.pairwise_cons.mpr ⟨after, ordered⟩, ?_⟩
    intro time member
    rcases List.mem_cons.mp member with rfl | inLater
    · exact step
    · exact step.trans (after time inLater)

theorem generateArrivals_ordered {generator final : WorkloadGenerator} {times : List ℚ}
    (returned : generateArrivals environment generator = .ok times final)
    (nonneg : ∀ arrival ∈ times.map (roundTo 4), 0 ≤ arrival) :
    (times.map (roundTo 4)).Pairwise (· ≤ ·) := by
  obtain ⟨_, _, reading, arriving⟩ := bind_eq_ok.mp returned
  rw [(get_eq_ok.mp reading).1, (get_eq_ok.mp reading).2] at arriving
  cases pattern : generator.config.arrivalPattern with
  | uniform =>
    rw [pattern] at arriving
    obtain ⟨rfl, _⟩ := pure_eq_ok.mp arriving
    exact uniformArrivals_ordered _ nonneg
  | bursty =>
    rw [pattern] at arriving
    obtain ⟨drawn, _, _, sorting⟩ := bind_eq_ok.mp arriving
    obtain ⟨rfl, _⟩ := pure_eq_ok.mp sorting
    exact pairwise_roundTo (List.pairwise_insertionSort (· ≤ ·) drawn)
  | poisson =>
    rw [pattern] at arriving
    rcases le_or_gt generator.config.requestCount 0 with none | some
    · rw [Int.toNat_of_nonpos none] at arriving
      rw [(pure_eq_ok.mp arriving).1]
      exact List.Pairwise.nil
    · apply pairwise_roundTo
      apply (poissonArrivals_ordered _ arriving).1
      have count : (0 : ℚ) < generator.config.requestCount := by exact_mod_cast some
      exact div_pos count (lt_of_lt_of_le (by norm_num) (le_max_right _ _))

section Replay

variable (environment)

def timestamp (fieldnames row : List String) : ℚ :=
  (TraceFile.number environment.conversions fieldnames row "timestamp").toOption.getD 0

/-- The times at which the rows that a replay returns are replayed, in the order of the file. -/
def replayed (config : WorkloadConfig) (file : TraceFile) : List ℚ :=
  let rows := limitedRows config file
  let firstTs := (rows.head?.map (timestamp environment file.fieldnames)).getD 0
  (counted config rows).map (fun row => replayTs config firstTs (timestamp environment file.fieldnames row))

variable {environment}

theorem counted_map {α β : Type} (config : WorkloadConfig) (f : α → β) (items : List α) :
    counted config (items.map f) = (counted config items).map f := by
  unfold counted
  rw [List.length_map]
  split
  · rw [List.map_take]
  · rfl

theorem counted_sublist {α : Type} (config : WorkloadConfig) (items : List α) :
    (counted config items).Sublist items := by
  unfold counted
  split
  · exact List.take_sublist _ items
  · exact List.Sublist.refl items

theorem generateRequestsFromTrace_arrivals {tracePath : String} {generator final : WorkloadGenerator}
    {requests : List InferenceRequest}
    (returned : generateRequestsFromTrace environment tracePath generator = .ok requests final) :
    ∃ file, environment.traceFile tracePath = some file ∧
      arrivals requests = replayed environment generator.config file := by
  unfold generateRequestsFromTrace at returned
  cases found : environment.traceFile tracePath with
  | none =>
    rw [found] at returned
    cases returned
  | some file =>
    simp only [found] at returned
    refine ⟨file, rfl, ?_⟩
    obtain ⟨_, _, checking, body⟩ := bind_eq_ok.mp returned
    rw [(raising_eq_ok checking).2] at body
    obtain ⟨_, _, reading, replay⟩ := bind_eq_ok.mp body
    rw [(get_eq_ok.mp reading).1, (get_eq_ok.mp reading).2] at replay
    obtain ⟨firstTs, _, starting, loop⟩ := bind_eq_ok.mp replay
    obtain ⟨first, same⟩ := raising_eq_ok starting
    rw [same] at loop
    obtain ⟨all, _, replaying, finished⟩ := bind_eq_ok.mp loop
    obtain ⟨rfl, _⟩ := pure_eq_ok.mp finished
    have started : firstTs = ((limitedRows generator.config file).head?.map
        (timestamp environment file.fieldnames)).getD 0 := by
      cases rows : limitedRows generator.config file with
      | nil =>
        rw [rows] at first
        cases first
        rfl
      | cons row rest =>
        rw [rows] at first
        simp only [List.head?_cons, Option.map_some, Option.getD_some, timestamp]
        rw [show TraceFile.number environment.conversions file.fieldnames row "timestamp" = .ok firstTs from first]
        rfl
    have times := mapM_outputs (fun state => state.config = generator.config) InferenceRequest.arrivalTs
      (fun item => replayTs generator.config firstTs (timestamp environment file.fieldnames item.1))
      (by
        intro item state request next same stepped
        obtain ⟨rawTs, parsed, arrives⟩ := traceRequest_arrivalTs stepped
        refine ⟨(preserves_traceRequest _ _ _ _ _ _ _ stepped).trans same, ?_⟩
        rw [arrives, same, timestamp, parsed]
        rfl) rfl replaying
    have rows : (limitedRows generator.config file).zipIdx.map Prod.fst = limitedRows generator.config file :=
      List.zipIdx_map_fst 0 _
    rw [arrivals, ← counted_map, times, replayed, ← started, ← counted_map]
    congr 1
    conv_rhs => rw [← rows]
    rw [List.map_map]
    rfl

theorem replayTs_mono (config : WorkloadConfig) (firstTs : ℚ) {early late : ℚ} (le : early ≤ late) :
    replayTs config firstTs early ≤ replayTs config firstTs late := by
  apply roundTo_mono 4
  apply max_le_max_left
  have positive : (0 : ℚ) < max 1e-9 config.traceReplaySpeed := lt_of_lt_of_le (by norm_num) (le_max_left _ _)
  gcongr

theorem replayed_of_sorted {config : WorkloadConfig} {file : TraceFile}
    (sorted : ((limitedRows config file).map (timestamp environment file.fieldnames)).Pairwise (· ≤ ·)) :
    (replayed environment config file).Pairwise (· ≤ ·) := by
  rw [List.pairwise_map] at sorted
  rw [replayed, List.pairwise_map]
  exact (sorted.sublist (counted_sublist config _)).imp (fun le => replayTs_mono config _ le)

end Replay

theorem generateRequests_arrivals {generator final : WorkloadGenerator} {requests : List InferenceRequest}
    (returned : generateRequests environment generator = .ok requests final) :
    (∃ tracePath file, replayedPath generator.config = some tracePath ∧
      environment.traceFile tracePath = some file ∧
      arrivals requests = replayed environment generator.config file) ∨
    (replayedPath generator.config = none ∧ ∃ times state,
      generateArrivals environment generator = .ok times state ∧ arrivals requests = times.map (roundTo 4)) := by
  obtain ⟨_, _, reading, body⟩ := bind_eq_ok.mp returned
  rw [(get_eq_ok.mp reading).1, (get_eq_ok.mp reading).2] at body
  cases traced : replayedPath generator.config with
  | some tracePath =>
    rw [traced] at body
    obtain ⟨file, found, times⟩ := generateRequestsFromTrace_arrivals body
    exact .inl ⟨tracePath, file, rfl, found, times⟩
  | none =>
    rw [traced] at body
    obtain ⟨times, state, arriving, building⟩ := bind_eq_ok.mp body
    refine .inr ⟨rfl, times, state, arriving, ?_⟩
    have rounded := mapM_outputs (fun _ => True) InferenceRequest.arrivalTs (fun item => roundTo 4 item.1)
      (by
        intro item state request next _ stepped
        exact ⟨True.intro, generateRequest_arrivalTs stepped⟩) True.intro building
    have unindexed : times.zipIdx.map Prod.fst = times := List.zipIdx_map_fst 0 times
    rw [arrivals, rounded]
    conv_rhs => rw [← unindexed]
    rw [List.map_map]
    rfl

theorem generateRequests_onGrid {generator final : WorkloadGenerator} {requests : List InferenceRequest}
    (returned : generateRequests environment generator = .ok requests final) :
    ∀ request ∈ requests, OnGrid 4 request.arrivalTs := by
  intro request member
  have arrived : request.arrivalTs ∈ arrivals requests := List.mem_map_of_mem member
  rcases generateRequests_arrivals returned with ⟨_, file, _, _, times⟩ | ⟨_, times, _, _, rounded⟩
  · rw [times] at arrived
    obtain ⟨row, _, replay⟩ := List.mem_map.mp arrived
    rw [← replay]
    exact onGrid_roundTo 4 _
  · rw [rounded] at arrived
    obtain ⟨time, _, rounding⟩ := List.mem_map.mp arrived
    rw [← rounding]
    exact onGrid_roundTo 4 time

/-- The requests of a workload that is not replayed arrive in order. Those of a replay do exactly
    when the replay times of the rows it returns go forward in the order of the file. -/
theorem generateRequests_forward_iff (environment : GeneratorEnvironment) (generator final : WorkloadGenerator)
    (requests : List InferenceRequest)
    (returned : generateRequests environment generator = .ok requests final) :
    Forward requests ↔ ∀ tracePath ∈ replayedPath generator.config,
      ∀ file ∈ environment.traceFile tracePath,
        (replayed environment generator.config file).Pairwise (· ≤ ·) := by
  rw [forward_iff]
  rcases generateRequests_arrivals returned with ⟨tracePath, file, traced, found, times⟩ |
    ⟨traced, times, state, arriving, rounded⟩
  · simp [traced, found, times]
  · have ordered : (arrivals requests).Pairwise (· ≤ ·) := by
      rw [rounded]
      apply generateArrivals_ordered arriving
      intro arrival member
      rw [← rounded] at member
      obtain ⟨request, _, rfl⟩ := List.mem_map.mp member
      exact request.arrival_nonneg
    simp [traced, ordered]

def traceOf (timestamps : List String) : TraceFile where
  fieldnames := TraceFile.required
  rows := timestamps.map (fun timestamp => [timestamp, "r1", "100", "50", "tenant-a", "interactive"])

def decimal (text : String) : Option ℚ :=
  if text.toList.all Char.isDigit ∧ text ≠ "" then
    some ((text.toList.foldl (fun value digit => value * 10 + (digit.toNat - 48)) 0 : ℕ) : ℚ)
  else none

def traceEnvironment (file : TraceFile) : GeneratorEnvironment where
  draws := {
    random := fun _ => 1 / 2
    below := fun _ _ => 0
    expovariate := fun _ rate => 1 / rate
    gauss := fun _ mean _ => mean
    lognormvariate := fun _ mean _ => .ok mean
    random_unit := fun _ => by norm_num
    below_lt := fun _ _ positive => positive
    expovariate_nonneg := fun _ _ positive => (one_div_pos.mpr positive).le
    lognormvariate_returns := fun _ mean _ _ _ => ⟨mean, rfl⟩ }
  digest := fun text => text
  conversions := {
    render := fun _ => ""
    parseInt := String.toInt?
    parseFloat := decimal }
  traceFile := fun _ => some file

def replayConfig : WorkloadConfig where
  requestCount := 10
  tenantWeights := KeyedList.empty
  modelMix := KeyedList.empty
  slaMix := KeyedList.empty
  tracePath := some "trace.csv"

theorem generateRequests_forward_sorted :
    let environment := traceEnvironment (traceOf ["20", "25", "30"])
    ∃ requests final, generateRequests environment { config := replayConfig } = .ok requests final ∧
      arrivals requests = [0, 5, 10] ∧ Forward requests := by
  intro environment
  have returns : (valueOf (generateRequests environment { config := replayConfig })).map arrivals =
      some [0, 5, 10] := by decide +kernel
  obtain ⟨requests, value, times⟩ := Option.map_eq_some_iff.mp returns
  obtain ⟨final, returned⟩ := valueOf_eq_some.mp value
  refine ⟨requests, final, returned, times, ?_⟩
  apply (generateRequests_forward_iff environment _ final requests returned).mpr
  intro tracePath _ file found
  cases found
  exact replayed_of_sorted (by decide +kernel)

/-- Rows with the timestamps 0, 10 and 5 are replayed in this order: time runs backwards. -/
theorem replay_runs_backwards :
    ∃ requests final,
      generateRequests (traceEnvironment (traceOf ["0", "10", "5"])) { config := replayConfig } =
        .ok requests final ∧
      arrivals requests = [0, 10, 5] ∧ ¬ Forward requests := by
  have returns : (valueOf (generateRequests (traceEnvironment (traceOf ["0", "10", "5"]))
      { config := replayConfig })).map arrivals = some [0, 10, 5] := by decide +kernel
  obtain ⟨requests, value, times⟩ := Option.map_eq_some_iff.mp returns
  obtain ⟨final, returned⟩ := valueOf_eq_some.mp value
  refine ⟨requests, final, returned, times, ?_⟩
  rw [forward_iff, times]
  decide +kernel

end WorkloadGenerator

end NimbusMesh
