import NimbusMesh.Cache.Scoring
import NimbusMesh.Cache.Visibility
import NimbusMesh.ControlPlane.NonnegativeCosts
import NimbusMesh.Metrics.Quantiles
import NimbusMesh.Simulators.UnitCost

namespace NimbusMesh

open Foundation Foundation.Decimal Foundation.Execution

namespace KVCacheDirectory

theorem bestHit_range {ttlS : ℚ} {clusterId poolId : String} {promptTokens : ℤ} {now : ℚ} {entries : List CacheEntry}
    {best found : ℚ × ℤ} (returned : bestHit ttlS clusterId poolId promptTokens now entries best = .ok found)
    (least : 0 ≤ best.1) (most : best.1 ≤ 0.95) : 0 ≤ found.1 ∧ found.1 ≤ 0.95 := by
  induction entries generalizing best with
  | nil =>
    cases returned
    exact ⟨least, most⟩
  | cons entry rest ih =>
    unfold bestHit at returned
    split at returned
    · exact ih returned least most
    · split at returned
      · cases returned
      · apply ih returned
        · split
          · exact (CacheEntry.hitRatio_bounds entry ttlS clusterId poolId now).1.le
          · exact least
        · split
          · exact CacheEntry.hitRatio_le entry ttlS clusterId poolId now
          · exact most

theorem score_range {request : InferenceRequest} {clusterId poolId : String} {now : ℚ}
    {directory final : KVCacheDirectory} {cache : ℚ × ℤ}
    (returned : score request clusterId poolId now directory = .ok cache final) : 0 ≤ cache.1 ∧ cache.1 ≤ 0.95 := by
  unfold score at returned
  split at returned
  · cases returned
  · split at returned
    · cases returned
    · rename_i best hit
      cases returned
      obtain ⟨least, most⟩ := bestHit_range hit (le_refl 0) (by norm_num)
      have cap : roundTo 4 (0.95 : ℚ) = 0.95 := by decide +kernel
      exact ⟨roundTo_nonneg 4 least, (roundTo_mono 4 most).trans cap.le⟩

end KVCacheDirectory

/-- An admitted result starts no earlier than its request arrives and ends no earlier than it starts. Neither its
    wait, prefill and decode nor its memory and network cost is negative, and it took at least each of the three. -/
structure RequestResult.InRange (result : RequestResult) : Prop where
  starts : result.request.arrivalTs ≤ result.actualStartTs
  completes : result.actualStartTs ≤ result.completionTs
  delay : 0 ≤ result.queueDelayMs
  delay_le : result.queueDelayMs ≤ result.totalLatencyMs
  prefill : 0 ≤ result.prefillLatencyMs
  decode : 0 ≤ result.decodeLatencyMs
  prefill_le : result.prefillLatencyMs ≤ result.totalLatencyMs
  decode_le : result.decodeLatencyMs ≤ result.totalLatencyMs
  memory : 0 ≤ result.memoryGb
  network : 0 ≤ result.networkCost
  hit_nonneg : 0 ≤ result.cacheHitRatio
  hit_le : result.cacheHitRatio ≤ 0.95

theorem ControlPlane.NonnegativeCosts.inRange {plane final : ControlPlane} (costs : ControlPlane.NonnegativeCosts plane)
    {request : InferenceRequest} {result : RequestResult}
    (returned : ControlPlane.execute request request.arrivalTs plane = .ok result final)
    (admitted : result.admitted = true) : result.InRange := by
  obtain ⟨cluster, pool, cache, candidate, call, slotIndex, placed⟩ := ControlPlane.execute_admitted returned admitted
  obtain ⟨prefill, decode, network⟩ := costs.nonnegLatency placed
  obtain ⟨_, _, _, _, _, _, _, answer⟩ := placed.answers
  have hit : result.cacheHitRatio = cache.1 := by
    obtain ⟨affinity, _, built⟩ := except_bind_eq_ok.mp placed.assembled
    obtain ⟨routeCost, _, built⟩ := except_bind_eq_ok.mp built
    obtain ⟨backend, _, built⟩ := except_bind_eq_ok.mp built
    obtain ⟨delay, _, built⟩ := except_bind_eq_ok.mp built
    have ratio : call.candidate.expectedCacheHitRatio = candidate.expectedCacheHitRatio := by
      rw [placed.enriched]
      rfl
    cases built
    rw [placed.result]
    exact ratio
  have range := KVCacheDirectory.score_range answer
  have delay : 0 ≤ max 0 (call.startTs pool slotIndex - call.now) * 1000.0 :=
    mul_nonneg (le_max_left _ _) (by norm_num)
  have memory : 0 ≤ call.memoryGb := (estimateRequestMemoryGb_pos _ _ _ _).le
  rw [← hit] at range
  rw [placed.result] at range ⊢
  constructor
  case starts =>
    show call.request.arrivalTs ≤ call.startTs pool slotIndex
    rw [placed.asked, ← placed.called]
    exact le_max_left _ _
  case completes =>
    show call.startTs pool slotIndex ≤ call.completionTs pool slotIndex
    exact le_add_of_nonneg_right (div_nonneg (add_nonneg prefill decode) (by norm_num))
  case delay => exact roundTo_nonneg 4 delay
  case delay_le => exact roundTo_mono 4 (by linarith)
  case prefill => exact roundTo_nonneg 4 prefill
  case decode => exact roundTo_nonneg 4 decode
  case prefill_le => exact roundTo_mono 4 (by linarith)
  case decode_le => exact roundTo_mono 4 (by linarith)
  case memory => exact roundTo_nonneg 4 memory
  case network => exact roundTo_nonneg 4 network
  case hit_nonneg => exact range.1
  case hit_le => exact range.2

/-- What a reader of a report relies on. -/
structure Summary.InRange (summary : Summary) : Prop where
  admitted_le : summary.requestsAdmitted ≤ summary.requestsTotal
  latencies : 0 ≤ summary.p50LatencyMs ∧ summary.p50LatencyMs ≤ summary.p95LatencyMs ∧
    summary.p95LatencyMs ≤ summary.p99LatencyMs
  prefills : 0 ≤ summary.p50PrefillMs ∧ summary.p50PrefillMs ≤ summary.p95PrefillMs
  decodes : 0 ≤ summary.p50DecodeMs
  parts : summary.p50PrefillMs ≤ summary.p50LatencyMs ∧ summary.p95PrefillMs ≤ summary.p95LatencyMs ∧
    summary.p50DecodeMs ≤ summary.p50LatencyMs
  throughputs : 0 ≤ summary.throughputTokensPerS ∧ 0 ≤ summary.throughputRequestsPerS
  cacheHitRatio : 0 ≤ summary.cacheHitRatio ∧ summary.cacheHitRatio ≤ 0.95
  slaMissRate : 0 ≤ summary.slaMissRate ∧ summary.slaMissRate ≤ 1
  networkCostTotal : 0 ≤ summary.networkCostTotal
  gpuUtilizationProxy : 0 ≤ summary.gpuUtilizationProxy ∧ summary.gpuUtilizationProxy ≤ 1
  memoryUtilizationProxy : 0 ≤ summary.memoryUtilizationProxy ∧ summary.memoryUtilizationProxy ≤ 1
  meanAbsoluteLatencyErrorMs : 0 ≤ summary.meanAbsoluteLatencyErrorMs
  fairnessIndex : 0 ≤ summary.fairnessIndex ∧ summary.fairnessIndex ≤ 1

theorem jainsIndex_range (values : List ℚ) : 0 ≤ jainsIndex values ∧ jainsIndex values ≤ 1 := by
  by_cases nonzero : ∃ v ∈ values, v ≠ 0
  · refine ⟨?_, jainsIndex_le_one nonzero⟩
    rw [jainsIndex_of_nonzero nonzero]
    exact div_nonneg (sq_nonneg _) (mul_pos (length_pos_of_exists nonzero) (sum_squares_pos nonzero)).le
  · have zeros : values.map (fun v => v * v) = values.map (fun _ => 0) := by
      apply List.map_congr_left
      intro v member
      have zero : v = 0 := not_not.mp (fun differs => nonzero ⟨v, member, differs⟩)
      rw [zero, mul_zero]
    have one : jainsIndex values = 1 := by
      unfold jainsIndex
      simp [zeros]
    rw [one]
    exact ⟨zero_le_one, le_refl 1⟩

theorem quantile_nonneg {values : List ℚ} (nonneg : ∀ value ∈ values, 0 ≤ value) {q : ℚ} (least : 0 ≤ q)
    (most : q ≤ 1) : 0 ≤ quantile values q := by
  by_cases empty : values = []
  · simp [quantile, empty]
  · obtain ⟨greatest, above⟩ : ∃ greatest, ∀ value ∈ values, value ≤ greatest :=
      ⟨values.sum, fun value member => List.single_le_sum nonneg value member⟩
    exact (quantile_bounds empty least most nonneg above).1

section Means

variable {α : Type} {items : List α} {value : α → ℚ}

theorem total_nonneg (nonneg : ∀ item ∈ items, 0 ≤ value item) : 0 ≤ (items.map value).sum := by
  apply List.sum_nonneg
  intro taken member
  obtain ⟨item, inside, rfl⟩ := List.mem_map.mp member
  exact nonneg item inside

theorem mean_nonneg (nonneg : ∀ item ∈ items, 0 ≤ value item) (count : ℕ) :
    0 ≤ (items.map value).sum / (max 1 count : ℕ) := div_nonneg (total_nonneg nonneg) (Nat.cast_nonneg _)

theorem mean_le {most : ℚ} (positive : 0 ≤ most) (bounded : ∀ item ∈ items, value item ≤ most) :
    (items.map value).sum / (max 1 items.length : ℕ) ≤ most := by
  have counted : (0 : ℚ) < (max 1 items.length : ℕ) := by exact_mod_cast Nat.lt_of_lt_of_le one_pos (le_max_left _ _)
  have total : (items.map value).sum ≤ (items.map value).length • most :=
    List.sum_le_card_nsmul _ most (by simpa using bounded)
  rw [div_le_iff₀ counted]
  calc (items.map value).sum ≤ items.length * most := by simpa using total
    _ ≤ (max 1 items.length : ℕ) * most := by
        apply mul_le_mul_of_nonneg_right _ positive
        exact_mod_cast le_max_right _ _
    _ = most * (max 1 items.length : ℕ) := mul_comm _ _

theorem ratio_range (items : List α) (counts : α → Bool) :
    0 ≤ (items.countP counts : ℚ) / (max 1 items.length : ℕ) ∧
      (items.countP counts : ℚ) / (max 1 items.length : ℕ) ≤ 1 := by
  refine ⟨div_nonneg (Nat.cast_nonneg _) (Nat.cast_nonneg _), ?_⟩
  apply div_le_one_of_le₀ _ (Nat.cast_nonneg _)
  exact_mod_cast List.countP_le_length.trans (le_max_right _ _)

end Means

theorem roundTo_unit {x : ℚ} (least : 0 ≤ x) (most : x ≤ 1) : 0 ≤ roundTo 4 x ∧ roundTo 4 x ≤ 1 := by
  have one : roundTo 4 (1 : ℚ) = 1 := by decide +kernel
  exact ⟨roundTo_nonneg 4 least, (roundTo_mono 4 most).trans one.le⟩

namespace MetricsCollector

def InRange (metrics : MetricsCollector) : Prop :=
  ∀ result ∈ metrics.results, result.admitted = true → result.InRange

variable {metrics : MetricsCollector}

theorem InRange.of_admitted (inRange : metrics.InRange) (result : RequestResult)
    (member : result ∈ metrics.results.filter RequestResult.admitted) : result.InRange :=
  inRange result (List.mem_filter.mp member).1 (List.mem_filter.mp member).2

theorem quantile_field_nonneg {results : List RequestResult} {field : RequestResult → ℚ}
    (nonneg : ∀ result ∈ results, 0 ≤ field result) {q : ℚ} (least : 0 ≤ q) (most : q ≤ 1) :
    0 ≤ roundTo 2 (quantile (results.map field) q) :=
  roundTo_nonneg 2 (quantile_nonneg (by simpa using nonneg) least most)

theorem quantile_field_le {results : List RequestResult} {part whole : RequestResult → ℚ}
    (le : ∀ result ∈ results, part result ≤ whole result) (q : ℚ) :
    roundTo 2 (quantile (results.map part) q) ≤ roundTo 2 (quantile (results.map whole) q) := by
  apply roundTo_mono
  apply quantile_le
  rw [List.forall₂_map_left_iff, List.forall₂_map_right_iff, List.forall₂_same]
  exact le

theorem quantile_field_mono (values : List ℚ) {q r : ℚ} (least : 0 ≤ q) (le : q ≤ r) (most : r ≤ 1) :
    roundTo 2 (quantile values q) ≤ roundTo 2 (quantile values r) :=
  roundTo_mono 2 (quantile_mono least le most)

theorem InRange.summary (inRange : metrics.InRange) (durationS : ℚ) (policyName configName : String)
    (totalSlots : ℤ) (totalMemoryGb : ℚ) :
    (metrics.summary durationS policyName configName totalSlots totalMemoryGb).InRange := by
  have each := inRange.of_admitted
  have total : ∀ result ∈ metrics.results.filter RequestResult.admitted, 0 ≤ result.totalLatencyMs :=
    fun result member => (each result member).prefill.trans (each result member).prefill_le
  have length : ∀ x : ℚ, 0 < max x 1e-9 := fun x => lt_of_lt_of_le (by norm_num) (le_max_right x _)
  have capped : ∀ x : ℚ, 0 ≤ x → 0 ≤ roundTo 4 (min 1.0 x) ∧ roundTo 4 (min 1.0 x) ≤ 1 := by
    intro x nonneg
    exact roundTo_unit (le_min (by norm_num) nonneg) ((min_le_left _ _).trans (by norm_num))
  constructor
  case admitted_le => exact List.length_filter_le _ _
  case latencies =>
    refine ⟨quantile_field_nonneg total (by norm_num) (by norm_num), ?_, ?_⟩
    · exact quantile_field_mono _ (by norm_num) (by norm_num) (by norm_num)
    · exact quantile_field_mono _ (by norm_num) (by norm_num) (by norm_num)
  case prefills =>
    refine ⟨quantile_field_nonneg (fun result member => (each result member).prefill) (by norm_num) (by norm_num), ?_⟩
    exact quantile_field_mono _ (by norm_num) (by norm_num) (by norm_num)
  case decodes =>
    exact quantile_field_nonneg (fun result member => (each result member).decode) (by norm_num) (by norm_num)
  case parts =>
    refine ⟨?_, ?_, ?_⟩
    · exact quantile_field_le (fun result member => (each result member).prefill_le) _
    · exact quantile_field_le (fun result member => (each result member).prefill_le) _
    · exact quantile_field_le (fun result member => (each result member).decode_le) _
  case throughputs =>
    have tokens : 0 ≤ ((metrics.results.filter RequestResult.admitted).map
        (fun item => item.request.totalTokens)).sum := by
      apply List.sum_nonneg
      intro count member
      obtain ⟨result, _, rfl⟩ := List.mem_map.mp member
      exact (SimulationEngine.totalTokens_pos result.request).le
    refine ⟨?_, roundTo_nonneg 2 (div_nonneg (Nat.cast_nonneg _) (length durationS).le)⟩
    exact roundTo_nonneg 2 (div_nonneg (by exact_mod_cast tokens) (length durationS).le)
  case cacheHitRatio =>
    have cap : roundTo 4 (0.95 : ℚ) = 0.95 := by decide +kernel
    refine ⟨roundTo_nonneg 4 (mean_nonneg (fun result member => (each result member).hit_nonneg) _), ?_⟩
    refine (roundTo_mono 4 (mean_le (by norm_num) ?_)).trans cap.le
    exact fun result member => (each result member).hit_le
  case slaMissRate =>
    obtain ⟨least, most⟩ := ratio_range (metrics.results.filter RequestResult.admitted) RequestResult.slaMet
    have one : (1.0 : ℚ) = 1 := by norm_num
    apply roundTo_unit
    · rw [one]
      exact sub_nonneg.mpr most
    · rw [one]
      exact sub_le_self 1 least
  case networkCostTotal =>
    apply roundTo_nonneg
    exact total_nonneg (fun result member => (each result member).network)
  case gpuUtilizationProxy =>
    apply capped
    apply div_nonneg _ (length _).le
    apply total_nonneg
    intro result inside
    exact div_nonneg (add_nonneg (each result inside).prefill (each result inside).decode) (by norm_num)
  case memoryUtilizationProxy =>
    apply capped
    exact div_nonneg (mean_nonneg (fun result member => (each result member).memory) _) (length _).le
  case meanAbsoluteLatencyErrorMs =>
    apply roundTo_nonneg
    exact mean_nonneg (fun _ _ => abs_nonneg _) _
  case fairnessIndex => exact roundTo_unit (jainsIndex_range _).1 (jainsIndex_range _).2

end MetricsCollector

namespace SimulationEngine

variable {engine final : SimulationEngine} {request : InferenceRequest} {result : RequestResult}

/-- A plane without negative costs whose recorded results are in range. -/
structure RecordsInRange (engine : SimulationEngine) : Prop where
  costs : engine.controlPlane.NonnegativeCosts
  inRange : engine.metrics.InRange

theorem recordsInRange_create {config : ExperimentConfig} {environment : Environment} {azureAvailable : Bool}
    (nonneg : config.Nonneg) (created : create config environment azureAvailable = .ok engine) :
    RecordsInRange engine := by
  obtain ⟨plane, planeCreated, built⟩ := except_bind_eq_ok.mp created
  cases built
  exact ⟨ControlPlane.nonnegativeCosts_create nonneg planeCreated, fun _ member => by cases member⟩

theorem RecordsInRange.serve (kept : RecordsInRange engine) (returned : serve request engine = .ok result final) :
    RecordsInRange final := by
  obtain ⟨executed, recorded⟩ := serve_eq_ok returned
  have refreshed := kept.costs.refresh request.arrivalTs
  have submitted : (engine.submitted request).NonnegativeCosts :=
    ⟨refreshed.topology, refreshed.ingress, refreshed.congestion, refreshed.scores⟩
  refine ⟨submitted.execute executed, ?_⟩
  intro other member admitted
  rw [recorded] at member
  rcases List.mem_append.mp member with earlier | last
  · exact kept.inRange other earlier admitted
  · rw [List.mem_singleton.mp last] at admitted ⊢
    exact submitted.inRange executed admitted

theorem run_eq_ok {config : ExperimentConfig} {environment : Environment} {azureAvailable : Bool}
    {requests : List InferenceRequest} {store store' : RedisStore} {results : List RequestResult} {report : Report}
    (returned : run config environment azureAvailable requests store = .ok (results, report) store') :
    ∃ engine final, create config { environment with redisStore := store } azureAvailable = .ok engine ∧
      (requests.mapM SimulationEngine.serve) engine = .ok results final ∧ report = final.report := by
  unfold run at returned
  split at returned
  · cases returned
  · rename_i engine created
    split at returned
    · cases returned
    · rename_i served final ran
      cases returned
      exact ⟨engine, final, created, ran, rfl⟩

/-- Every report of a configuration without negative costs or congestion is in range: whatever the requests, the
    policy, the scorer and the contents of the store, and however often it runs. -/
theorem reports_in_range (config : ExperimentConfig) (environment : Environment) (azureAvailable : Bool)
    (nonneg : config.Nonneg) (requests : List InferenceRequest) (store store' : RedisStore)
    (results : List RequestResult) (report : Report)
    (returned : run config environment azureAvailable requests store = .ok (results, report) store') :
    report.summary.InRange ∧ ∀ result ∈ results, result.admitted = true → result.InRange := by
  obtain ⟨engine, final, created, ran, rfl⟩ := run_eq_ok returned
  have kept : RecordsInRange final := mapM_invariant RecordsInRange (fun _ _ _ _ earlier served => earlier.serve served)
    (recordsInRange_create nonneg created) ran
  have recorded : final.metrics.results = results := by
    obtain ⟨plane, _, built⟩ := except_bind_eq_ok.mp created
    cases built
    exact results_recorded ran
  refine ⟨kept.inRange.summary _ _ _ _ _, ?_⟩
  rw [← recorded]
  exact kept.inRange

theorem reports_in_range_turns :
    ∃ results report store',
      run (ControlPlane.sessionConfig 2 8 80) (ControlPlane.sessionEnvironment (emptyStore false)) false
        [sessionRequest 1000, sessionRequest 1000, { sessionRequest 1000 with arrivalTs := 60 }] (emptyStore false) =
          .ok (results, report) store' ∧
      report.summary.requestsAdmitted = 3 ∧ report.summary.cacheHitRatio = 0.2259 ∧ report.summary.InRange := by
  have ran : (valueOf (run (ControlPlane.sessionConfig 2 8 80)
      (ControlPlane.sessionEnvironment (emptyStore false)) false
      [sessionRequest 1000, sessionRequest 1000, { sessionRequest 1000 with arrivalTs := 60 }] (emptyStore false))).map
        (fun outcome => (outcome.2.summary.requestsAdmitted, outcome.2.summary.cacheHitRatio)) = some (3, 0.2259) := by
    decide +kernel
  obtain ⟨⟨results, report⟩, value, figures⟩ := Option.map_eq_some_iff.mp ran
  obtain ⟨store', returned⟩ := valueOf_eq_some.mp value
  obtain ⟨admitted, hits⟩ := Prod.mk.inj figures
  obtain ⟨inRange, _⟩ := reports_in_range _ _ _ (ControlPlane.nonneg_sessionConfig 2 8 80) _ _ _ _ _ returned
  exact ⟨results, report, store', returned, admitted, hits, inRange⟩

end SimulationEngine

end NimbusMesh
