import NimbusMesh.Pipeline.Replay

namespace NimbusMesh

open Foundation Foundation.Decimal Foundation.Execution

section Bisection

/-- The search ends after a value that is not greater and before one that is. The values need no order: an end of the
    range only moves past a value that the search has looked at. -/
theorem bisect_spec (values : List ℚ) (x : ℚ) {fuel low high : ℕ} (enough : high - low ≤ fuel) (order : low ≤ high) :
    low ≤ bisect values x fuel low high ∧ bisect values x fuel low high ≤ high ∧
      (low < bisect values x fuel low high → values.getD (bisect values x fuel low high - 1) 0 ≤ x) ∧
      (bisect values x fuel low high < high → x < values.getD (bisect values x fuel low high) 0) := by
  induction fuel generalizing low high with
  | zero =>
    have same : low = high := by omega
    simp [bisect, same]
  | succ fuel ih =>
    by_cases smaller : low < high
    · rw [bisect, if_pos smaller]
      by_cases above : x < values.getD ((low + high) / 2) 0
      · rw [if_pos above]
        obtain ⟨lower, upper, before, after⟩ := @ih low ((low + high) / 2) (by omega) (by omega)
        refine ⟨lower, by omega, before, fun _ => ?_⟩
        rcases Nat.lt_or_eq_of_le upper with inside | last
        · exact after inside
        · rw [last]
          exact above
      · rw [if_neg above]
        obtain ⟨lower, upper, before, after⟩ := @ih ((low + high) / 2 + 1) high (by omega) (by omega)
        refine ⟨by omega, upper, fun _ => ?_, after⟩
        rcases Nat.lt_or_eq_of_le lower with inside | first
        · exact before inside
        · rw [← first, Nat.add_sub_cancel]
          exact not_lt.mp above
    · have same : low = high := by omega
      rw [bisect, if_neg smaller, same]
      simp

end Bisection

section Weights

theorem getElem?_cumulative (values : List ℚ) (index : ℕ) :
    ((values.scanl (· + ·) 0).tail)[index]? =
      if index < values.length then some (values.take (index + 1)).sum else none := by
  rw [List.getElem?_tail, List.getElem?_scanl, ← List.sum_eq_foldl]
  simp only [Nat.succ_le_iff]

theorem getD_cumulative {values : List ℚ} {index : ℕ} (inside : index < values.length) :
    ((values.scanl (· + ·) 0).tail).getD index 0 = (values.take (index + 1)).sum := by
  rw [List.getD_eq_getElem?_getD, getElem?_cumulative, if_pos inside, Option.getD_some]

theorem getLast?_cumulative {values : List ℚ} (nonempty : values ≠ []) :
    ((values.scanl (· + ·) 0).tail).getLast? = some values.sum := by
  have positive := List.length_pos_iff.mpr nonempty
  have whole : values.take (values.length - 1 + 1) = values := by
    rw [Nat.sub_add_cancel positive, List.take_length]
  rw [List.getLast?_eq_getElem?, List.length_tail, List.length_scanl, Nat.add_sub_cancel, getElem?_cumulative,
    if_pos (by omega), whole]

theorem two_mul_pow_lt_floatLimit : 2 * 10 ^ 250 < floatLimit := by
  decide +kernel

theorem pow_lt_floatLimit : 10 ^ 250 < floatLimit :=
  lt_of_le_of_lt (by norm_num) two_mul_pow_lt_floatLimit

theorem abs_sum_le (values : List ℚ) : |values.sum| ≤ (values.map abs).sum := by
  induction values with
  | nil => simp
  | cons value rest ih =>
    rw [List.sum_cons, List.map_cons, List.sum_cons]
    exact (abs_add_le value rest.sum).trans (by gcongr)

theorem abs_cumulative_le {values : List ℚ} {reached : ℚ} (member : reached ∈ (values.scanl (· + ·) 0).tail) :
    |reached| ≤ (values.map abs).sum := by
  obtain ⟨index, found⟩ := List.mem_iff_getElem?.mp member
  rw [getElem?_cumulative] at found
  split at found
  · cases found
    have later : 0 ≤ ((values.drop (index + 1)).map abs).sum := by
      apply List.sum_nonneg
      intro size listed
      obtain ⟨value, _, rfl⟩ := List.mem_map.mp listed
      exact abs_nonneg value
    calc |(values.take (index + 1)).sum| ≤ ((values.take (index + 1)).map abs).sum := abs_sum_le _
      _ ≤ ((values.take (index + 1)).map abs).sum + ((values.drop (index + 1)).map abs).sum := by linarith
      _ = (values.map abs).sum := by rw [← List.sum_append, ← List.map_append, List.take_append_drop]
  · cases found

/-- What is found below the total of the weights has a positive weight, whatever the signs of the others. -/
theorem bisect_cumulative {values : List ℚ} {x : ℚ} (nonneg : 0 ≤ x) (below : x < values.sum) :
    ∃ weight, values[bisect ((values.scanl (· + ·) 0).tail) x values.length 0 (values.length - 1)]? = some weight ∧
      0 < weight := by
  have nonempty : values ≠ [] := by
    rintro rfl
    exact absurd (nonneg.trans_lt below) (lt_irrefl 0)
  have positive := List.length_pos_iff.mpr nonempty
  obtain ⟨_, upper, before, after⟩ := @bisect_spec ((values.scanl (· + ·) 0).tail) x values.length 0
    (values.length - 1) (by omega) (by omega)
  generalize bisect ((values.scanl (· + ·) 0).tail) x values.length 0 (values.length - 1) = found at *
  have inside : found < values.length := by omega
  have notAbove : (values.take found).sum ≤ x := by
    cases found with
    | zero => simpa using nonneg
    | succ earlier =>
      have looked := before (by omega)
      rwa [Nat.add_sub_cancel, getD_cumulative (by omega)] at looked
  have above : x < (values.take (found + 1)).sum := by
    rcases Nat.lt_or_eq_of_le upper with earlier | last
    · have looked := after earlier
      rwa [getD_cumulative inside] at looked
    · rwa [last, Nat.sub_add_cancel positive, List.take_length]
  refine ⟨values[found], List.getElem?_eq_getElem inside, ?_⟩
  rw [List.sum_take_succ values found inside] at above
  linarith

end Weights

namespace WorkloadGenerator

variable {environment : GeneratorEnvironment} {config : WorkloadConfig}

def Drawable (weights : Dict String ℚ) (name : String) : Prop :=
  ∃ weight, Dict.lookup weights name = some weight ∧ 0 < weight

theorem ensures_random : Ensures (Configured config) (random environment) (fun unit => 0 ≤ unit ∧ unit < 1) := by
  apply (ensures_draw _).imp
  rintro _ ⟨i, rfl⟩
  exact environment.draws.random_unit i

theorem ensures_uniform {low high : ℚ} (order : low ≤ high) :
    Ensures (Configured config) (uniform environment low high) (fun value => low ≤ value ∧ value ≤ high) := by
  apply ensures_random.bind
  intro unit bounds
  apply ensures_pure
  constructor
  · have nonneg := mul_nonneg (sub_nonneg.mpr order) bounds.1
    linarith
  · have less := mul_le_of_le_one_right (sub_nonneg.mpr order) bounds.2.le
    linarith

/-- Weights that choices can be drawn by: their sum is positive, and no part of it leaves the floats. -/
structure Weighable (weights : Dict String ℚ) : Prop where
  positive : 0 < (Dict.values weights).sum
  moderate : ((Dict.values weights).map abs).sum ≤ 10 ^ 250

theorem Weighable.nonempty {weights : Dict String ℚ} (weighable : Weighable weights) : Dict.values weights ≠ [] := by
  intro empty
  have positive := weighable.positive
  rw [empty] at positive
  exact absurd positive (lt_irrefl 0)

theorem Weighable.lt_floatLimit {weights : Dict String ℚ} (weighable : Weighable weights) {reached : ℚ}
    (bound : |reached| ≤ ((Dict.values weights).map abs).sum) : |reached| < floatLimit := by
  have small : (10 : ℚ) ^ 250 < floatLimit := by exact_mod_cast pow_lt_floatLimit
  exact (bound.trans weighable.moderate).trans_lt small

theorem Weighable.cumulative_finite {weights : Dict String ℚ} (weighable : Weighable weights) :
    (((Dict.values weights).scanl (· + ·) 0).tail).find? (fun reached => (floatLimit : ℚ) ≤ |reached|) = none := by
  apply List.find?_eq_none.mpr
  intro reached member
  simpa using weighable.lt_floatLimit (abs_cumulative_le member)

theorem ensures_weightedChoice {weights : Dict String ℚ} (weighable : Weighable weights) :
    Ensures (Configured config) (weightedChoice environment weights) (Drawable weights) := by
  have positive := weighable.positive
  have total := (le_abs_self _).trans_lt (weighable.lt_floatLimit (abs_sum_le (Dict.values weights)))
  simp only [weightedChoice, weighable.cumulative_finite, Option.none_or, getLast?_cumulative weighable.nonempty]
  rw [if_neg (not_le.mpr positive), if_neg (not_le.mpr total)]
  apply ensures_random.bind
  intro unit bounds
  obtain ⟨weight, found, drawable⟩ := bisect_cumulative (mul_nonneg bounds.1 positive.le)
    (mul_lt_of_lt_one_left positive bounds.2)
  have same : (weights.toList.map Prod.fst).length = (Dict.values weights).length := by simp [Dict.values]
  rw [same]
  generalize bisect (((Dict.values weights).scanl (· + ·) 0).tail) (unit * (Dict.values weights).sum)
    (Dict.values weights).length 0 ((Dict.values weights).length - 1) = index at *
  rw [Dict.values, List.getElem?_map, Option.map_eq_some_iff] at found
  obtain ⟨pair, listed, rfl⟩ := found
  rw [List.getElem?_map, listed]
  apply ensures_pure
  have held : KeyedList.get? weights pair.1 = some pair :=
    KeyedList.get?_eq_some.mpr ⟨List.mem_of_getElem? listed, rfl⟩
  exact ⟨pair.2, by rw [Dict.lookup, held]; rfl, drawable⟩

theorem truncate_ge {x : ℚ} {bound : ℤ} (le : (bound : ℚ) ≤ x) (positive : 0 ≤ bound) : bound ≤ truncate x := by
  have nonneg : 0 ≤ x := le_trans (by exact_mod_cast positive) le
  rw [truncate, if_pos nonneg]
  exact Int.le_floor.mpr le

/-- A distribution of positive token counts from which no draw overflows. -/
structure Moderate (distribution : DistributionConfig) : Prop where
  positive : 0 < distribution.min
  min : distribution.min ≤ 10 ^ 250
  max : |distribution.max| ≤ 10 ^ 250
  lognormal : distribution.distribution = .lognormal → distribution.mean ≤ 10 ^ 90 ∧ |distribution.sigma| ≤ 40

theorem asFloat_eq_ok {value : ℤ} (small : |value| ≤ 2 * 10 ^ 250) : asFloat value = .ok (value : ℚ) := by
  rw [asFloat, if_pos (small.trans_lt two_mul_pow_lt_floatLimit)]

theorem ensures_sampleValue {distribution : DistributionConfig} (moderate : Moderate distribution) :
    Ensures (Configured config) (sampleValue environment distribution) (fun _ => True) := by
  unfold sampleValue
  cases family : distribution.distribution with
  | uniform =>
    have low : |distribution.min| ≤ 10 ^ 250 := by
      rw [abs_of_pos moderate.positive]
      exact moderate.min
    have span : |distribution.max - distribution.min| ≤ 2 * 10 ^ 250 := by
      rw [two_mul]
      exact (abs_sub _ _).trans (add_le_add moderate.max low)
    apply ensures_random.bind
    intro unit _
    apply (ensures_raising (asFloat_eq_ok span)).bind
    intro span _
    apply (ensures_raising (asFloat_eq_ok (low.trans (by norm_num)))).bind
    intro first _
    exact ensures_pure True.intro
  | normal => exact (ensures_draw _).imp (fun _ _ => True.intro)
  | lognormal =>
    obtain ⟨mean, sigma⟩ := moderate.lognormal family
    have bounded : max 1 distribution.mean ≤ 10 ^ 90 := max_le (by norm_num) mean
    apply (ensures_draw _).bind
    rintro _ ⟨i, rfl⟩
    obtain ⟨value, returned⟩ := environment.draws.lognormvariate_returns i _ _ bounded sigma
    exact (ensures_raising returned).imp (fun _ _ => True.intro)

/-- The tokens of a distribution are clamped to its bounds, of which the lower one wins. -/
theorem ensures_sampleTokens {distribution : DistributionConfig} (moderate : Moderate distribution) :
    Ensures (Configured config) (sampleTokens environment distribution)
      (fun tokens => distribution.min ≤ tokens ∧ tokens ≤ max distribution.min distribution.max) := by
  apply (ensures_sampleValue moderate).bind
  intro value _
  apply ensures_pure
  constructor
  · exact truncate_ge (le_max_left _ _) moderate.positive.le
  · apply truncate_le (moderate.positive.le.trans (le_max_left _ _))
    rw [Int.cast_max]
    exact max_le_max_left _ (min_le_left _ _)

section Arrivals

theorem uniformArrivals_range {config : WorkloadConfig} (forward : 0 ≤ config.durationS) :
    ∀ time ∈ uniformArrivals config, 0 ≤ time ∧ time ≤ config.durationS := by
  intro time member
  obtain ⟨i, inside, rfl⟩ := List.mem_map.mp member
  have bound : (i : ℤ) < config.requestCount := by
    have below := List.mem_range.mp inside
    omega
  have count : (i : ℚ) ≤ (max 1 config.requestCount : ℤ) := by
    exact_mod_cast bound.le.trans (le_max_right _ _)
  have positive : (0 : ℚ) < (max 1 config.requestCount : ℤ) := by
    exact_mod_cast lt_of_lt_of_le zero_lt_one (le_max_left 1 config.requestCount)
  refine ⟨by positivity, ?_⟩
  calc (i : ℚ) * (config.durationS / (max 1 config.requestCount : ℤ))
      ≤ (max 1 config.requestCount : ℤ) * (config.durationS / (max 1 config.requestCount : ℤ)) := by gcongr
    _ = config.durationS := mul_div_cancel₀ _ positive.ne'

theorem ensures_choice_mem {α : Type} {population : List α} (nonempty : population ≠ []) :
    Ensures (Configured config) (choice environment population) (fun chosen => chosen ∈ population) := by
  unfold choice
  rw [if_neg (by simp [nonempty])]
  apply (ensures_draw _).bind
  rintro _ ⟨i, rfl⟩
  have bound := environment.draws.below_lt i population.length (List.length_pos_iff.mpr nonempty)
  rw [List.getElem?_eq_getElem bound]
  exact ensures_pure (List.getElem_mem bound)

theorem burstWindows_range {duration : ℚ} (forward : 0 ≤ duration) :
    ∀ window ∈ burstWindows duration, 0 ≤ window.1 ∧ window.1 ≤ window.2 ∧ window.2 ≤ duration := by
  simp only [burstWindows, List.forall_mem_cons, List.not_mem_nil, false_imp_iff, implies_true, and_true]
  refine ⟨⟨?_, ?_, ?_⟩, ⟨?_, ?_, ?_⟩, ?_, ?_, ?_⟩ <;> linarith

theorem ensures_burstyArrival (forward : 0 ≤ config.durationS) :
    Ensures (Configured config) (burstyArrival environment config)
      (fun time => 0 ≤ time ∧ time ≤ config.durationS) := by
  apply ensures_random.bind
  intro unit _
  split
  · apply (ensures_choice_mem (by simp [burstWindows])).bind
    intro window listed
    obtain ⟨nonneg, order, within⟩ := burstWindows_range forward window listed
    apply (ensures_uniform order).imp
    intro time bounds
    exact ⟨nonneg.trans bounds.1, bounds.2.trans within⟩
  · exact ensures_uniform forward

theorem ensures_poissonArrivals {duration rate : ℚ} (forward : 0 ≤ duration) (remaining : ℕ)
    (positive : 0 < remaining → 0 < rate) {reached : ℚ} (nonneg : 0 ≤ reached) :
    Ensures (Configured config) (poissonArrivals environment duration rate remaining reached)
      (fun times => times.length = remaining ∧ ∀ time ∈ times, 0 ≤ time ∧ time ≤ duration) := by
  induction remaining generalizing reached with
  | zero => exact ensures_pure ⟨rfl, by simp⟩
  | succ remaining ih =>
    have rated := positive (Nat.succ_pos remaining)
    apply (ensures_draw _).bind
    rintro _ ⟨i, rfl⟩
    have gap := environment.draws.expovariate_nonneg i rate rated
    apply (ih (fun _ => rated) (add_nonneg nonneg gap)).bind
    intro later facts
    apply ensures_pure
    refine ⟨by simp [facts.1], List.forall_mem_cons.mpr ⟨?_, facts.2⟩⟩
    exact ⟨le_min forward (add_nonneg nonneg gap), min_le_left _ _⟩

theorem ensures_generateArrivals (forward : 0 ≤ config.durationS) :
    Ensures (Configured config) (generateArrivals environment) (fun times =>
      times.length = config.requestCount.toNat ∧ ∀ time ∈ times, 0 ≤ time ∧ time ≤ config.durationS) := by
  apply ensures_get_bind
  intro generator same
  rw [Configured] at same
  rw [same]
  dsimp only
  cases config.arrivalPattern with
  | uniform => exact ensures_pure ⟨by simp [uniformArrivals], uniformArrivals_range forward⟩
  | bursty =>
    apply (Ensures.mapM_all (fun _ _ => ensures_burstyArrival forward)).bind
    intro drawn facts
    rw [List.length_range] at facts
    apply ensures_pure
    refine ⟨by rw [List.length_insertionSort, facts.1], ?_⟩
    intro time member
    exact facts.2 time ((List.mem_insertionSort (· ≤ ·)).mp member)
  | poisson =>
    apply ensures_poissonArrivals forward _ _ le_rfl
    intro some
    have count : (0 : ℚ) < config.requestCount := by
      have whole : 0 < config.requestCount := by omega
      exact_mod_cast whole
    exact div_pos count (lt_of_lt_of_le (by norm_num) (le_max_right _ _))

end Arrivals

section Requests

/-- A configuration from which a workload can be drawn. -/
structure WellPosed (config : WorkloadConfig) : Prop where
  durationS : 0 ≤ config.durationS
  tenantWeights : Weighable config.tenantWeights
  modelMix : Weighable config.modelMix
  slaMix : Weighable config.slaMix
  slaClasses : ∀ name, Drawable config.slaMix name → ∃ sla, slaNamed name = some sla
  promptTokens : Moderate config.promptTokens
  generationTokens : Moderate config.generationTokens

def Within (distribution : DistributionConfig) (tokens : ℤ) : Prop :=
  distribution.min ≤ tokens ∧ tokens ≤ max distribution.min distribution.max

structure Synthesized (config : WorkloadConfig) (index : ℕ) (request : InferenceRequest) : Prop where
  requestId : request.requestId = some ("req-" ++ zeroPadded 6 index)
  tenantId : Drawable config.tenantWeights request.tenantId
  modelId : Drawable config.modelMix request.modelId
  slaClass : ∃ name, Drawable config.slaMix name ∧ slaNamed name = some request.slaClass ∧
    slaLatencyMs.lookup name = some request.maxLatencyMs
  promptTokens : Within config.promptTokens request.promptTokens
  generationTokens : Within config.generationTokens request.generationTokens
  arrivalTs : request.arrivalTs ≤ roundTo 4 config.durationS

theorem ensures_generateRequest (posed : WellPosed config) {arrivalTs : ℚ}
    (bounds : 0 ≤ arrivalTs ∧ arrivalTs ≤ config.durationS) (index : ℕ) :
    Ensures (Configured config) (generateRequest environment arrivalTs index) (Synthesized config index) := by
  apply ensures_get_bind
  intro generator same
  rw [Configured] at same
  rw [same]
  apply (ensures_weightedChoice posed.tenantWeights).bind
  intro tenantId tenant
  apply (ensures_weightedChoice posed.modelMix).bind
  intro modelId model
  apply (ensures_weightedChoice posed.slaMix).bind
  intro slaClass drawable
  apply (ensures_pickSession tenantId modelId).bind
  intro sessionId _
  apply (ensures_sampleTokens posed.promptTokens).bind
  intro promptTokens prompt
  apply (ensures_sampleTokens posed.generationTokens).bind
  intro generationTokens generation
  apply ensures_random.bind
  intro hostile _
  obtain ⟨sla, named⟩ := posed.slaClasses slaClass drawable
  obtain ⟨_, maxLatencyMs, latency, positive⟩ := sla_written named
  have looked : latencyFor slaClass = .ok maxLatencyMs := by rw [latencyFor, latency]
  apply (ensures_raising looked).bind
  rintro _ rfl
  have tokens : 0 < promptTokens ∧ 0 < generationTokens :=
    ⟨posed.promptTokens.positive.trans_le prompt.1, posed.generationTokens.positive.trans_le generation.1⟩
  generalize (if hostile < config.cacheHostility then _ else _ : String) = signature
  obtain ⟨request, created, identifier, requester, requested, prompted, generated, classed, _, limit⟩ :=
    InferenceRequest.create_returns environment.digest (some ("req-" ++ zeroPadded 6 index)) tenantId modelId tokens
      (roundTo_nonneg 4 bounds.1) named (some sessionId) (some signature) positive
  apply (ensures_raising created).imp
  rintro _ rfl
  exact {
    requestId := identifier
    tenantId := by rw [requester]; exact tenant
    modelId := by rw [requested]; exact model
    slaClass := ⟨slaClass, drawable, by rw [named, classed], by rw [latency, limit]⟩
    promptTokens := by rw [prompted]; exact prompt
    generationTokens := by rw [generated]; exact generation
    arrivalTs := by rw [InferenceRequest.create_eq_ok created]; exact roundTo_mono 4 bounds.2 }

theorem toList_zeroPadded (width n : ℕ) :
    (zeroPadded width n).toList = List.replicate (width - (toString n).length) '0' ++ Nat.toDigits 10 n := by
  have zeros : ∀ count, ("".pushn '0' count).toList = List.replicate count '0' := by
    intro count
    rw [String.pushn_eq_repeat_push]
    induction count with
    | zero => rfl
    | succ count ih => rw [Nat.repeat, String.toList_push, ih, List.replicate_succ']
  simp only [zeroPadded, String.toList_append, zeros, Nat.toString_eq_repr, Nat.toList_repr]

theorem zeroPadded_injective (width : ℕ) : Function.Injective (zeroPadded width) := by
  intro n m same
  have read : ∀ k, Nat.ofDigitChars 10 (zeroPadded width k).toList 0 = k := by
    intro k
    rw [toList_zeroPadded, Nat.ofDigitChars_append, Nat.ofDigitChars_replicate_zero, Nat.mul_zero,
      Nat.ofDigitChars_ten_toDigits]
  rw [← read n, same, read m]

theorem nodup_requestIds {requests : List InferenceRequest}
    (synthesized : ∀ index request, requests[index]? = some request → Synthesized config index request) :
    (requests.map InferenceRequest.requestId).Nodup := by
  rw [List.nodup_iff_getElem?_ne_getElem?]
  intro i j less bound same
  rw [List.length_map] at bound
  rw [List.getElem?_map, List.getElem?_map, List.getElem?_eq_getElem (less.trans bound),
    List.getElem?_eq_getElem bound, Option.map_some, Option.map_some, Option.some_inj,
    (synthesized i _ (List.getElem?_eq_getElem (less.trans bound))).requestId,
    (synthesized j _ (List.getElem?_eq_getElem bound)).requestId, Option.some_inj] at same
  have padded : zeroPadded 6 i = zeroPadded 6 j := by
    have letters := congrArg String.toList same
    rw [String.toList_append, String.toList_append] at letters
    exact String.toList_inj.mp (List.append_cancel_left letters)
  exact less.ne (zeroPadded_injective 6 padded)

theorem generateRequests_returns (environment : GeneratorEnvironment) (generator : WorkloadGenerator)
    (synthetic : replayedPath generator.config = none) (posed : WellPosed generator.config) :
    ∃ requests final, generateRequests environment generator = .ok requests final ∧
      requests.length = generator.config.requestCount.toNat ∧
      ∀ index request, requests[index]? = some request → Synthesized generator.config index request := by
  obtain ⟨times, middle, arriving, configured, count, bounds⟩ :=
    @ensures_generateArrivals environment generator.config posed.durationS generator rfl
  have each : ∀ item ∈ times.zipIdx, Ensures (Configured generator.config)
      (generateRequest environment item.1 item.2) (Synthesized generator.config item.2) := by
    intro item member
    exact ensures_generateRequest posed (bounds item.1 (List.fst_mem_of_mem_zipIdx member)) item.2
  obtain ⟨requests, final, drawing, _, all⟩ := Ensures.mapM each middle configured
  have returned : generateRequests environment generator = .ok requests final := by
    apply bind_eq_ok.mpr
    refine ⟨generator, generator, rfl, ?_⟩
    rw [synthetic]
    exact bind_eq_ok.mpr ⟨times, middle, arriving, drawing⟩
  have length : requests.length = times.length := by rw [← all.length_eq, List.length_zipIdx]
  have synthesized : ∀ index request, requests[index]? = some request →
      Synthesized generator.config index request := by
    intro index request found
    have inside : index < times.zipIdx.length := by
      rw [List.length_zipIdx, ← length]
      exact (List.getElem?_eq_some_iff.mp found).1
    have drawn := List.forall₂_iff_get.mp all
    have holds := drawn.2 index inside (by rw [length, ← List.length_zipIdx]; exact inside)
    simpa [List.getElem_zipIdx, (List.getElem?_eq_some_iff.mp found).2] using holds
  exact ⟨requests, final, returned, length.trans count, synthesized⟩

def mixedConfig : WorkloadConfig where
  requestCount := 3
  arrivalPattern := .bursty
  tenantWeights := Dict.ofList [("ghost", 0), ("acme", 1), ("edge", 2)]
  modelMix := Dict.ofList [("llama-3-8b", 1)]
  slaMix := Dict.ofList [("interactive", 3), ("platinum", 0)]

theorem wellPosed_mixedConfig : WellPosed mixedConfig where
  durationS := by decide +kernel
  tenantWeights := ⟨by decide +kernel, by decide +kernel⟩
  modelMix := ⟨by decide +kernel, by decide +kernel⟩
  slaMix := ⟨by decide +kernel, by decide +kernel⟩
  slaClasses := by
    rintro name ⟨weight, held, positive⟩
    obtain ⟨pair, found, rfl⟩ := Option.map_eq_some_iff.mp held
    obtain ⟨listed, rfl⟩ := KeyedList.get?_eq_some.mp found
    have pairs : mixedConfig.slaMix.toList = [("interactive", 3), ("platinum", 0)] := by decide +kernel
    rw [pairs] at listed
    rcases List.mem_cons.mp listed with rfl | last
    · exact ⟨.interactive, rfl⟩
    · rw [List.mem_singleton.mp last] at positive
      exact absurd positive (lt_irrefl 0)
  promptTokens := ⟨by decide, by decide +kernel, by decide +kernel, fun _ => by decide +kernel⟩
  generationTokens := ⟨by decide, by decide +kernel, by decide +kernel, fun _ => by decide +kernel⟩

end Requests

end WorkloadGenerator

end NimbusMesh
