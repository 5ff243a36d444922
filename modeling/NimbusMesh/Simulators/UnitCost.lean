import Mathlib.Algebra.BigOperators.Ring.Finset
import Mathlib.Algebra.Order.BigOperators.Group.List
import NimbusMesh.Simulators.Conservation

namespace NimbusMesh

open Foundation Foundation.Decimal Foundation.Execution

def ExperimentConfig.priceOf (config : ExperimentConfig) (clusterId poolId : String) : Option ℚ :=
  ((ControlPlane.buildRuntimeClusters config).get? clusterId).bind (fun cluster =>
    (cluster.pools.get? poolId).map PoolRuntime.costPer1mTokens)

theorem ExperimentConfig.priceOf_listed {config : ExperimentConfig} {clusterId poolId : String} {price : ℚ}
    (priced : config.priceOf clusterId poolId = some price) :
    ∃ cluster ∈ config.clusters, ∃ pool ∈ cluster.pools, price = pool.costPer1mTokens := by
  obtain ⟨cluster, at_cluster, at_pool⟩ := Option.bind_eq_some_iff.mp priced
  obtain ⟨pool, held, rfl⟩ := Option.map_eq_some_iff.mp at_pool
  have inClusters := (KeyedList.get?_eq_some.mp at_cluster).1
  have inPools := (KeyedList.get?_eq_some.mp held).1
  rcases KeyedList.mem_foldl_insert ControlPlane.buildCluster _ _ inClusters with empty | ⟨spec, listed, rfl⟩
  · cases empty
  · rcases KeyedList.mem_foldl_insert (ControlPlane.buildPool spec) _ _ inPools with empty | ⟨poolSpec, inside, rfl⟩
    · cases empty
    · exact ⟨spec, listed, poolSpec, inside, rfl⟩

namespace ControlPlane

def priceIn (plane : ControlPlane) (clusterId poolId : String) : Option ℚ :=
  (plane.poolIn clusterId poolId).map PoolRuntime.costPer1mTokens

variable {plane final : ControlPlane} {request : InferenceRequest} {now : ℚ} {result : RequestResult}

theorem priceIn_create {config : ExperimentConfig} {environment : Environment}
    (created : create config environment = .ok plane) (clusterId poolId : String) :
    plane.priceIn clusterId poolId = config.priceOf clusterId poolId := by
  obtain ⟨policy, _, built⟩ := except_bind_eq_ok.mp created
  cases built
  exact Option.map_bind

theorem priceIn_refresh (plane : ControlPlane) (now : ℚ) (clusterId poolId : String) :
    (plane.refresh now).priceIn clusterId poolId = plane.priceIn clusterId poolId := by
  unfold priceIn
  cases held : plane.poolIn clusterId poolId with
  | none =>
    have present := poolIn_refresh_isSome plane now clusterId poolId
    rw [held] at present
    rw [Option.isSome_eq_false_iff.mp present |> Option.isNone_iff_eq_none.mp]
  | some pool =>
    obtain ⟨cluster, _, refreshed⟩ := poolIn_refresh now held
    rw [refreshed]
    rfl

theorem priceIn_execute (returned : execute request now plane = .ok result final) (clusterId poolId : String) :
    final.priceIn clusterId poolId = plane.priceIn clusterId poolId := by
  unfold priceIn
  cases held : plane.poolIn clusterId poolId with
  | none => rw [execute_absent returned held]
  | some pool =>
    rcases @execute_pools ⟨request, now⟩ _ _ _ returned _ _ _ held with ⟨_, same⟩ | ⟨_, call, slotIndex, _, served⟩
    · rw [same]
    · rw [served]
      rfl

theorem execute_costUsd (returned : execute request now plane = .ok result final) (admitted : result.admitted = true) :
    ∃ price, plane.priceIn result.decision.clusterId result.decision.poolId = some price ∧
      result.costUsd = roundTo 6 (price * (result.request.totalTokens / 1000000.0)) := by
  obtain ⟨_, _, choice, cluster, pool, _, _, _, chosen, outcome⟩ := execute_eq_ok returned
  rcases outcome with ⟨_, rejected, _⟩ | ⟨_, call, scheduler, _, _, _, sameCluster, samePool, placing, _⟩
  · rw [rejected] at admitted
    cases admitted
  · obtain ⟨slotIndex, _, rfl, _, _⟩ := placeRequest_eq_ok placing
    refine ⟨pool.costPer1mTokens, ?_, rfl⟩
    change plane.priceIn call.decision.clusterId call.decision.poolId = some pool.costPer1mTokens
    rw [sameCluster, samePool, priceIn, poolIn_of_poolAt chosen.found]
    rfl

end ControlPlane

namespace SimulationEngine

section Priced

variable {config : ExperimentConfig} {engine final : SimulationEngine}

structure Priced (config : ExperimentConfig) (engine : SimulationEngine) : Prop where
  prices : ∀ clusterId poolId, engine.controlPlane.priceIn clusterId poolId = config.priceOf clusterId poolId
  billed : ∀ result ∈ engine.metrics.results, result.admitted = true →
    ∃ price, config.priceOf result.decision.clusterId result.decision.poolId = some price ∧
      result.costUsd = roundTo 6 (price * (result.request.totalTokens / 1000000.0))

theorem priced_create {environment : Environment} {azureAvailable : Bool}
    (created : create config environment azureAvailable = .ok engine) : Priced config engine := by
  obtain ⟨plane, planeCreated, built⟩ := except_bind_eq_ok.mp created
  cases built
  exact ⟨ControlPlane.priceIn_create planeCreated, fun _ member => by cases member⟩

theorem Priced.serve {request : InferenceRequest} {result : RequestResult} (priced : Priced config engine)
    (returned : serve request engine = .ok result final) : Priced config final := by
  obtain ⟨executed, recorded⟩ := serve_eq_ok returned
  have submitted : ∀ clusterId poolId,
      (engine.submitted request).priceIn clusterId poolId = config.priceOf clusterId poolId := by
    intro clusterId poolId
    rw [← priced.prices clusterId poolId]
    exact ControlPlane.priceIn_refresh engine.controlPlane request.arrivalTs clusterId poolId
  constructor
  · intro clusterId poolId
    rw [ControlPlane.priceIn_execute executed, submitted]
  · rw [recorded]
    intro other member admitted
    rcases List.mem_append.mp member with earlier | last
    · exact priced.billed other earlier admitted
    · rw [List.mem_singleton.mp last] at admitted ⊢
      rw [← submitted]
      exact ControlPlane.execute_costUsd executed admitted

theorem priced_run {environment : Environment} {azureAvailable : Bool} {requests : List InferenceRequest}
    {results : List RequestResult} (created : create config environment azureAvailable = .ok engine)
    (returned : (requests.mapM serve) engine = .ok results final) :
    Priced config final ∧ final.metrics.results = results := by
  have priced : Priced config final :=
    mapM_invariant (Priced config) (fun _ _ _ _ earlier served => earlier.serve served) (priced_create created) returned
  obtain ⟨plane, _, built⟩ := except_bind_eq_ok.mp created
  cases built
  exact ⟨priced, results_recorded returned⟩

end Priced

section Bounds

variable {α : Type} {items : List α} {price : α → ℚ} {tokens : α → ℤ} {lowest highest : ℚ}

theorem sum_tokens_pos (positive : ∀ item ∈ items, 0 < tokens item) (nonempty : items ≠ []) :
    0 < (items.map tokens).sum := by
  cases items with
  | nil => exact absurd rfl nonempty
  | cons item rest =>
    have first := positive item (by simp)
    have others : 0 ≤ (rest.map tokens).sum := by
      apply List.sum_nonneg
      intro count member
      obtain ⟨other, inside, rfl⟩ := List.mem_map.mp member
      exact (positive other (by simp [inside])).le
    rw [List.map_cons, List.sum_cons]
    omega

theorem sum_prices_between (positive : ∀ item ∈ items, 0 < tokens item)
    (within : ∀ item ∈ items, lowest ≤ price item ∧ price item ≤ highest) :
    lowest * ((items.map tokens).sum : ℤ) ≤ (items.map (fun item => price item * tokens item)).sum ∧
      (items.map (fun item => price item * tokens item)).sum ≤ highest * ((items.map tokens).sum : ℤ) := by
  have cast : (((items.map tokens).sum : ℤ) : ℚ) = (items.map (fun item => (tokens item : ℚ))).sum := by
    rw [Int.cast_list_sum, List.map_map]
    rfl
  rw [cast, ← List.sum_map_mul_left, ← List.sum_map_mul_left]
  constructor
  · apply List.sum_le_sum
    intro item member
    exact mul_le_mul_of_nonneg_right (within item member).1 (by exact_mod_cast (positive item member).le)
  · apply List.sum_le_sum
    intro item member
    exact mul_le_mul_of_nonneg_right (within item member).2 (by exact_mod_cast (positive item member).le)

/-- Costs that are rounded to 1e-6 one by one make a unit cost that leaves the prices by at most the share of the
    costs that were inexact. -/
theorem unit_cost_between (positive : ∀ item ∈ items, 0 < tokens item) (nonempty : items ≠ [])
    (within : ∀ item ∈ items, lowest ≤ price item ∧ price item ≤ highest) :
    let cost (item : α) : ℚ := price item * (tokens item / 1000000.0)
    let total : ℤ := (items.map tokens).sum
    let unit : ℚ := (items.map (fun item => roundTo 6 (cost item))).sum / max total 1 * 1000000
    let slack : ℚ := items.countP (fun item => ¬ OnGrid 6 (cost item)) / (2 * total)
    lowest - slack ≤ unit ∧ unit ≤ highest + slack := by
  intro cost total unit slack
  have counted : 0 < total := sum_tokens_pos positive nonempty
  have scale : (0 : ℚ) < total := by exact_mod_cast counted
  obtain ⟨low, high⟩ := sum_prices_between positive within
  have error := abs_le.mp (abs_sum_roundTo_sub_le 6 cost items)
  have exact : (items.map cost).sum = (items.map (fun item => price item * tokens item)).sum / 1000000 := by
    rw [div_eq_mul_inv, ← List.sum_map_mul_right]
    congr 1
    apply List.map_congr_left
    intro item _
    norm_num [cost]
    ring
  have billed : unit * total = (items.map (fun item => roundTo 6 (cost item))).sum * 1000000 := by
    have larger : max total 1 = total := max_eq_left counted
    simp only [unit]
    rw [larger, mul_right_comm, div_mul_cancel₀ _ scale.ne']
  have spread : slack * total = items.countP (fun item => ¬ OnGrid 6 (cost item)) / 2 := by
    simp only [slack]
    field_simp
  rw [exact] at error
  constructor
  · apply le_of_mul_le_mul_right _ scale
    rw [sub_mul, spread, billed]
    linarith
  · apply le_of_mul_le_mul_right _ scale
    rw [add_mul, spread, billed]
    linarith

end Bounds

section UnitCost

def servedPrices (config : ExperimentConfig) (results : List RequestResult) : List ℚ :=
  (results.filter RequestResult.admitted).filterMap (fun result =>
    config.priceOf result.decision.clusterId result.decision.poolId)

def admittedTokens (results : List RequestResult) : ℤ :=
  ((results.filter RequestResult.admitted).map (fun result => result.request.totalTokens)).sum

def unroundedCost (config : ExperimentConfig) (result : RequestResult) : ℚ :=
  (config.priceOf result.decision.clusterId result.decision.poolId).getD 0 *
    (result.request.totalTokens / 1000000.0)

/-- How many admitted requests cost no whole number of millionths. -/
def inexactCosts (config : ExperimentConfig) (results : List RequestResult) : ℕ :=
  (results.filter RequestResult.admitted).countP (fun result => ¬ OnGrid 6 (unroundedCost config result))

variable {config : ExperimentConfig} {engine : SimulationEngine} {lowest highest : ℚ}

theorem totalTokens_pos (request : InferenceRequest) : 0 < request.totalTokens :=
  add_pos request.tokens_positive.1 request.tokens_positive.2

theorem admittedTokens_pos {results : List RequestResult} (nonempty : results.filter RequestResult.admitted ≠ []) :
    0 < admittedTokens results :=
  sum_tokens_pos (fun result _ => totalTokens_pos result.request) nonempty

theorem servedPrices_onGrid
    (gridded : ∀ cluster ∈ config.clusters, ∀ pool ∈ cluster.pools, OnGrid 4 pool.costPer1mTokens)
    {results : List RequestResult} {price : ℚ} (member : price ∈ servedPrices config results) : OnGrid 4 price := by
  obtain ⟨result, _, found⟩ := List.mem_filterMap.mp member
  obtain ⟨cluster, inClusters, pool, inPools, rfl⟩ := ExperimentConfig.priceOf_listed found
  exact gridded cluster inClusters pool inPools

theorem Priced.costUsd (priced : Priced config engine) {result : RequestResult}
    (kept : result ∈ engine.metrics.results.filter RequestResult.admitted) :
    result.costUsd = roundTo 6 (unroundedCost config result) ∧
      (config.priceOf result.decision.clusterId result.decision.poolId).getD 0 ∈
        servedPrices config engine.metrics.results := by
  obtain ⟨recorded, admitted⟩ := List.mem_filter.mp kept
  obtain ⟨price, listed, billed⟩ := priced.billed result recorded admitted
  rw [unroundedCost, listed, Option.getD_some]
  exact ⟨billed, List.mem_filterMap.mpr ⟨result, kept, listed⟩⟩

theorem Priced.unit_cost (priced : Priced config engine) (some_admitted : 0 < engine.report.summary.requestsAdmitted)
    (within : ∀ price ∈ servedPrices config engine.metrics.results, lowest ≤ price ∧ price ≤ highest) :
    let results := engine.metrics.results
    let slack : ℚ := inexactCosts config results / (2 * admittedTokens results)
    roundTo 4 (lowest - slack) ≤ engine.report.summary.costPer1mTokensUsd ∧
      engine.report.summary.costPer1mTokensUsd ≤ roundTo 4 (highest + slack) := by
  intro results slack
  let admitted := results.filter RequestResult.admitted
  let tokens (result : RequestResult) : ℤ := result.request.totalTokens
  have bounds := @unit_cost_between _ admitted
    (fun result => (config.priceOf result.decision.clusterId result.decision.poolId).getD 0) tokens lowest highest
    (fun result _ => totalTokens_pos result.request) (List.length_pos_iff.mp some_admitted)
    (fun result kept => within _ (priced.costUsd kept).2)
  have costs : admitted.map RequestResult.costUsd =
      admitted.map (fun result => roundTo 6 (unroundedCost config result)) :=
    List.map_congr_left (fun result kept => (priced.costUsd kept).1)
  have unit : engine.report.summary.costPer1mTokensUsd = roundTo 4
      ((admitted.map RequestResult.costUsd).sum / (max (admitted.map tokens).sum 1 : ℤ) * 1000000) := rfl
  rw [unit, costs]
  exact ⟨roundTo_mono 4 bounds.1, roundTo_mono 4 bounds.2⟩

/-- Where few costs are inexact for the tokens there are, the slack is lost in the rounding of the unit cost. -/
theorem roundTo_slack {price slack : ℚ} (gridded : OnGrid 4 price) (nonneg : 0 ≤ slack)
    (small : slack < 1 / 2 / 10 ^ 4) : roundTo 4 (price - slack) = price ∧ roundTo 4 (price + slack) = price := by
  constructor
  · apply gridded.roundTo_of_near
    rwa [sub_sub_cancel_left, abs_neg, abs_of_nonneg nonneg]
  · apply gridded.roundTo_of_near
    rwa [add_sub_cancel_left, abs_of_nonneg nonneg]

/-- The unit cost of a run is between the prices that were charged, but for half a millionth for every admitted request
    with an inexact cost, spread over the tokens of all of them. -/
theorem unit_cost_within_prices (config : ExperimentConfig) (environment : Environment) (azureAvailable : Bool)
    (gridded : ∀ cluster ∈ config.clusters, ∀ pool ∈ cluster.pools, OnGrid 4 pool.costPer1mTokens)
    (engine final : SimulationEngine) (created : create config environment azureAvailable = .ok engine)
    (requests : List InferenceRequest) (results : List RequestResult)
    (returned : (requests.mapM serve) engine = .ok results final)
    (some_admitted : 0 < final.report.summary.requestsAdmitted) :
    let unit := final.report.summary.costPer1mTokensUsd
    let tokens := admittedTokens results
    let slack : ℚ := inexactCosts config results / (2 * tokens)
    ∃ lowest highest, (servedPrices config results).min? = some lowest ∧
      (servedPrices config results).max? = some highest ∧
      roundTo 4 (lowest - slack) ≤ unit ∧ unit ≤ roundTo 4 (highest + slack) ∧
      (10000 * inexactCosts config results < tokens → lowest ≤ unit ∧ unit ≤ highest ∧
        ∀ price, (∀ served ∈ servedPrices config results, served = price) → unit = price) := by
  intro unit tokens slack
  obtain ⟨priced, recorded⟩ := priced_run created returned
  obtain ⟨first, kept⟩ := List.exists_mem_of_length_pos some_admitted
  have charged : servedPrices config results ≠ [] := by
    rw [← recorded]
    exact List.ne_nil_of_mem (priced.costUsd kept).2
  obtain ⟨lowest, least⟩ := Option.isSome_iff_exists.mp (List.isSome_min?_of_ne_nil charged)
  obtain ⟨highest, greatest⟩ := Option.isSome_iff_exists.mp (List.isSome_max?_of_ne_nil charged)
  obtain ⟨lowestServed, below⟩ := List.min?_eq_some_iff.mp least
  obtain ⟨highestServed, above⟩ := List.max?_eq_some_iff.mp greatest
  have bounds := priced.unit_cost some_admitted
    (fun price member => ⟨below price (recorded ▸ member), above price (recorded ▸ member)⟩)
  rw [recorded] at bounds
  refine ⟨lowest, highest, least, greatest, bounds.1, bounds.2, ?_⟩
  intro few
  rw [recorded] at kept
  have scale : (0 : ℚ) < tokens := by exact_mod_cast admittedTokens_pos (List.ne_nil_of_mem kept)
  have nonneg : 0 ≤ slack := by positivity
  have small : slack < 1 / 2 / 10 ^ 4 := by
    have fewer : 10000 * (inexactCosts config results : ℚ) < tokens := by exact_mod_cast few
    rw [div_lt_iff₀ (by positivity)]
    linarith
  have low : lowest ≤ unit := by
    rw [← (roundTo_slack (servedPrices_onGrid gridded lowestServed) nonneg small).1]
    exact bounds.1
  have high : unit ≤ highest := by
    rw [← (roundTo_slack (servedPrices_onGrid gridded highestServed) nonneg small).2]
    exact bounds.2
  refine ⟨low, high, ?_⟩
  intro price same
  rw [same lowest lowestServed] at low
  rw [same highest highestServed] at high
  exact le_antisymm high low

def pricedConfig (first second : ℚ) : ExperimentConfig :=
  { ControlPlane.sessionConfig 1 8 80 with
    clusters := (ControlPlane.sessionConfig 1 8 80).clusters.map (fun spec =>
      { spec with pools := spec.pools.flatMap (fun pool =>
          [{ pool with costPer1mTokens := first }, { pool with poolId := "p2", costPer1mTokens := second }]) }) }

def summaryOf (config : ExperimentConfig) (requests : List InferenceRequest) : Option (List RequestResult × Summary) :=
  match create config (ControlPlane.sessionEnvironment (emptyStore false)) false with
  | .error _ => none
  | .ok engine =>
    match (requests.mapM serve) engine with
    | .error _ _ => none
    | .ok results final => some (results, final.report.summary)

theorem summaryOf_eq_some {requests : List InferenceRequest} {results : List RequestResult} {summary : Summary}
    (ran : summaryOf config requests = some (results, summary)) :
    ∃ engine final, create config (ControlPlane.sessionEnvironment (emptyStore false)) false = .ok engine ∧
      (requests.mapM serve) engine = .ok results final ∧ final.report.summary = summary := by
  unfold summaryOf at ran
  split at ran
  · cases ran
  · rename_i engine created
    split at ran
    · cases ran
    · rename_i final returned
      cases ran
      exact ⟨engine, final, created, returned, rfl⟩

theorem unit_cost_within_prices_two_pools :
    ∃ engine results final,
      create (pricedConfig 1.5 2.5) (ControlPlane.sessionEnvironment (emptyStore false)) false = .ok engine ∧
      ([sessionRequest 1000, sessionRequest 1000].mapM serve) engine = .ok results final ∧
      servedPrices (pricedConfig 1.5 2.5) results = [1.5, 2.5] ∧
      1.5 ≤ final.report.summary.costPer1mTokensUsd ∧ final.report.summary.costPer1mTokensUsd ≤ 2.5 := by
  have ran : (summaryOf (pricedConfig 1.5 2.5) [sessionRequest 1000, sessionRequest 1000]).map (fun outcome =>
      (outcome.2.requestsAdmitted, servedPrices (pricedConfig 1.5 2.5) outcome.1,
        inexactCosts (pricedConfig 1.5 2.5) outcome.1, admittedTokens outcome.1)) = some (2, [1.5, 2.5], 0, 3024) := by
    decide +kernel
  obtain ⟨⟨results, summary⟩, value, figures⟩ := Option.map_eq_some_iff.mp ran
  obtain ⟨engine, final, created, returned, rfl⟩ := summaryOf_eq_some value
  simp only [Prod.mk.injEq] at figures
  obtain ⟨admitted, prices, inexact, tokens⟩ := figures
  obtain ⟨lowest, highest, least, greatest, _, _, inside⟩ := unit_cost_within_prices _ _ _ (by decide +kernel) engine
    final created _ results returned (by omega)
  rw [prices] at least greatest
  have ends : [(1.5 : ℚ), 2.5].min? = some 1.5 ∧ [(1.5 : ℚ), 2.5].max? = some 2.5 := by decide +kernel
  cases least.symm.trans ends.1
  cases greatest.symm.trans ends.2
  obtain ⟨low, high, _⟩ := inside (by omega)
  exact ⟨engine, results, final, created, returned, prices, low, high⟩

/-- At 1.7 a million 1513 tokens cost 0.0025721, which is billed as 0.002572. -/
theorem unit_cost_below_only_price :
    (∀ cluster ∈ (pricedConfig 1.7 1.7).clusters, ∀ pool ∈ cluster.pools,
      0 ≤ pool.costPer1mTokens ∧ OnGrid 4 pool.costPer1mTokens) ∧
    ∃ engine results final,
      create (pricedConfig 1.7 1.7) (ControlPlane.sessionEnvironment (emptyStore false)) false = .ok engine ∧
      ([sessionRequest 1001].mapM serve) engine = .ok results final ∧
      final.report.summary.requestsAdmitted = 1 ∧ servedPrices (pricedConfig 1.7 1.7) results = [1.7] ∧
      final.report.summary.costPer1mTokensUsd = 1.6999 := by
  have ran : (summaryOf (pricedConfig 1.7 1.7) [sessionRequest 1001]).map (fun outcome =>
      (outcome.2.requestsAdmitted, servedPrices (pricedConfig 1.7 1.7) outcome.1, outcome.2.costPer1mTokensUsd)) =
        some (1, [1.7], 1.6999) := by
    decide +kernel
  obtain ⟨⟨results, summary⟩, value, figures⟩ := Option.map_eq_some_iff.mp ran
  obtain ⟨engine, final, created, returned, rfl⟩ := summaryOf_eq_some value
  simp only [Prod.mk.injEq] at figures
  exact ⟨by decide +kernel, engine, results, final, created, returned, figures⟩

end UnitCost

end SimulationEngine

end NimbusMesh
