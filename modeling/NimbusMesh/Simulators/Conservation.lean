import NimbusMesh.ControlPlane.Counterpart
import NimbusMesh.Simulators.Exactness

namespace NimbusMesh

open Foundation Foundation.Decimal Foundation.Execution

def TenantStats.counted (stats : TenantStats) (result : RequestResult) : TenantStats :=
  { stats with
    completed := stats.completed + 1
    totalLatencyMs := stats.totalLatencyMs + result.totalLatencyMs
    slaMisses := stats.slaMisses + if result.slaMet then 0 else 1 }

namespace ControlPlane

variable {request : InferenceRequest} {now : ℚ} {plane final : ControlPlane} {result : RequestResult}

theorem execute_request (returned : execute request now plane = .ok result final) : result.request = request := by
  obtain ⟨_, _, _, _, _, _, _, _, _, _, _, outcome⟩ := execute_returned returned
  rcases outcome with ⟨_, rfl, _⟩ | ⟨_, scheduler, placing, _⟩
  · rfl
  · obtain ⟨_, _, rfl, _, _⟩ := placeRequest_eq_ok placing
    rfl

theorem execute_tenantStats (returned : execute request now plane = .ok result final) :
    final.tenantStats = if result.admitted then
      Dict.set plane.tenantStats request.tenantId ((plane.tenant request.tenantId).counted result)
      else plane.tenantStats := by
  obtain ⟨_, _, _, _, _, _, _, _, _, _, _, outcome⟩ := execute_returned returned
  rcases outcome with ⟨_, rfl, rfl⟩ | ⟨_, scheduler, placing, rfl⟩
  · rfl
  · obtain ⟨_, _, rfl, _, _⟩ := placeRequest_eq_ok placing
    rfl

def completedTotal (plane : ControlPlane) : ℕ :=
  (plane.clusters.toList.map (fun cluster => (cluster.pools.toList.map PoolRuntime.completedCount).sum)).sum

theorem sum_placements (plane : ControlPlane) :
    (plane.placements.map (fun placement => placement.2.completedCount)).sum = plane.completedTotal := by
  unfold placements completedTotal
  induction plane.clusters.toList with
  | nil => rfl
  | cons cluster rest ih =>
    rw [List.flatMap_cons, List.map_append, List.sum_append, ih, List.map_map, List.map_cons, List.sum_cons]
    rfl

theorem completedTotal_setPool {cluster : ClusterRuntime} {replaced : PoolRuntime} (pool : PoolRuntime)
    (found : plane.clusters.get? cluster.clusterId = some cluster)
    (held : cluster.pools.get? pool.poolId = some replaced) :
    (plane.setPool cluster pool).completedTotal + replaced.completedCount =
      plane.completedTotal + pool.completedCount := by
  have inner := KeyedList.sum_insert PoolRuntime.completedCount cluster.pools pool
  have outer := KeyedList.sum_insert
    (fun cluster : ClusterRuntime => (cluster.pools.toList.map PoolRuntime.completedCount).sum) plane.clusters
    { cluster with pools := cluster.pools.insert pool }
  rw [held] at inner
  rw [found] at outer
  simp only [Option.map_some, Option.getD_some] at inner outer
  unfold setPool completedTotal
  dsimp only
  omega

theorem completedTotal_refresh (plane : ControlPlane) (now : ℚ) :
    (plane.refresh now).completedTotal = plane.completedTotal := by
  obtain ⟨_, _, refreshed⟩ := refresh_eq plane now
  rw [refreshed]
  simp only [completedTotal, KeyedList.map, List.map_map]
  congr 1
  apply List.map_congr_left
  intro cluster _
  simp only [Function.comp, refreshedCluster, KeyedList.map, List.map_map]
  rfl

theorem execute_completedTotal (returned : execute request now plane = .ok result final) :
    final.completedTotal = plane.completedTotal + if result.admitted then 1 else 0 := by
  obtain ⟨_, _, choice, cluster, pool, _, _, _, chosen, outcome⟩ := execute_eq_ok returned
  rcases outcome with ⟨_, rejected, rfl⟩ | ⟨_, call, scheduler, _, _, _, _, _, placing, rfl⟩
  · rw [rejected]
    rfl
  · obtain ⟨slotIndex, _, rfl, booked, _⟩ := placeRequest_eq_ok placing
    obtain ⟨owner, held⟩ := poolAt_eq_some chosen.found
    rw [← chosen.clusterId] at owner
    rw [← chosen.poolId] at held
    have counted := completedTotal_setPool (servedPool call pool slotIndex) owner held
    have one : (servedPool call pool slotIndex).completedCount = pool.completedCount + 1 := rfl
    rw [booked]
    change (plane.setPool cluster (servedPool call pool slotIndex)).completedTotal = plane.completedTotal + 1
    omega

theorem execute_absent (returned : execute request now plane = .ok result final) {clusterId poolId : String}
    (absent : plane.poolIn clusterId poolId = none) : final.poolIn clusterId poolId = none := by
  obtain ⟨_, _, choice, cluster, pool, _, _, _, chosen, outcome⟩ := execute_eq_ok returned
  rcases outcome with ⟨_, _, rfl⟩ | ⟨_, call, scheduler, _, _, _, _, _, placing, rfl⟩
  · exact absent
  · obtain ⟨slotIndex, _, rfl, booked, _⟩ := placeRequest_eq_ok placing
    have owner := (poolAt_eq_some chosen.found).1
    rw [← chosen.clusterId] at owner
    have replaced := poolIn_setPool owner (servedPool call pool slotIndex) clusterId poolId
    rw [booked]
    refine replaced.trans ?_
    have other : ¬ (cluster.clusterId = clusterId ∧ (servedPool call pool slotIndex).poolId = poolId) := by
      rintro ⟨rfl, rfl⟩
      have located := poolIn_of_poolAt chosen.found
      rw [← chosen.clusterId, ← chosen.poolId] at located
      cases located.symm.trans absent
    rw [if_neg other]
    exact absent

theorem tenant_noteSubmission (plane : ControlPlane) (request : InferenceRequest) (tenantId : String) :
    (plane.noteSubmission request).tenant tenantId =
      { plane.tenant tenantId with
        submitted := (plane.tenant tenantId).submitted + if request.tenantId = tenantId then 1 else 0 } := by
  unfold noteSubmission tenant
  rw [Dict.lookup_set]
  split
  · rename_i same
    rw [same]
    rfl
  · rfl

theorem tenant_execute (returned : execute request now plane = .ok result final) (tenantId : String) :
    final.tenant tenantId = if request.tenantId = tenantId ∧ result.admitted = true
      then (plane.tenant tenantId).counted result else plane.tenant tenantId := by
  have stats := execute_tenantStats returned
  unfold tenant
  cases admitted : result.admitted with
  | false =>
    rw [admitted] at stats
    rw [stats]
    simp
  | true =>
    rw [admitted, if_pos rfl] at stats
    rw [stats, Dict.lookup_set]
    by_cases same : request.tenantId = tenantId
    · simp [same, tenant]
    · simp [same]

def missesTotal (plane : ControlPlane) : ℕ := ((Dict.values plane.tenantStats).map TenantStats.slaMisses).sum

theorem sum_misses_set (stats : Dict String TenantStats) (tenantId : String) (changed : TenantStats) :
    ((Dict.values (Dict.set stats tenantId changed)).map TenantStats.slaMisses).sum +
        ((Dict.lookup stats tenantId).getD {}).slaMisses =
      ((Dict.values stats).map TenantStats.slaMisses).sum + changed.slaMisses := by
  have changing := Dict.sum_set TenantStats.slaMisses stats tenantId changed
  have held : ((Dict.lookup stats tenantId).map TenantStats.slaMisses).getD 0 =
      ((Dict.lookup stats tenantId).getD {}).slaMisses := by
    cases Dict.lookup stats tenantId <;> rfl
  rwa [held] at changing

theorem missesTotal_noteSubmission (plane : ControlPlane) (request : InferenceRequest) :
    (plane.noteSubmission request).missesTotal = plane.missesTotal := by
  have changed := sum_misses_set plane.tenantStats request.tenantId
    { plane.tenant request.tenantId with submitted := (plane.tenant request.tenantId).submitted + 1 }
  have same : ((Dict.lookup plane.tenantStats request.tenantId).getD {}).slaMisses =
      (plane.tenant request.tenantId).slaMisses := rfl
  unfold missesTotal noteSubmission
  dsimp only at changed ⊢
  omega

theorem execute_missesTotal (returned : execute request now plane = .ok result final) :
    final.missesTotal = plane.missesTotal + if result.admitted && !result.slaMet then 1 else 0 := by
  unfold missesTotal
  rw [execute_tenantStats returned]
  cases result.admitted with
  | false => rfl
  | true =>
    have changed := sum_misses_set plane.tenantStats request.tenantId
      ((plane.tenant request.tenantId).counted result)
    have same : ((Dict.lookup plane.tenantStats request.tenantId).getD {}).slaMisses =
        (plane.tenant request.tenantId).slaMisses := rfl
    have counted : ((plane.tenant request.tenantId).counted result).slaMisses =
        (plane.tenant request.tenantId).slaMisses + if true && !result.slaMet then 1 else 0 := by
      unfold TenantStats.counted
      cases result.slaMet <;> rfl
    rw [if_pos rfl]
    omega

theorem execute_poolCounts (arrival : Arrival)
    (returned : execute arrival.request arrival.now plane = .ok result final)
    {clusterId poolId : String} {pool : PoolRuntime} (found : final.poolIn clusterId poolId = some pool) :
    ∃ before, plane.poolIn clusterId poolId = some before ∧
      pool.decisionCount = before.decisionCount + (if AdmittedOn clusterId poolId result then 1 else 0) ∧
      pool.completedCount = before.completedCount + (if AdmittedOn clusterId poolId result then 1 else 0) := by
  cases held : plane.poolIn clusterId poolId with
  | none => cases (execute_absent returned held).symm.trans found
  | some before =>
    rcases execute_pools returned held with ⟨elsewhere, same⟩ | ⟨here, call, slotIndex, _, served⟩
    · cases same.symm.trans found
      exact ⟨_, rfl, by rw [if_neg elsewhere]; rfl, by rw [if_neg elsewhere]; rfl⟩
    · cases served.symm.trans found
      exact ⟨before, rfl, by rw [if_pos here]; rfl, by rw [if_pos here]; rfl⟩

theorem refresh_poolCounts (plane : ControlPlane) (now : ℚ) {clusterId poolId : String} {pool : PoolRuntime}
    (found : (plane.refresh now).poolIn clusterId poolId = some pool) :
    ∃ before, plane.poolIn clusterId poolId = some before ∧ pool.decisionCount = before.decisionCount ∧
      pool.completedCount = before.completedCount := by
  have present := poolIn_refresh_isSome plane now clusterId poolId
  rw [found] at present
  obtain ⟨before, held⟩ := Option.isSome_iff_exists.mp present.symm
  obtain ⟨cluster, _, same⟩ := poolIn_refresh now held
  cases same.symm.trans found
  exact ⟨before, held, rfl, rfl⟩

end ControlPlane

namespace MetricsCollector

/-- The miss rate of the summary before it is rounded. -/
def slaMissRate (metrics : MetricsCollector) : ℚ :=
  let admitted := metrics.results.filter RequestResult.admitted
  1.0 - (admitted.countP RequestResult.slaMet : ℚ) / max 1 admitted.length

def completionRatios (metrics : MetricsCollector) : List ℚ :=
  metrics.tenantSubmitted.toList.map (fun tenant =>
    ((Dict.lookup metrics.tenantCompleted tenant.1).getD 0 : ℚ) / max 1 tenant.2)

end MetricsCollector

namespace SimulationEngine

/-- The requests of a tenant, its admitted results, and those of them that missed their latency. -/
def submissions (requests : List InferenceRequest) (tenantId : String) : ℕ :=
  requests.countP (fun request => request.tenantId = tenantId)

def completions (results : List RequestResult) (tenantId : String) : ℕ :=
  results.countP (fun result => decide (result.request.tenantId = tenantId) && result.admitted)

def misses (results : List RequestResult) (tenantId : String) : ℕ :=
  results.countP (fun result => decide (result.request.tenantId = tenantId) && (result.admitted && !result.slaMet))

def clusterCost (results : List RequestResult) (clusterId : String) : ℚ :=
  (results.map (fun result => if result.decision.clusterId = clusterId then result.costUsd else 0)).sum

/-- Every counter of the engine, of its control plane, of its metrics and of the cloud simulation is the
    number of the requests so far, or of the results so far, that it counts. -/
structure Conserved (requests : List InferenceRequest) (results : List RequestResult) (engine : SimulationEngine) :
    Prop where
  answered : results.map RequestResult.request = requests
  recorded : engine.metrics.results = results
  pools : ∀ clusterId poolId pool, engine.controlPlane.poolIn clusterId poolId = some pool →
    pool.decisionCount = results.countP (fun result => ControlPlane.AdmittedOn clusterId poolId result) ∧
      pool.completedCount = results.countP (fun result => ControlPlane.AdmittedOn clusterId poolId result)
  submitted : ∀ tenantId, (engine.controlPlane.tenant tenantId).submitted = submissions requests tenantId ∧
    (Dict.lookup engine.metrics.tenantSubmitted tenantId).getD 0 = submissions requests tenantId
  completed : ∀ tenantId, (engine.controlPlane.tenant tenantId).completed = completions results tenantId ∧
    (Dict.lookup engine.metrics.tenantCompleted tenantId).getD 0 = completions results tenantId
  missed : ∀ tenantId, (engine.controlPlane.tenant tenantId).slaMisses = misses results tenantId
  poolTotal : engine.controlPlane.completedTotal = results.countP RequestResult.admitted
  missTotal : engine.controlPlane.missesTotal = results.countP (fun result => result.admitted && !result.slaMet)
  azure : engine.azure.available = true → engine.azure.submitted = requests.length ∧
    engine.azure.completed = results.countP RequestResult.admitted ∧
    ∀ clusterId, (Dict.lookup engine.azure.clusterCosts clusterId).getD 0 = clusterCost results clusterId

variable {requests : List InferenceRequest} {results : List RequestResult} {engine final : SimulationEngine}
  {request : InferenceRequest} {result : RequestResult}

theorem serve_counters (returned : serve request engine = .ok result final) :
    ControlPlane.execute request request.arrivalTs (engine.submitted request) = .ok result final.controlPlane ∧
      final.metrics = (engine.metrics.noteSubmission request.tenantId).record result ∧
      final.azure = engine.azure.noteSubmission.recordResult result := by
  simp only [serve] at returned
  split at returned
  · cases returned
  · rename_i execution
    split at returned
    · cases returned
    · cases returned
      exact ⟨execution, rfl, rfl⟩

section Step

variable (conserved : Conserved requests results engine) (returned : serve request engine = .ok result final)

include conserved returned

theorem Conserved.pools_serve (clusterId poolId : String) (pool : PoolRuntime)
    (found : final.controlPlane.poolIn clusterId poolId = some pool) :
    pool.decisionCount = (results ++ [result]).countP (fun result => ControlPlane.AdmittedOn clusterId poolId result) ∧
      pool.completedCount =
        (results ++ [result]).countP (fun result => ControlPlane.AdmittedOn clusterId poolId result) := by
  obtain ⟨executed, _, _⟩ := serve_counters returned
  obtain ⟨refreshed, held, decided, completed⟩ :=
    ControlPlane.execute_poolCounts ⟨request, request.arrivalTs⟩ executed found
  obtain ⟨before, inside, sameDecided, sameCompleted⟩ := ControlPlane.refresh_poolCounts engine.controlPlane
    request.arrivalTs held
  obtain ⟨earlierDecided, earlierCompleted⟩ := conserved.pools clusterId poolId before inside
  rw [List.countP_append, List.countP_singleton]
  simp only [decide_eq_true_eq]
  omega

theorem Conserved.submitted_serve (tenantId : String) :
    (final.controlPlane.tenant tenantId).submitted = submissions (requests ++ [request]) tenantId ∧
      (Dict.lookup final.metrics.tenantSubmitted tenantId).getD 0 = submissions (requests ++ [request]) tenantId := by
  obtain ⟨executed, metrics, _⟩ := serve_counters returned
  obtain ⟨stats, counter⟩ := conserved.submitted tenantId
  have kept : (final.controlPlane.tenant tenantId).submitted =
      ((engine.submitted request).tenant tenantId).submitted := by
    rw [ControlPlane.tenant_execute executed tenantId]
    split <;> rfl
  have noted : ((engine.submitted request).tenant tenantId).submitted =
      (engine.controlPlane.tenant tenantId).submitted + if request.tenantId = tenantId then 1 else 0 := by
    rw [SimulationEngine.submitted, ControlPlane.tenant_noteSubmission]
    rfl
  have counted : (Dict.lookup final.metrics.tenantSubmitted tenantId).getD 0 =
      (Dict.lookup engine.metrics.tenantSubmitted tenantId).getD 0 + if request.tenantId = tenantId then 1 else 0 := by
    rw [metrics]
    exact Dict.lookup_add engine.metrics.tenantSubmitted request.tenantId tenantId 1
  have more : submissions (requests ++ [request]) tenantId =
      submissions requests tenantId + if request.tenantId = tenantId then 1 else 0 := by
    simp [submissions, List.countP_singleton]
  omega

theorem Conserved.completed_serve (tenantId : String) :
    (final.controlPlane.tenant tenantId).completed = completions (results ++ [result]) tenantId ∧
      (Dict.lookup final.metrics.tenantCompleted tenantId).getD 0 = completions (results ++ [result]) tenantId := by
  obtain ⟨executed, metrics, _⟩ := serve_counters returned
  obtain ⟨stats, counter⟩ := conserved.completed tenantId
  have own := ControlPlane.execute_request executed
  have noted : ((engine.submitted request).tenant tenantId).completed =
      (engine.controlPlane.tenant tenantId).completed := by
    rw [SimulationEngine.submitted, ControlPlane.tenant_noteSubmission]
    rfl
  have more : completions (results ++ [result]) tenantId =
      completions results tenantId + if request.tenantId = tenantId ∧ result.admitted = true then 1 else 0 := by
    simp [completions, List.countP_singleton, own]
  have kept : (final.controlPlane.tenant tenantId).completed = ((engine.submitted request).tenant tenantId).completed +
      if request.tenantId = tenantId ∧ result.admitted = true then 1 else 0 := by
    rw [ControlPlane.tenant_execute executed tenantId]
    split <;> rfl
  have counted : (Dict.lookup final.metrics.tenantCompleted tenantId).getD 0 =
      (Dict.lookup engine.metrics.tenantCompleted tenantId).getD 0 +
        if request.tenantId = tenantId ∧ result.admitted = true then 1 else 0 := by
    have added := Dict.lookup_add engine.metrics.tenantCompleted result.request.tenantId tenantId
      (if result.admitted then 1 else 0)
    rw [own] at added
    rw [metrics, MetricsCollector.record, own, ite_and]
    exact added
  omega

theorem Conserved.missed_serve (tenantId : String) :
    (final.controlPlane.tenant tenantId).slaMisses = misses (results ++ [result]) tenantId := by
  obtain ⟨executed, _, _⟩ := serve_counters returned
  have earlier := conserved.missed tenantId
  have own := ControlPlane.execute_request executed
  have noted : ((engine.submitted request).tenant tenantId).slaMisses =
      (engine.controlPlane.tenant tenantId).slaMisses := by
    rw [SimulationEngine.submitted, ControlPlane.tenant_noteSubmission]
    rfl
  have more : misses (results ++ [result]) tenantId = misses results tenantId +
      if request.tenantId = tenantId ∧ result.admitted = true ∧ result.slaMet = false then 1 else 0 := by
    simp [misses, List.countP_singleton, own]
  have kept : (final.controlPlane.tenant tenantId).slaMisses = ((engine.submitted request).tenant tenantId).slaMisses +
      if request.tenantId = tenantId ∧ result.admitted = true ∧ result.slaMet = false then 1 else 0 := by
    rw [ControlPlane.tenant_execute executed tenantId]
    by_cases counts : request.tenantId = tenantId ∧ result.admitted = true
    · cases met : result.slaMet <;> simp [counts, TenantStats.counted, met]
    · rw [if_neg counts, if_neg (fun all => counts ⟨all.1, all.2.1⟩)]
      rfl
  omega

theorem Conserved.azure_serve (available : final.azure.available = true) :
    final.azure.submitted = (requests ++ [request]).length ∧
      final.azure.completed = (results ++ [result]).countP RequestResult.admitted ∧
      ∀ clusterId, (Dict.lookup final.azure.clusterCosts clusterId).getD 0 =
        clusterCost (results ++ [result]) clusterId := by
  obtain ⟨_, _, azure⟩ := serve_counters returned
  have before : engine.azure.available = true := by
    cases off : engine.azure.available with
    | true => rfl
    | false => simp [azure, AzureInfraSimulator.recordResult, AzureInfraSimulator.noteSubmission, off] at available
  obtain ⟨submitted, completed, costs⟩ := conserved.azure before
  simp only [azure, AzureInfraSimulator.recordResult, AzureInfraSimulator.noteSubmission, before, if_true]
  refine ⟨?_, ?_, ?_⟩
  · rw [submitted, List.length_append, List.length_singleton]
  · rw [completed, List.countP_append, List.countP_singleton]
  · intro clusterId
    rw [Dict.lookup_add, costs clusterId]
    simp [clusterCost]

theorem Conserved.serve : Conserved (requests ++ [request]) (results ++ [result]) final := by
  obtain ⟨executed, metrics, _⟩ := serve_counters returned
  refine ⟨?_, ?_, conserved.pools_serve returned, conserved.submitted_serve returned,
    conserved.completed_serve returned, conserved.missed_serve returned, ?_, ?_, conserved.azure_serve returned⟩
  · rw [List.map_append, conserved.answered, List.map_singleton, ControlPlane.execute_request executed]
  · rw [metrics, MetricsCollector.record, MetricsCollector.noteSubmission, conserved.recorded]
  · have total := ControlPlane.execute_completedTotal executed
    have refreshed : (engine.submitted request).completedTotal = engine.controlPlane.completedTotal :=
      ControlPlane.completedTotal_refresh engine.controlPlane request.arrivalTs
    rw [total, refreshed, conserved.poolTotal, List.countP_append, List.countP_singleton]
  · have total := ControlPlane.execute_missesTotal executed
    have noted : (engine.submitted request).missesTotal = engine.controlPlane.missesTotal :=
      ControlPlane.missesTotal_noteSubmission (engine.controlPlane.refresh request.arrivalTs) request
    rw [total, noted, conserved.missTotal, List.countP_append, List.countP_singleton]

end Step

variable {config : ExperimentConfig} {environment : Environment} {azureAvailable : Bool}

theorem conserved_create (created : create config environment azureAvailable = .ok engine) :
    Conserved [] [] engine := by
  obtain ⟨plane, planeCreated, built⟩ := except_bind_eq_ok.mp created
  cases built
  have stats : plane.tenantStats = KeyedList.empty := by
    obtain ⟨policy, _, same⟩ := except_bind_eq_ok.mp planeCreated
    cases same
    rfl
  have tenants : ∀ tenantId, plane.tenant tenantId = {} := by
    intro tenantId
    unfold ControlPlane.tenant
    rw [stats]
    rfl
  refine ⟨rfl, rfl, ?_, ?_, ?_, ?_, ?_, ?_, ?_⟩
  · intro clusterId poolId pool found
    obtain ⟨cluster, spec, rfl⟩ := ControlPlane.poolIn_create planeCreated found
    exact ⟨rfl, rfl⟩
  · intro tenantId
    rw [tenants]
    exact ⟨rfl, rfl⟩
  · intro tenantId
    rw [tenants]
    exact ⟨rfl, rfl⟩
  · intro tenantId
    rw [tenants]
    rfl
  · apply List.sum_eq_zero
    intro total summed
    obtain ⟨cluster, inClusters, rfl⟩ := List.mem_map.mp summed
    apply List.sum_eq_zero
    intro count counted
    obtain ⟨pool, inPools, rfl⟩ := List.mem_map.mp counted
    have found : plane.poolIn cluster.clusterId pool.poolId = some pool :=
      ControlPlane.poolIn_of_poolAt (ControlPlane.poolAt_of_mem_placements
        (List.mem_flatMap.mpr ⟨cluster, inClusters, List.mem_map_of_mem inPools⟩))
    obtain ⟨_, _, rfl⟩ := ControlPlane.poolIn_create planeCreated found
    rfl
  · unfold ControlPlane.missesTotal
    rw [stats]
    rfl
  · exact fun _ => ⟨rfl, rfl, fun _ => rfl⟩

theorem Conserved.completions_le (conserved : Conserved requests results engine) (tenantId : String) :
    completions results tenantId ≤ submissions requests tenantId := by
  rw [← conserved.answered, submissions, List.countP_map]
  apply List.countP_mono_left
  intro result _ counts
  exact (Bool.and_eq_true _ _ ▸ counts).1

theorem Conserved.slaMissRate_eq (conserved : Conserved requests results engine)
    (some : 0 < results.countP RequestResult.admitted) :
    engine.metrics.slaMissRate * results.countP RequestResult.admitted = engine.controlPlane.missesTotal := by
  let admitted := results.filter RequestResult.admitted
  have count : admitted.length = results.countP RequestResult.admitted := List.countP_eq_length_filter.symm
  have missed : results.countP (fun result => result.admitted && !result.slaMet) =
      admitted.countP (fun result => !result.slaMet) := by
    rw [List.countP_filter]
    apply List.countP_congr
    intro result _
    rw [Bool.and_comm]
  have parts : admitted.length =
      admitted.countP RequestResult.slaMet + admitted.countP (fun result => !result.slaMet) := by
    rw [List.length_eq_countP_add_countP RequestResult.slaMet]
    congr 1
    apply List.countP_congr
    intro result _
    cases result.slaMet <;> simp
  rw [← count] at some ⊢
  have positive : (0 : ℚ) < admitted.length := Nat.cast_pos.mpr some
  have total : (admitted.length : ℚ) = admitted.countP RequestResult.slaMet +
      admitted.countP (fun result => !result.slaMet) := by exact_mod_cast parts
  have rate : engine.metrics.slaMissRate = 1 - (admitted.countP RequestResult.slaMet : ℚ) / admitted.length := by
    unfold MetricsCollector.slaMissRate
    dsimp only
    rw [conserved.recorded, max_eq_right some]
    norm_num [admitted]
  rw [conserved.missTotal, missed, rate, sub_mul, one_mul, div_mul_cancel₀ _ positive.ne']
  linarith

/-- The counters of a whole run agree with its requests and results, and with each other. -/
theorem requests_conserved (config : ExperimentConfig) (environment : Environment) (azureAvailable : Bool)
    (engine final : SimulationEngine) (created : create config environment azureAvailable = .ok engine)
    (requests : List InferenceRequest) (results : List RequestResult)
    (returned : (requests.mapM serve) engine = .ok results final) :
    Conserved requests results final ∧
      final.report.summary.requestsTotal = requests.length ∧
      (final.pools.map PoolRuntime.completedCount).sum = final.report.summary.requestsAdmitted ∧
      final.report.summary.slaMissRate = roundTo 4 final.metrics.slaMissRate ∧
      (0 < final.report.summary.requestsAdmitted →
        final.metrics.slaMissRate * final.report.summary.requestsAdmitted =
          ((Dict.values final.controlPlane.tenantStats).map TenantStats.slaMisses).sum) ∧
      (final.azure.available = true → final.azure.submitted = final.report.summary.requestsTotal ∧
        final.azure.completed = final.report.summary.requestsAdmitted) ∧
      final.report.summary.fairnessIndex = roundTo 4 (jainsIndex final.metrics.completionRatios) ∧
      ∀ ratio ∈ final.metrics.completionRatios, ratio ≤ 1 := by
  have conserved : Conserved requests results final := by
    let unserved : List (InferenceRequest × RequestResult) := []
    have initial : Conserved (unserved.map Prod.fst) (unserved.map Prod.snd) engine := conserved_create created
    have whole : Conserved (([] ++ requests.zip results).map Prod.fst) (([] ++ requests.zip results).map Prod.snd)
        final := by
      apply run_invariant (fun engine log => Conserved (log.map Prod.fst) (log.map Prod.snd) engine) _
        initial (by simp [unserved]) (List.pairwise_of_forall (fun _ _ => True.intro))
        (along_true serve requests engine) returned
      intro engine log request result final earlier _ _ served
      rw [List.map_append, List.map_append]
      exact earlier.serve served
    have length := mapM_length returned
    rwa [List.nil_append, List.map_fst_zip length.ge, List.map_snd_zip length.le] at whole
  have total : final.report.summary.requestsTotal = results.length :=
    congrArg List.length conserved.recorded
  have admitted : final.report.summary.requestsAdmitted = results.countP RequestResult.admitted := by
    rw [List.countP_eq_length_filter, ← conserved.recorded]
    rfl
  rw [total, admitted, mapM_length returned]
  refine ⟨conserved, rfl, ?_, rfl, conserved.slaMissRate_eq, ?_, rfl, ?_⟩
  · rw [pools, List.map_map, ← conserved.poolTotal]
    exact ControlPlane.sum_placements final.controlPlane
  · intro available
    obtain ⟨submitted, completed, _⟩ := conserved.azure available
    exact ⟨submitted, completed⟩
  · intro ratio member
    obtain ⟨⟨tenantId, submitted⟩, held, rfl⟩ := List.mem_map.mp member
    have found : (Dict.lookup final.metrics.tenantSubmitted tenantId).getD 0 = submitted := by
      unfold Dict.lookup
      rw [KeyedList.get?_eq_some.mpr ⟨held, rfl⟩]
      rfl
    have fewer := conserved.completions_le tenantId
    rw [← (conserved.completed tenantId).2, ← (conserved.submitted tenantId).2, found] at fewer
    have bound : ((Dict.lookup final.metrics.tenantCompleted tenantId).getD 0 : ℚ) ≤ max 1 (submitted : ℚ) :=
      (Nat.cast_le.mpr fewer).trans (le_max_right 1 (submitted : ℚ))
    exact div_le_one_of_le₀ bound (zero_le_one.trans (le_max_left 1 (submitted : ℚ)))

theorem requests_conserved_full_queue :
    let requests := [sessionRequest 1000, sessionRequest 1200]
    ∃ engine final results,
      create (ControlPlane.sessionConfig 1 1 80) (ControlPlane.sessionEnvironment (emptyStore false)) true =
        .ok engine ∧
      (requests.mapM serve) engine = .ok results final ∧ results.map RequestResult.admitted = [true, false] ∧
      Conserved requests results final := by
  intro requests
  have evaluated : ∃ engine, create (ControlPlane.sessionConfig 1 1 80)
      (ControlPlane.sessionEnvironment (emptyStore false)) true = .ok engine ∧
      (valueOf ((requests.mapM serve) engine)).map (fun results => results.map RequestResult.admitted) =
        some [true, false] :=
    ⟨_, rfl, by decide +kernel⟩
  obtain ⟨engine, created, outcome⟩ := evaluated
  obtain ⟨results, value, admitted⟩ := Option.map_eq_some_iff.mp outcome
  obtain ⟨final, returned⟩ := valueOf_eq_some.mp value
  exact ⟨engine, final, results, created, returned, admitted,
    (requests_conserved _ _ true engine final created requests results returned).1⟩

end SimulationEngine

end NimbusMesh
