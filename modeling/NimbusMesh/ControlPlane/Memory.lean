import NimbusMesh.Cache.Reservation
import NimbusMesh.ControlPlane.Steps

namespace NimbusMesh

open Foundation Foundation.Decimal Foundation.Execution

def PoolRuntime.inflightGb (pool : PoolRuntime) (t : ℚ) : ℚ :=
  ((pool.inflightMemory.filter (fun item => t < item.1)).map Prod.snd).sum

def RequestResult.demandGb (result : RequestResult) : ℚ :=
  estimateRequestMemoryGb result.request.promptTokens result.request.generationTokens
    result.request.modelId result.cacheSavedTokens

namespace ControlPlane

theorem inflightGb_refreshedPool (now : ℚ) (directory : KVCacheDirectory) (cluster : ClusterRuntime)
    (pool : PoolRuntime) {t : ℚ} (later : now ≤ t) :
    (refreshedPool now directory cluster pool).inflightGb t = pool.inflightGb t := by
  simp only [PoolRuntime.inflightGb, refreshedPool, PoolRuntime.refresh, List.filter_filter]
  congr 2
  apply List.filter_congr
  intro item _
  by_cases finishes : t < item.1
  · simp [finishes, lt_of_le_of_lt later finishes]
  · simp [finishes]

theorem inflightGb_antitone {pool : PoolRuntime} (positive : ∀ item ∈ pool.inflightMemory, 0 ≤ item.2)
    {now t : ℚ} (later : now ≤ t) : pool.inflightGb t ≤ pool.inflightGb now := by
  have kept : (pool.inflightMemory.filter (fun item => t < item.1)).Sublist
      (pool.inflightMemory.filter (fun item => now < item.1)) := by
    apply List.monotone_filter_right
    intro item finishes
    simp only [decide_eq_true_eq] at finishes ⊢
    exact lt_of_le_of_lt later finishes
  apply (kept.map Prod.snd).sum_le_sum
  intro size member
  obtain ⟨item, inside, rfl⟩ := List.mem_map.mp member
  exact positive item (List.mem_filter.mp inside).1

theorem Admission.inflightGb {pool : PoolRuntime} {arrival : Arrival} {result : RequestResult}
    {call : PlacementCall} {slotIndex : ℕ} (admission : Admission pool arrival result call slotIndex)
    (t : ℚ) : (servedPool call pool slotIndex).inflightGb t =
      pool.inflightGb t + if t < result.completionTs then result.demandGb else 0 := by
  have charged : call.memoryGb = result.demandGb := by
    rw [admission.result]
    rfl
  rw [PoolRuntime.inflightGb, admission.inflightMemory, charged]
  by_cases finishes : t < result.completionTs <;> simp [PoolRuntime.inflightGb, finishes]

theorem Admission.demandGb_le {pool : PoolRuntime} {arrival : Arrival} {result : RequestResult}
    {call : PlacementCall} {slotIndex : ℕ} (admission : Admission pool arrival result call slotIndex) :
    result.demandGb ≤ pool.memoryGb - pool.activeMemoryGb - pool.cacheReservedGb := by
  have positive : 0 < result.demandGb := estimateRequestMemoryGb_pos _ _ _ _
  have fits : result.demandGb ≤ pool.memoryHeadroomGb := by
    rw [admission.result]
    exact admission.fits
  rcases le_max_iff.mp fits with none | room
  · exact absurd none (not_le_of_gt positive)
  · exact room

/-- The memory of the requests admitted to a pool that have arrived by an instant and are not
    finished then. -/
def runningGb (log : List (Arrival × RequestResult)) (clusterId poolId : String) (t : ℚ) : ℚ :=
  ((log.filter (fun entry =>
    AdmittedOn clusterId poolId entry.2 ∧ entry.1.now ≤ t ∧ t < entry.2.completionTs)).map
      (fun entry => entry.2.demandGb)).sum

theorem runningGb_snoc (log : List (Arrival × RequestResult)) (arrival : Arrival)
    (result : RequestResult) (clusterId poolId : String) (t : ℚ) :
    runningGb (log ++ [(arrival, result)]) clusterId poolId t = runningGb log clusterId poolId t +
      if AdmittedOn clusterId poolId result ∧ arrival.now ≤ t ∧ t < result.completionTs then
        result.demandGb
      else 0 := by
  by_cases counted : AdmittedOn clusterId poolId result ∧ arrival.now ≤ t ∧ t < result.completionTs
  · simp [runningGb, List.filter_append, counted]
  · simp only [runningGb, List.filter_append, List.map_append, List.sum_append, counted, if_false]
    simp [counted]

structure MemoryHeld (clusterId poolId : String) (memoryGb : ℚ) (pool : PoolRuntime)
    (log : List (Arrival × RequestResult)) : Prop where
  configured : pool.memoryGb = memoryGb
  positive : ∀ item ∈ pool.inflightMemory, 0 ≤ item.2
  tracked : ∀ t, (∀ entry ∈ log, entry.1.now ≤ t) →
    runningGb log clusterId poolId t = pool.inflightGb t
  bounded : ∀ t, runningGb log clusterId poolId t ≤ memoryGb

theorem positive_refreshedPool {pool : PoolRuntime} (positive : ∀ item ∈ pool.inflightMemory, 0 ≤ item.2)
    (now : ℚ) (directory : KVCacheDirectory) (cluster : ClusterRuntime) :
    ∀ item ∈ (refreshedPool now directory cluster pool).inflightMemory, 0 ≤ item.2 :=
  fun item member => positive item (List.mem_filter.mp member).1

theorem Admission.positive {pool : PoolRuntime} {arrival : Arrival} {result : RequestResult}
    {call : PlacementCall} {slotIndex : ℕ} (admission : Admission pool arrival result call slotIndex)
    (positive : ∀ item ∈ pool.inflightMemory, 0 ≤ item.2) :
    ∀ item ∈ (servedPool call pool slotIndex).inflightMemory, 0 ≤ item.2 := by
  intro item member
  rw [admission.inflightMemory] at member
  rcases List.mem_append.mp member with earlier | current
  · exact positive item earlier
  · rw [List.mem_singleton.mp current]
    exact (estimateRequestMemoryGb_pos _ _ _ _).le

theorem MemoryHeld.serve {clusterId poolId : String} {memoryGb : ℚ} {plane final : ControlPlane}
    {log : List (Arrival × RequestResult)} {pool : PoolRuntime}
    (found : plane.poolIn clusterId poolId = some pool)
    (held : MemoryHeld clusterId poolId memoryGb pool log) (sized : plane.cacheDirectory.WellSized)
    {arrival : Arrival} {result : RequestResult} (earlier : ∀ entry ∈ log, entry.1.now ≤ arrival.now)
    (returned : ControlPlane.serve arrival plane = .ok result final) :
    ∃ after, final.poolIn clusterId poolId = some after ∧
      MemoryHeld clusterId poolId memoryGb after (log ++ [(arrival, result)]) := by
  obtain ⟨cluster, _, ⟨elsewhere, same⟩ | ⟨here, call, slotIndex, admission, booked⟩⟩ :=
    serve_pools returned found
  · have unchanged : ∀ t, runningGb (log ++ [(arrival, result)]) clusterId poolId t =
        runningGb log clusterId poolId t := by
      intro t
      rw [runningGb_snoc, if_neg (fun counted => elsewhere counted.1), add_zero]
    refine ⟨_, same, held.configured, positive_refreshedPool held.positive _ _ _, ?_, ?_⟩
    · intro t past
      rw [unchanged, inflightGb_refreshedPool _ _ _ _ (past (arrival, result) (by simp))]
      exact held.tracked t (fun entry member => past entry (by simp [member]))
    · intro t
      rw [unchanged]
      exact held.bounded t
  · have charged := admission.demandGb_le
    have active : (refreshedPool arrival.now (plane.cacheDirectory.evictStale arrival.now) cluster
        pool).activeMemoryGb = pool.inflightGb arrival.now := rfl
    have configured : (refreshedPool arrival.now (plane.cacheDirectory.evictStale arrival.now) cluster
        pool).memoryGb = memoryGb := held.configured
    have reserved : 0 ≤ (refreshedPool arrival.now (plane.cacheDirectory.evictStale arrival.now) cluster
        pool).cacheReservedGb :=
      KVCacheDirectory.reservedAt_nonneg (sized.evictStale arrival.now).holds _ _
    rw [active, configured] at charged
    refine ⟨_, booked, ?_, admission.positive (positive_refreshedPool held.positive _ _ _), ?_, ?_⟩
    · rw [servedPool_memoryGb, configured]
    · intro t past
      have arrived : arrival.now ≤ t := past (arrival, result) (by simp)
      rw [runningGb_snoc, admission.inflightGb, inflightGb_refreshedPool _ _ _ _ arrived,
        held.tracked t (fun entry member => past entry (by simp [member]))]
      simp only [here, arrived, true_and]
    · intro t
      rw [runningGb_snoc]
      by_cases arrived : arrival.now ≤ t
      · have tracked := held.tracked t (fun entry member => (earlier entry member).trans arrived)
        have fewer := inflightGb_antitone held.positive arrived
        have demand : 0 < result.demandGb := estimateRequestMemoryGb_pos _ _ _ _
        split <;> linarith
      · rw [if_neg (fun counted => arrived counted.2.1), add_zero]
        exact held.bounded t

theorem wellSized_create {config : ExperimentConfig} {environment : Environment} {plane : ControlPlane}
    (created : create config environment = .ok plane)
    (stored : ∀ key entries, environment.redisStore.storedEntries key = .ok entries → Sized entries) :
    plane.cacheDirectory.WellSized := by
  rw [cacheDirectory_create created]
  exact ⟨fun _ _ member => absurd member List.not_mem_nil, stored⟩

theorem wellSized_serve {arrival : Arrival} {plane final : ControlPlane} {result : RequestResult}
    (sized : plane.cacheDirectory.WellSized) (returned : ControlPlane.serve arrival plane = .ok result final) :
    final.cacheDirectory.WellSized :=
  serve_directory (fun _ now sized => sized.evictStale now)
    (fun _ _ _ _ _ _ _ sized returned => sized.score returned)
    (fun _ _ _ admitted positive sized returned => sized.observe positive admitted returned) sized returned

/-- At every instant of a run, also between arrivals, the running requests of a pool fit into its
    memory. -/
theorem runningGb_le_memoryGb (config : ExperimentConfig) (environment : Environment)
    (plane final : ControlPlane) (created : create config environment = .ok plane)
    (stored : ∀ key entries, environment.redisStore.storedEntries key = .ok entries → Sized entries)
    (arrivals : List Arrival) (ordered : arrivals.Pairwise (fun first second => first.now ≤ second.now))
    (results : List RequestResult) (returned : run arrivals plane = .ok results final)
    (clusterId poolId : String) (pool : PoolRuntime) (found : plane.poolIn clusterId poolId = some pool)
    (memory : 0 ≤ pool.memoryGb) (t : ℚ) :
    runningGb (arrivals.zip results) clusterId poolId t ≤ pool.memoryGb := by
  obtain ⟨cluster, spec, rfl⟩ := poolIn_create created found
  have initial : MemoryHeld clusterId poolId (buildPool cluster spec).memoryGb
      (buildPool cluster spec) [] :=
    ⟨rfl, fun _ member => absurd member List.not_mem_nil, fun _ _ => rfl, fun _ => memory⟩
  obtain ⟨_, _, _, held⟩ := run_invariant
    (fun state log => state.cacheDirectory.WellSized ∧ ∃ after, state.poolIn clusterId poolId = some after ∧
      MemoryHeld clusterId poolId (buildPool cluster spec).memoryGb after log)
    (by
      rintro state log arrival result next ⟨sized, before, at_pool, held⟩ earlier _ stepped
      exact ⟨wellSized_serve sized stepped, held.serve at_pool sized earlier stepped⟩)
    ⟨wellSized_create created stored, _, found, initial⟩ (by simp) ordered (along_true _ _ _) returned
  exact held.bounded t

theorem runningGb_le_memoryGb_full_pool :
    let arrivals : List Arrival := List.replicate 3 ⟨sessionRequest 1000, 0⟩
    ∃ plane results final pool,
      create (sessionConfig 4 4 1.5) (sessionEnvironment (emptyStore true)) = .ok plane ∧
      run arrivals plane = .ok results final ∧ plane.poolIn "c1" "p1" = some pool ∧
      results.map RequestResult.admitted = [true, true, false] ∧
      ∀ t, runningGb (arrivals.zip results) "c1" "p1" t ≤ pool.memoryGb := by
  intro arrivals
  have ran : (resultsOf (sessionConfig 4 4 1.5) (sessionEnvironment (emptyStore true)) arrivals).map
      (fun results => results.map RequestResult.admitted) = some [true, true, false] := by
    decide +kernel
  obtain ⟨results, value, admitted⟩ := Option.map_eq_some_iff.mp ran
  obtain ⟨plane, final, created, returned⟩ := resultsOf_eq_some value
  obtain ⟨pool, found, _, _, memory⟩ := poolIn_session created
  have positive : 0 ≤ pool.memoryGb := by
    rw [memory]
    norm_num
  refine ⟨plane, results, final, pool, created, returned, found, admitted, ?_⟩
  intro t
  refine runningGb_le_memoryGb (sessionConfig 4 4 1.5) (sessionEnvironment (emptyStore true)) plane final created ?_
    arrivals (by decide +kernel) results returned "c1" "p1" pool found positive t
  intro key entries read
  cases read
  exact fun entry member => absurd member List.not_mem_nil

end ControlPlane

end NimbusMesh
