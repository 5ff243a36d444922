import NimbusMesh.Cache.Recording
import NimbusMesh.ControlPlane.Memory

namespace NimbusMesh

open Foundation Foundation.Decimal Foundation.Execution

namespace KVCacheDirectory

/-- The rank that a first entry of a pool gets in its bucket. -/
def firstRank (cacheHitRatio completionTs : ℚ) : ℤ ×ₗ ℚ := toLex (if 0 < cacheHitRatio then 1 else 0, completionTs)

/-- A bucket of four that has no entry of the pool and would rank a new one last: observing drops it again. -/
def Refuses (entries : List CacheEntry) (clusterId poolId : String) (rank : ℤ ×ₗ ℚ) : Prop :=
  entries.length = 4 ∧ (∀ entry ∈ entries, ¬ entry.At clusterId poolId) ∧ ∀ entry ∈ entries, rank ≤ bucketRank entry

instance (entries : List CacheEntry) (clusterId poolId : String) (rank : ℤ ×ₗ ℚ) :
    Decidable (Refuses entries clusterId poolId rank) := inferInstanceAs (Decidable (_ ∧ _ ∧ _))

def keptGrowthGb (entries : List CacheEntry) (clusterId poolId : String) (rank : ℤ ×ₗ ℚ) (memoryGb : ℚ) : ℚ :=
  if Refuses entries clusterId poolId rank then 0 else growthGb entries clusterId poolId memoryGb

theorem locatedGb_refused {result : RequestResult} {entries : List CacheEntry} (key : String)
    (refuses : Refuses entries result.decision.clusterId result.decision.poolId
      (firstRank result.cacheHitRatio result.completionTs)) (clusterId poolId : String) :
    locatedGb clusterId poolId (capBucket (mergeResult key result entries)) =
      locatedGb clusterId poolId entries := by
  obtain ⟨full, elsewhere, lowest⟩ := refuses
  have unknown : result.location ∉ entries.map CacheEntry.location := by
    intro known
    obtain ⟨entry, member, same⟩ := List.mem_map.mp known
    exact elsewhere entry member (location_eq_iff.mp same)
  have last : bucketRank (created key result) = firstRank result.cacheHitRatio result.completionTs := rfl
  rw [mergeResult_unknown unknown, capBucket_lowest full (by rwa [last])]
  have sorted := List.perm_insertionSort (fun a b => bucketRank b ≤ bucketRank a) entries
  exact ((sorted.filter _).map _).sum_eq

theorem reservedAt_recorded_le_kept {directory : KVCacheDirectory} (holds : directory.Holds)
    {result : RequestResult} (positive : 0 ≤ result.memoryGb) (clusterId poolId : String) :
    (directory.recorded result).reservedAt clusterId poolId ≤ directory.reservedAt clusterId poolId +
      if result.decision.clusterId = clusterId ∧ result.decision.poolId = poolId then
        keptGrowthGb (directory.bucket (cacheKey result.request)) clusterId poolId
          (firstRank result.cacheHitRatio result.completionTs) result.memoryGb
      else 0 := by
  have bounded := reservedAt_recorded_le holds positive clusterId poolId
  by_cases here : result.decision.clusterId = clusterId ∧ result.decision.poolId = poolId
  · obtain ⟨rfl, rfl⟩ := here
    unfold keptGrowthGb
    by_cases refuses : Refuses (directory.bucket (cacheKey result.request)) result.decision.clusterId
        result.decision.poolId (firstRank result.cacheHitRatio result.completionTs)
    · have replaced := reservedAt_setBucket directory (cacheKey result.request)
        (capBucket (mergeResult (cacheKey result.request) result (directory.bucket (cacheKey result.request))))
        result.decision.clusterId result.decision.poolId
      rw [locatedGb_refused _ refuses] at replaced
      simp only [refuses, if_true, and_self, KVCacheDirectory.recorded]
      linarith
    · simpa only [refuses, if_false, and_self, if_true] using bounded
  · simpa only [here, if_false] using bounded

end KVCacheDirectory

namespace ControlPlane

/-- When the scheduler would book a request to finish that is placed on a pool. -/
def finishTs (plane : ControlPlane) (arrival : Arrival) (choice : CandidatePlacement) (pool : PoolRuntime) :
    Option ℚ :=
  match backendNamed choice.backendName, SlotQueue.earliest pool.slotAvailableAt with
  | .ok backend, some slotIndex =>
    some (PlacementCall.completionTs ⟨arrival.request, choice, plane.decisionFor arrival.request choice, backend,
      arrival.now⟩ pool slotIndex)
  | _, _ => none

/-- If a step places its request on the pool, the pool has room for the request and for what its cache
    entry would grow by. -/
def RoomForCache (clusterId poolId : String) (arrival : Arrival) (plane : ControlPlane) : Prop :=
  ∀ choice ∈ destination arrival plane, choice.clusterId = clusterId → choice.poolId = poolId →
    ∀ pool ∈ (plane.refresh arrival.now).poolIn clusterId poolId, ∀ finish ∈ finishTs plane arrival choice pool,
      let neededMemory := estimateRequestMemoryGb arrival.request.promptTokens
        arrival.request.generationTokens arrival.request.modelId choice.expectedCacheSavedTokens
      neededMemory + KVCacheDirectory.keptGrowthGb
          ((plane.cacheDirectory.evictStale arrival.now).bucket (cacheKey arrival.request)) clusterId poolId
          (KVCacheDirectory.firstRank choice.expectedCacheHitRatio finish) (roundTo 4 neededMemory) ≤
        pool.memoryGb - pool.activeMemoryGb - pool.cacheReservedGb

instance (clusterId poolId : String) (arrival : Arrival) (plane : ControlPlane) :
    Decidable (RoomForCache clusterId poolId arrival plane) :=
  inferInstanceAs (Decidable (∀ choice ∈ destination arrival plane, _ → _ → ∀ pool ∈ _, ∀ finish ∈ _, _ ≤ _))

theorem placements_ne_nil {plane : ControlPlane} {clusterId poolId : String} {pool : PoolRuntime}
    (found : plane.poolIn clusterId poolId = some pool) : plane.placements ≠ [] := by
  obtain ⟨cluster, at_cluster, at_pool⟩ := Option.bind_eq_some_iff.mp found
  have member : (cluster, pool) ∈ plane.placements :=
    List.mem_flatMap.mpr ⟨cluster, (KeyedList.get?_eq_some.mp at_cluster).1,
      List.mem_map.mpr ⟨pool, (KeyedList.get?_eq_some.mp at_pool).1, rfl⟩⟩
  exact List.ne_nil_of_mem member

theorem refresh_directory {plane : ControlPlane} (disabled : plane.cacheDirectory.redisStore.enabled = false)
    (now : ℚ) :
    (plane.refresh now).cacheDirectory.redisStore.enabled = false ∧
      EvictedFrom plane.cacheDirectory now (plane.refresh now).cacheDirectory := by
  obtain ⟨directory, evicted, refreshed⟩ := refresh_eq plane now
  rw [refreshed]
  refine ⟨?_, evicted⟩
  rcases evicted with rfl | rfl
  · exact disabled
  · exact disabled

theorem serve_records {arrival : Arrival} {plane final : ControlPlane} {result : RequestResult}
    (returned : serve arrival plane = .ok result final)
    (disabled : plane.cacheDirectory.redisStore.enabled = false) {clusterId poolId : String}
    {pool : PoolRuntime} (found : plane.poolIn clusterId poolId = some pool) :
    (result.admitted = false ∧ final.cacheDirectory = plane.cacheDirectory.evictStale arrival.now) ∨
      (result.admitted = true ∧ result.memoryGb = roundTo 4 result.demandGb ∧
        KVCacheDirectory.observe result (plane.cacheDirectory.evictStale arrival.now) =
          .ok () final.cacheDirectory) := by
  obtain ⟨_, _, located⟩ := poolIn_refresh arrival.now found
  obtain ⟨off, evicted⟩ := refresh_directory disabled arrival.now
  obtain ⟨candidates, asked, choice, cluster, target, policy, building, _, _, outcome⟩ :=
    execute_eq_ok returned
  have left := candidatesFor_disabled (placements_ne_nil located) off building
  rw [evicted.evictStale] at left
  rcases outcome with ⟨_, rejected, rfl⟩ | ⟨_, call, scheduler, _, _, _, _, _, placing, rfl⟩
  · exact .inl ⟨rejected, left⟩
  · obtain ⟨slotIndex, _, rfl, _, recording⟩ := placeRequest_eq_ok placing
    rw [left] at recording
    exact .inr ⟨rfl, rfl, recording⟩

theorem serve_fits {arrival : Arrival} {plane final : ControlPlane} {result : RequestResult}
    (returned : serve arrival plane = .ok result final) {clusterId poolId : String}
    (room : RoomForCache clusterId poolId arrival plane) (here : AdmittedOn clusterId poolId result)
    {pool : PoolRuntime} (found : (plane.refresh arrival.now).poolIn clusterId poolId = some pool) :
    result.demandGb + KVCacheDirectory.keptGrowthGb
        ((plane.cacheDirectory.evictStale arrival.now).bucket (cacheKey result.request)) clusterId poolId
        (KVCacheDirectory.firstRank result.cacheHitRatio result.completionTs) (roundTo 4 result.demandGb) ≤
      pool.memoryGb - pool.activeMemoryGb - pool.cacheReservedGb := by
  rcases serve_placed returned with ⟨rejected, _⟩ |
    ⟨choice, target, backend, slotIndex, decision, chosen, located, named, slot, sameCluster, samePool, rfl⟩
  · rw [here.1] at rejected
    cases rejected
  · obtain ⟨_, rfl, rfl⟩ := here
    have same : target = pool := by
      rw [← sameCluster, ← samePool] at located
      exact Option.some.inj (located.symm.trans found)
    subst same
    have finishes : finishTs plane arrival choice target = some (PlacementCall.completionTs
        ⟨arrival.request, choice, decision, backend, arrival.now⟩ target slotIndex) := by
      simp only [finishTs, named, slot]
      rfl
    exact room choice chosen sameCluster.symm samePool.symm target found _ finishes

/-- A pool whose requests and cache reservations fit together into its memory at every refresh
    from now on. -/
structure MemoryKept (clusterId poolId : String) (memoryGb : ℚ) (plane : ControlPlane)
    (pool : PoolRuntime) (log : List (Arrival × RequestResult)) : Prop where
  disabled : plane.cacheDirectory.redisStore.enabled = false
  holds : plane.cacheDirectory.Holds
  configured : pool.memoryGb = memoryGb
  positive : ∀ item ∈ pool.inflightMemory, 0 ≤ item.2
  kept : ∀ t, (∀ entry ∈ log, entry.1.now ≤ t) →
    pool.inflightGb t + (plane.cacheDirectory.evictStale t).reservedAt clusterId poolId ≤ memoryGb

theorem serve_reservedAt {arrival : Arrival} {plane final : ControlPlane} {result : RequestResult}
    (returned : serve arrival plane = .ok result final)
    (disabled : plane.cacheDirectory.redisStore.enabled = false) (holds : plane.cacheDirectory.Holds)
    {clusterId poolId : String} {pool : PoolRuntime} (found : plane.poolIn clusterId poolId = some pool) :
    final.cacheDirectory.redisStore.enabled = false ∧ final.cacheDirectory.Holds ∧
      ∀ t, (final.cacheDirectory.evictStale t).reservedAt clusterId poolId ≤
        (plane.cacheDirectory.evictStale arrival.now).reservedAt clusterId poolId +
          if AdmittedOn clusterId poolId result then
            KVCacheDirectory.keptGrowthGb
              ((plane.cacheDirectory.evictStale arrival.now).bucket (cacheKey result.request)) clusterId poolId
              (KVCacheDirectory.firstRank result.cacheHitRatio result.completionTs) (roundTo 4 result.demandGb)
          else 0 := by
  have evicted := (KVCacheDirectory.shrinks_evictStale plane.cacheDirectory arrival.now).holds holds
  rcases serve_records returned disabled found with ⟨rejected, same⟩ | ⟨admitted, memory, recording⟩
  · rw [same]
    refine ⟨disabled, evicted, fun t => ?_⟩
    rw [if_neg (fun here => by rw [here.1] at rejected; cases rejected), add_zero]
    exact (KVCacheDirectory.shrinks_evictStale _ t).reservedAt_le evicted clusterId poolId
  · have positive : 0 ≤ result.memoryGb := by
      rw [memory]
      exact roundTo_nonneg 4 (estimateRequestMemoryGb_pos _ _ _ _).le
    have shrinks := KVCacheDirectory.shrinks_observe (plane.cacheDirectory.evictStale arrival.now) result admitted
    rw [stateAfter_ok recording] at shrinks
    have recorded := evicted.recorded positive
    refine ⟨shrinks.enabled.trans disabled, shrinks.holds recorded, fun t => ?_⟩
    have grown := KVCacheDirectory.reservedAt_recorded_le_kept evicted positive clusterId poolId
    have later := (KVCacheDirectory.shrinks_evictStale final.cacheDirectory t).reservedAt_le
      (shrinks.holds recorded) clusterId poolId
    have trimmed := shrinks.reservedAt_le recorded clusterId poolId
    rw [memory] at grown
    simp only [AdmittedOn, admitted, true_and]
    linarith

theorem MemoryKept.serve {clusterId poolId : String} {memoryGb : ℚ} {plane final : ControlPlane}
    {log : List (Arrival × RequestResult)} {pool : PoolRuntime}
    (found : plane.poolIn clusterId poolId = some pool)
    (kept : MemoryKept clusterId poolId memoryGb plane pool log)
    {arrival : Arrival} {result : RequestResult} (earlier : ∀ entry ∈ log, entry.1.now ≤ arrival.now)
    (room : RoomForCache clusterId poolId arrival plane)
    (returned : ControlPlane.serve arrival plane = .ok result final) :
    ∃ after, final.poolIn clusterId poolId = some after ∧
      MemoryKept clusterId poolId memoryGb final after (log ++ [(arrival, result)]) := by
  obtain ⟨disabled, holds, reserved⟩ := serve_reservedAt returned kept.disabled kept.holds found
  have before := kept.kept arrival.now earlier
  obtain ⟨cluster, named, ⟨elsewhere, same⟩ | ⟨here, call, slotIndex, admission, booked⟩⟩ :=
    serve_pools returned found
  · refine ⟨_, same, disabled, holds, kept.configured,
      positive_refreshedPool kept.positive _ _ _, fun t past => ?_⟩
    have arrived : arrival.now ≤ t := past (arrival, result) (by simp)
    have fewer := inflightGb_antitone kept.positive arrived
    have later := reserved t
    rw [if_neg elsewhere, add_zero] at later
    rw [inflightGb_refreshedPool _ _ _ _ arrived]
    linarith
  · have size := servedPool_memoryGb call
      (refreshedPool arrival.now (plane.cacheDirectory.evictStale arrival.now) cluster pool) slotIndex
    refine ⟨_, booked, disabled, holds, size.trans kept.configured,
      admission.positive (positive_refreshedPool kept.positive _ _ _), ?_⟩
    intro t past
    have arrived : arrival.now ≤ t := past (arrival, result) (by simp)
    have fewer := inflightGb_antitone kept.positive arrived
    have later := reserved t
    rw [if_pos here] at later
    obtain ⟨owner, owned, refreshed⟩ := poolIn_refresh arrival.now found
    have fits := serve_fits returned room here refreshed
    have configured : (refreshedPool arrival.now (plane.cacheDirectory.evictStale arrival.now) owner
        pool).memoryGb = memoryGb := kept.configured
    have active : (refreshedPool arrival.now (plane.cacheDirectory.evictStale arrival.now) owner
        pool).activeMemoryGb = pool.inflightGb arrival.now := rfl
    have cached : (refreshedPool arrival.now (plane.cacheDirectory.evictStale arrival.now) owner
        pool).cacheReservedGb =
          (plane.cacheDirectory.evictStale arrival.now).reservedAt clusterId poolId := by
      rw [refreshedPool, owned, poolIn_poolId found]
    rw [configured, active, cached] at fits
    have demand : 0 < result.demandGb := estimateRequestMemoryGb_pos _ _ _ _
    rw [admission.inflightGb, inflightGb_refreshedPool _ _ _ _ arrived]
    split <;> linarith

/-- Along a run whose steps all have room for the cache where they place their request on a pool, no refresh
    finds that pool overcommitted. -/
theorem refresh_never_overcommits (config : ExperimentConfig) (environment : Environment)
    (plane final : ControlPlane) (created : create config environment = .ok plane)
    (disabled : environment.redisStore.enabled = false) (arrivals : List Arrival)
    (ordered : arrivals.Pairwise (fun first second => first.now ≤ second.now))
    (results : List RequestResult) (returned : run arrivals plane = .ok results final)
    (clusterId poolId : String) (room : Along (RoomForCache clusterId poolId) serve arrivals plane)
    (pool : PoolRuntime) (found : plane.poolIn clusterId poolId = some pool) (memory : 0 ≤ pool.memoryGb) (now : ℚ)
    (later : ∀ arrival ∈ arrivals, arrival.now ≤ now) :
    ∃ refreshed, (final.refresh now).poolIn clusterId poolId = some refreshed ∧
      refreshed.memoryGb = pool.memoryGb ∧
      refreshed.activeMemoryGb + refreshed.cacheReservedGb ≤ refreshed.memoryGb := by
  obtain ⟨cluster, spec, rfl⟩ := poolIn_create created found
  have fresh := cacheDirectory_create created
  have initial : MemoryKept clusterId poolId (buildPool cluster spec).memoryGb plane
      (buildPool cluster spec) [] := by
    refine ⟨by rw [fresh]; exact disabled, ?_, rfl, fun _ member => absurd member List.not_mem_nil, ?_⟩
    · rw [fresh]
      exact fun _ _ member => absurd member List.not_mem_nil
    · intro t _
      rw [fresh]
      simpa [PoolRuntime.inflightGb, buildPool, KVCacheDirectory.reservedAt_eq,
        KVCacheDirectory.evictStale, KeyedList.filterMap, KeyedList.empty] using memory
  obtain ⟨after, located, kept⟩ := run_invariant
    (fun state log => ∃ after, state.poolIn clusterId poolId = some after ∧
      MemoryKept clusterId poolId (buildPool cluster spec).memoryGb state after log)
    (by
      rintro state log arrival result next ⟨before, at_pool, kept⟩ earlier room stepped
      exact kept.serve at_pool earlier room stepped)
    ⟨_, found, initial⟩ (by simp) ordered room returned
  obtain ⟨owner, owned, refreshed⟩ := poolIn_refresh now located
  refine ⟨_, refreshed, kept.configured, ?_⟩
  have fits := kept.kept now (fun entry member => by
    have zipped : entry ∈ arrivals.zip results := by simpa using member
    exact later entry.1 (List.of_mem_zip (a := entry.1) (b := entry.2) zipped).1)
  rw [← owned, ← poolIn_poolId located] at fits
  exact fits.trans (le_of_eq kept.configured.symm)

theorem refresh_never_overcommits_full_pool :
    let arrivals : List Arrival := List.replicate 3 ⟨sessionRequest 1000, 0⟩
    ∃ plane results final refreshed,
      create (sessionConfig 4 4 1.5) (sessionEnvironment (emptyStore false)) = .ok plane ∧
      run arrivals plane = .ok results final ∧
      results.map RequestResult.admitted = [true, true, false] ∧
      (final.refresh 1).poolIn "c1" "p1" = some refreshed ∧
      refreshed.activeMemoryGb + refreshed.cacheReservedGb ≤ refreshed.memoryGb := by
  intro arrivals
  have ran : (resultsOf (sessionConfig 4 4 1.5) (sessionEnvironment (emptyStore false)) arrivals).map
      (fun results => results.map RequestResult.admitted) = some [true, true, false] := by
    decide +kernel
  obtain ⟨results, value, admitted⟩ := Option.map_eq_some_iff.mp ran
  obtain ⟨plane, final, created, returned⟩ := resultsOf_eq_some value
  cases created
  obtain ⟨refreshed, found, _, fits⟩ := refresh_never_overcommits (sessionConfig 4 4 1.5)
    (sessionEnvironment (emptyStore false)) _ final rfl rfl arrivals (by decide +kernel)
    results returned "c1" "p1" (by decide +kernel) _ rfl (by decide +kernel) 1 (by decide +kernel)
  exact ⟨_, results, final, refreshed, rfl, returned, admitted, found, fits⟩

/-- A request that fits into a pool by itself overcommits it together with its own cache entry. -/
theorem refresh_overcommits :
    let arrivals : List Arrival := [⟨sessionRequest 1000, 0⟩]
    ∃ plane results final pool,
      create (sessionConfig 1 4 0.6) (sessionEnvironment (emptyStore false)) = .ok plane ∧
      run arrivals plane = .ok results final ∧ (final.refresh 1).poolIn "c1" "p1" = some pool ∧
      0 ≤ pool.memoryGb ∧ ¬ pool.activeMemoryGb + pool.cacheReservedGb ≤ pool.memoryGb := by
  intro arrivals
  have evaluated : ∃ plane, create (sessionConfig 1 4 0.6) (sessionEnvironment (emptyStore false)) =
      .ok plane ∧ (valueOf (run arrivals plane)).isSome = true ∧
      (((stateAfter (run arrivals) plane).refresh 1).poolIn "c1" "p1").map (fun pool => decide
        (0 ≤ pool.memoryGb ∧ ¬ pool.activeMemoryGb + pool.cacheReservedGb ≤ pool.memoryGb)) = some true :=
    ⟨_, rfl, by decide +kernel, by decide +kernel⟩
  obtain ⟨plane, created, returns, exceeds⟩ := evaluated
  obtain ⟨results, value⟩ := Option.isSome_iff_exists.mp returns
  obtain ⟨final, returned⟩ := valueOf_eq_some.mp value
  rw [stateAfter_ok returned] at exceeds
  obtain ⟨pool, found, facts⟩ := Option.map_eq_some_iff.mp exceeds
  obtain ⟨memory, exceeds⟩ := of_decide_eq_true facts
  exact ⟨plane, results, final, pool, created, returned, found, memory, exceeds⟩

end ControlPlane

end NimbusMesh
