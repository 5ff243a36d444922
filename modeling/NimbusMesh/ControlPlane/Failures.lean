import NimbusMesh.ControlPlane.Steps

namespace NimbusMesh

open Foundation Foundation.Execution

namespace KVCacheDirectory

theorem observe_error {result : RequestResult} {directory final : KVCacheDirectory} {raised : PyError}
    (admitted : result.admitted = true) (failed : observe result directory = .error raised final) (key : String) :
    final.bucket key = (directory.recorded result).bucket key := by
  have persisted := persistToRedis_state (directory.recorded result) (cacheKey result.request)
  unfold observe at failed
  rw [if_pos admitted] at failed
  split at failed
  · rename_i outcome
    cases failed
    simp only [stateAfter, outcome] at persisted
    rw [persisted]
    rfl
  · rename_i written outcome
    simp only [stateAfter, outcome] at persisted
    unfold trim at failed
    split at failed
    · cases failed
    · split at failed
      · cases failed
      · cases failed
        rw [persisted]
        rfl

/-- What the scores of one request at one time do to a directory: they evict, and they may load the
    bucket of the request from Redis where the eviction has left it empty. -/
structure Consulted (request : InferenceRequest) (now : ℚ) (before after : KVCacheDirectory) : Prop where
  ttlS : after.ttlS = before.ttlS
  redisStore : after.redisStore = before.redisStore
  others : ∀ key, key ≠ cacheKey request → after.bucket key = (before.evictStale now).bucket key
  kept : (before.evictStale now).bucket (cacheKey request) ≠ [] →
    after.bucket (cacheKey request) = (before.evictStale now).bucket (cacheKey request)
  source : ∀ entry ∈ after.bucket (cacheKey request),
    entry ∈ (before.evictStale now).bucket (cacheKey request) ∨
      ∃ stored, before.redisStore.storedEntries (cacheKey request) = .ok stored ∧ entry ∈ stored

theorem consulted_evictStale (request : InferenceRequest) (now : ℚ) (directory : KVCacheDirectory) :
    Consulted request now directory (directory.evictStale now) :=
  ⟨rfl, rfl, fun _ _ => rfl, fun _ => rfl, fun _ member => .inl member⟩

variable {request : InferenceRequest} {now : ℚ} {start before after : KVCacheDirectory}

theorem Consulted.evictStale (consulted : Consulted request now start before) :
    Consulted request now start (before.evictStale now) := by
  have again : ∀ key, before.bucket key = (start.evictStale now).bucket key →
      (before.evictStale now).bucket key = (start.evictStale now).bucket key := by
    intro key same
    rw [bucket_evictStale, same]
    apply List.filter_eq_self.mpr
    intro entry member
    rw [bucket_evictStale] at member
    have fresh : start.Fresh now entry := of_decide_eq_true (List.mem_filter.mp member).2
    have still : before.Fresh now entry := by
      unfold Fresh at fresh ⊢
      rw [consulted.ttlS]
      exact fresh
    exact decide_eq_true still
  refine ⟨consulted.ttlS, consulted.redisStore, ?_, ?_, ?_⟩
  · exact fun key other => again key (consulted.others key other)
  · exact fun nonempty => again _ (consulted.kept nonempty)
  · intro entry member
    exact consulted.source entry (((shrinks_evictStale before now).buckets _).subset member)

theorem Consulted.load (consulted : Consulted request now start before) {entries : List CacheEntry}
    (empty : before.bucket (cacheKey request) = [])
    (loaded : before.redisStore.storedEntries (cacheKey request) = .ok entries) :
    Consulted request now start (before.setBucket (cacheKey request) entries) := by
  refine ⟨consulted.ttlS, consulted.redisStore, ?_, ?_, ?_⟩
  · intro key other
    rw [bucket_setBucket, if_neg (Ne.symm other)]
    exact consulted.others key other
  · intro nonempty
    rw [consulted.kept nonempty] at empty
    exact absurd empty nonempty
  · intro entry member
    rw [bucket_setBucket, if_pos rfl] at member
    rw [consulted.redisStore] at loaded
    exact .inr ⟨entries, loaded, member⟩

theorem Consulted.score (consulted : Consulted request now start (before.evictStale now))
    {clusterId poolId : String} {cache : ℚ × ℤ}
    (scored : KVCacheDirectory.score request clusterId poolId now before = .ok cache after) :
    Consulted request now start after := by
  have state := score_state before request clusterId poolId now
  rw [stateAfter_ok scored] at state
  rw [state]
  rcases prepareScore_cases before request now with ⟨_, outcome⟩ | outcome | ⟨_, _, empty, loaded, outcome⟩
  all_goals simp only [stateAfter, outcome]
  · exact consulted
  · exact consulted
  · exact consulted.load empty loaded

end KVCacheDirectory

namespace ControlPlane

open KVCacheDirectory

variable {plane : ControlPlane} {request : InferenceRequest} {now : ℚ}

theorem candidatesFor_consulted {pools : List (ClusterRuntime × PoolRuntime)} (nonempty : pools ≠ [])
    {directory final : KVCacheDirectory} {candidates : List CandidatePlacement}
    (returned : plane.candidatesFor request now pools directory = .ok candidates final) :
    Consulted request now directory final := by
  obtain ⟨⟨cluster, pool⟩, rest, rfl⟩ := List.exists_cons_of_ne_nil nonempty
  obtain ⟨cache, scored, _, others, asked, _, continued, _⟩ := candidatesFor_cons_eq_ok returned
  apply (candidatesFor_eq_ok (Consulted request now directory) ?_
    ((consulted_evictStale request now directory).score asked) continued).1
  intro clusterId poolId before cache after consulted again
  exact consulted.evictStale.score again

theorem slots_of_mem {directory final : KVCacheDirectory} {candidates : List CandidatePlacement}
    (returned : plane.candidatesFor request now plane.placements directory = .ok candidates final)
    {choice : CandidatePlacement} (member : choice ∈ plane.cudaEngine.enrichCandidates candidates) :
    ∃ cluster pool, plane.poolAt choice.clusterId choice.poolId = some (cluster, pool) ∧
      ∃ slotIndex, SlotQueue.earliest pool.slotAvailableAt = some slotIndex := by
  obtain ⟨candidate, inside, rfl⟩ := List.mem_map.mp member
  obtain ⟨_, _, built⟩ := candidatesFor_eq_ok (fun _ => True) (fun _ _ _ _ _ _ _ => True.intro) True.intro returned
  obtain ⟨cluster, pool, _, _, _, placed, _, _, assembled⟩ := built candidate inside
  obtain ⟨clusterId, poolId, _, _, _, _, slots⟩ := assemble_eq_ok assembled
  have found := poolAt_of_mem_placements placed
  rw [← clusterId, ← poolId] at found
  obtain ⟨slotIndex, earliest⟩ := SlotQueue.earliest_of_ne_nil slots
  exact ⟨cluster, pool, found, slotIndex, earliest⟩

theorem execute_error_after_route {routed final : ControlPlane} {choice : CandidatePlacement}
    {decision : RoutingDecision} {raised : PyError}
    (routing : route request now plane = .ok (choice, decision) routed)
    (failed : execute request now plane = .error raised final) :
    ∃ cluster pool backend slotIndex after, Chosen plane request now choice cluster pool ∧
      backendNamed choice.backendName = .ok backend ∧ choice.available = true ∧
      SlotQueue.earliest pool.slotAvailableAt = some slotIndex ∧
      let call : PlacementCall := ⟨request, choice, decision, backend, now⟩
      observe (call.result pool slotIndex) routed.cacheDirectory = .error raised after ∧
      final = { routed.setPool cluster (call.booked pool slotIndex) with cacheDirectory := after } := by
  obtain ⟨candidates, directory, policy, asked, choosing, rfl, rfl⟩ := route_eq_ok routing
  have member := (chooseCandidate_eq_ok choosing).1
  obtain ⟨cluster, pool, chosen⟩ := chosen_of_mem asked member
  obtain ⟨_, _, located, slotIndex, slot⟩ := slots_of_mem asked member
  cases located.symm.trans chosen.found
  obtain ⟨backend, named⟩ := chosen.named
  have found : ({ plane with cacheDirectory := directory, policy } : ControlPlane).poolAt choice.clusterId
      choice.poolId = some (cluster, pool) := chosen.found
  rw [execute, bind_of_ok routing] at failed
  dsimp only at failed
  rw [bind_of_ok (get_eq_ok.mpr ⟨rfl, rfl⟩)] at failed
  simp only [found, named] at failed
  cases available : choice.available with
  | true =>
    rw [available, if_pos rfl, place, placeRequest] at failed
    simp only [slot] at failed
    split at failed
    · rename_i outcome
      split at outcome
      · rename_i recording
        cases outcome
        cases failed
        exact ⟨cluster, pool, backend, slotIndex, _, chosen, named, rfl, slot, recording, rfl⟩
      · cases outcome
    · cases failed
  | false =>
    rw [available, if_neg Bool.false_ne_true] at failed
    cases failed

theorem route_consulted {routed : ControlPlane} {choice : CandidatePlacement} {decision : RoutingDecision}
    (routing : route request now plane = .ok (choice, decision) routed) :
    Consulted request now plane.cacheDirectory routed.cacheDirectory := by
  obtain ⟨candidates, directory, policy, asked, choosing, _, rfl⟩ := route_eq_ok routing
  have member := (chooseCandidate_eq_ok choosing).1
  apply candidatesFor_consulted _ asked
  intro none
  rw [none] at asked
  cases asked
  cases member

/-- What is left behind when `execute` raises while it records the placement: the booking of the request on
    its pool and the merged bucket of its key. All other pools, all tenant statistics and, up to the
    eviction, all other buckets are as before. -/
theorem execute_failed_record (plane routed final : ControlPlane) (request : InferenceRequest) (now : ℚ)
    (choice : CandidatePlacement) (decision : RoutingDecision) (raised : PyError)
    (routing : route request now plane = .ok (choice, decision) routed)
    (failed : execute request now plane = .error raised final) :
    ∃ cluster pool backend slotIndex,
      plane.poolAt choice.clusterId choice.poolId = some (cluster, pool) ∧
      backendNamed choice.backendName = .ok backend ∧ choice.available = true ∧
      SlotQueue.earliest pool.slotAvailableAt = some slotIndex ∧
      let call : PlacementCall := ⟨request, choice, decision, backend, now⟩
      let evicted := plane.cacheDirectory.evictStale now
      (∃ directory, observe (call.result pool slotIndex) routed.cacheDirectory = .error raised directory) ∧
      final.tenantStats = plane.tenantStats ∧
      (∀ clusterId poolId, final.poolIn clusterId poolId =
        if choice.clusterId = clusterId ∧ choice.poolId = poolId then some (call.booked pool slotIndex)
        else plane.poolIn clusterId poolId) ∧
      (∀ key, key ≠ cacheKey request → final.cacheDirectory.bucket key = evicted.bucket key) ∧
      ∃ held, final.cacheDirectory.bucket (cacheKey request) =
          capBucket (mergeResult (cacheKey request) (call.result pool slotIndex) held) ∧
        (evicted.bucket (cacheKey request) ≠ [] → held = evicted.bucket (cacheKey request)) ∧
        ∀ entry ∈ held, entry ∈ evicted.bucket (cacheKey request) ∨
          ∃ stored, plane.cacheDirectory.redisStore.storedEntries (cacheKey request) = .ok stored ∧ entry ∈ stored := by
  have consulted := route_consulted routing
  obtain ⟨_, _, _, _, _, _, same⟩ := route_eq_ok routing
  obtain ⟨cluster, pool, backend, slotIndex, after, chosen, named, available, slot, recording, left⟩ :=
    execute_error_after_route routing failed
  have buckets := observe_error rfl recording
  have owner := (poolAt_eq_some chosen.found).1
  rw [← chosen.clusterId] at owner
  subst left
  refine ⟨cluster, pool, backend, slotIndex, chosen.found, named, available, slot, ⟨after, recording⟩, ?_, ?_, ?_,
    routed.cacheDirectory.bucket (cacheKey request), ?_, consulted.kept, consulted.source⟩
  · rw [same]
    rfl
  · intro clusterId poolId
    rw [← chosen.clusterId, ← chosen.poolId, same]
    exact poolIn_setPool owner (PlacementCall.booked _ pool slotIndex) clusterId poolId
  · intro key other
    exact ((buckets key).trans (bucket_recorded _ _ _)).trans
      ((if_neg (Ne.symm other)).trans (consulted.others key other))
  · exact ((buckets _).trans (bucket_recorded _ _ _)).trans (if_pos rfl)

def readOnlyStore : RedisStore := { emptyStore true with hsetFault := some (.redisError "READONLY") }

/-- The request was never reported, and the pool goes on holding its slot and its memory. -/
theorem failed_execute_keeps_booking :
    ∃ plane raised final, create (sessionConfig 1 4 80) (sessionEnvironment readOnlyStore) = .ok plane ∧
      execute (sessionRequest 1000) 0 plane = .error raised final ∧
      (plane.poolIn "c1" "p1").map
          (fun pool => (pool.decisionCount, pool.slotAvailableAt, pool.inflightMemory.length)) =
        some (0, [0], 0) ∧
      (final.poolIn "c1" "p1").map (fun pool => (pool.decisionCount, pool.inflightMemory.length)) = some (1, 1) ∧
      (final.poolIn "c1" "p1").map PoolRuntime.slotAvailableAt ≠ some [0] := by
  have evaluated : ∃ plane, create (sessionConfig 1 4 80) (sessionEnvironment readOnlyStore) = .ok plane ∧
      (valueOf (execute (sessionRequest 1000) 0 plane)).isSome = false ∧
      (plane.poolIn "c1" "p1").map
          (fun pool => (pool.decisionCount, pool.slotAvailableAt, pool.inflightMemory.length)) =
        some (0, [0], 0) ∧
      ((stateAfter (execute (sessionRequest 1000) 0) plane).poolIn "c1" "p1").map
        (fun pool => (pool.decisionCount, pool.inflightMemory.length)) = some (1, 1) ∧
      ((stateAfter (execute (sessionRequest 1000) 0) plane).poolIn "c1" "p1").map PoolRuntime.slotAvailableAt ≠
        some [0] :=
    ⟨_, rfl, by decide +kernel, by decide +kernel, by decide +kernel, by decide +kernel⟩
  obtain ⟨plane, created, failed, before, after, slots⟩ := evaluated
  cases executed : execute (sessionRequest 1000) 0 plane with
  | ok result final =>
    rw [executed] at failed
    cases failed
  | error raised final =>
    simp only [stateAfter, executed] at after slots
    exact ⟨plane, raised, final, created, executed, before, after, slots⟩

theorem execute_failed_record_read_only :
    ∃ plane routed choice decision raised final,
      create (sessionConfig 1 4 80) (sessionEnvironment readOnlyStore) = .ok plane ∧
      route (sessionRequest 1000) 0 plane = .ok (choice, decision) routed ∧
      execute (sessionRequest 1000) 0 plane = .error raised final ∧ final.tenantStats = plane.tenantStats := by
  have evaluated : ∃ plane, create (sessionConfig 1 4 80) (sessionEnvironment readOnlyStore) = .ok plane ∧
      (valueOf (execute (sessionRequest 1000) 0 plane)).isSome = false ∧
      (valueOf (route (sessionRequest 1000) 0 plane)).isSome = true :=
    ⟨_, rfl, by decide +kernel, by decide +kernel⟩
  obtain ⟨plane, created, failed, routed⟩ := evaluated
  obtain ⟨⟨choice, decision⟩, value⟩ := Option.isSome_iff_exists.mp routed
  obtain ⟨after, routing⟩ := valueOf_eq_some.mp value
  cases executed : execute (sessionRequest 1000) 0 plane with
  | ok result final =>
    rw [executed] at failed
    cases failed
  | error raised final =>
    obtain ⟨_, _, _, _, _, _, _, _, _, kept, _⟩ := execute_failed_record plane after final (sessionRequest 1000) 0
      choice decision raised routing executed
    exact ⟨plane, after, choice, decision, raised, final, created, routing, executed, kept⟩

end ControlPlane

end NimbusMesh
