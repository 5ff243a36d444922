import NimbusMesh.Cache.Scoring
import NimbusMesh.Cache.Sharing

namespace NimbusMesh

open Foundation Foundation.Decimal Foundation.Execution

namespace KVCacheDirectory

section Prepared

variable {directory : KVCacheDirectory} {request : InferenceRequest} {now : ℚ}

theorem prepareScore_held (held : (directory.evictStale now).bucket (cacheKey request) ≠ []) :
    prepareScore request now directory = .ok () (directory.evictStale now) := by
  simp only [prepareScore, held, if_false]

theorem prepareScore_loads (empty : (directory.evictStale now).bucket (cacheKey request) = [])
    {entries : List CacheEntry} (read : directory.redisStore.storedEntries (cacheKey request) = .ok entries) :
    ∃ prepared, prepareScore request now directory = .ok () prepared ∧ prepared.ttlS = directory.ttlS ∧
      prepared.bucket (cacheKey request) = entries ∧
      ∀ key, key ≠ cacheKey request → prepared.bucket key = (directory.evictStale now).bucket key := by
  have loaded : (directory.evictStale now).redisStore.storedEntries (cacheKey request) = .ok entries := read
  simp only [prepareScore, empty, if_true, hydrateFromRedis, loaded]
  cases entries with
  | nil => exact ⟨_, rfl, rfl, empty, fun _ _ => rfl⟩
  | cons entry rest =>
    refine ⟨_, rfl, rfl, by simp, fun key differs => ?_⟩
    simp [differs.symm]

end Prepared

def Keyed (directory : KVCacheDirectory) : Prop := ∀ key, ∀ entry ∈ directory.bucket key, entry.key = key

theorem Keyed.after {directory : KVCacheDirectory} (keyed : directory.Keyed) (call : DirectoryCall) :
    (directory.after call).Keyed := by
  intro key entry member
  rcases mem_bucket_after member with kept | ⟨result, _, _, _, rfl | ⟨old, found, rfl⟩⟩ |
    ⟨_, _, _, _, first, rest, _, rfl, _, loaded, inside⟩
  · exact keyed key entry kept
  · rfl
  · exact keyed key old (List.mem_of_find?_eq_some found)
  · exact RedisStore.storedEntries_key loaded entry inside

theorem keyed_afterAll (ttlS : ℚ) (maxEntries : ℤ) (redisStore : RedisStore) (calls : List DirectoryCall) :
    ((create ttlS maxEntries redisStore).afterAll calls).Keyed :=
  List.foldlRecOn calls KVCacheDirectory.after (fun _ _ member => absurd member List.not_mem_nil)
    (fun _ keyed call _ => keyed.after call)

theorem Keyed.recorded {directory : KVCacheDirectory} (keyed : directory.Keyed) (result : RequestResult) :
    (directory.recorded result).Keyed := by
  intro key entry member
  rw [bucket_recorded] at member
  split at member
  · rcases mem_mergeResult (mem_capBucket member) with old | rfl | ⟨old, found, rfl⟩
    · exact keyed key entry old
    · rfl
    · exact keyed key old (List.mem_of_find?_eq_some found)
  · exact keyed key entry member

theorem store_after (directory : KVCacheDirectory) (call : DirectoryCall) :
    (directory.after call).redisStore = directory.redisStore ∨
      ∃ key entries, (directory.after call).redisStore = directory.redisStore.persisted key entries := by
  cases call with
  | observe result =>
    rcases observe_store directory result with same | written
    · exact .inl same
    · exact .inr ⟨_, _, written⟩
  | score request clusterId poolId now =>
    left
    rw [after, score_state]
    rcases prepareScore_cases directory request now with ⟨raised, outcome⟩ | outcome | ⟨first, rest, _, _, outcome⟩
    all_goals
      rw [stateAfter, outcome]
      rfl
  | reservedGb clusterId poolId now => exact .inl rfl
  | snapshot now => exact .inl rfl
  | evictStale now => exact .inl rfl

theorem online_after {directory : KVCacheDirectory} (online : directory.redisStore.Online) (call : DirectoryCall) :
    (directory.after call).redisStore.Online := by
  rcases store_after directory call with same | ⟨key, entries, written⟩
  · rwa [same]
  · rw [written]
    exact ⟨online.enabled, online.readable, online.writable⟩

theorem online_afterAll {ttlS : ℚ} {maxEntries : ℤ} {redisStore : RedisStore} (online : redisStore.Online)
    (calls : List DirectoryCall) : ((create ttlS maxEntries redisStore).afterAll calls).redisStore.Online := by
  have initial : (create ttlS maxEntries redisStore).redisStore.Online := online
  exact @List.foldlRecOn _ _ (fun directory => directory.redisStore.Online) calls KVCacheDirectory.after _ initial
    (fun _ online call _ => online_after online call)

theorem store_observe {directory : KVCacheDirectory} (online : directory.redisStore.Online) {result : RequestResult}
    (admitted : result.admitted = true) :
    (stateAfter (observe result) directory).redisStore = directory.redisStore.persisted (cacheKey result.request)
      ((directory.recorded result).bucket (cacheKey result.request)) := by
  have begun : directory.start (.observe result) = directory.recorded result := by simp [start, admitted]
  have whole : stateAfter (observe result) directory = (directory.recorded result).finish (.observe result) := by
    rw [← begun, finish_start]
    rfl
  rw [whole]
  exact (@finish_observe (directory.recorded result) result admitted online.enabled online.writable).1

theorem observe_of_room {directory : KVCacheDirectory} {result : RequestResult} (admitted : result.admitted = true)
    (writable : directory.redisStore.hsetFault = none)
    (room : ((directory.recorded result).totalEntries : ℤ) ≤ directory.maxEntries) :
    ∃ observed, observe result directory = .ok () observed ∧
      observed.entries = (directory.recorded result).entries := by
  have reachable : (directory.recorded result).redisStore.hsetFault = none := writable
  have persists : ∃ store, persistToRedis (cacheKey result.request) (directory.recorded result) =
      .ok () { directory.recorded result with redisStore := store } := by
    cases enabled : (directory.recorded result).redisStore.enabled with
    | false => exact ⟨_, by simp [persistToRedis, RedisStore.writeCacheAffinity, enabled]; rfl⟩
    | true => exact ⟨_, by simp [persistToRedis, RedisStore.writeCacheAffinity, enabled, reachable]; rfl⟩
  obtain ⟨store, persists⟩ := persists
  refine ⟨{ directory.recorded result with redisStore := store }, ?_, rfl⟩
  simp only [observe, admitted, if_true, persists]
  exact if_pos room

section Observed

variable {directory observed : KVCacheDirectory} {result : RequestResult}

theorem bucket_observed (kept : observed.entries = (directory.recorded result).entries) (key : String) :
    observed.bucket key = (directory.recorded result).bucket key := by
  unfold bucket
  rw [kept]

theorem bucket_observed_ne_nil (kept : observed.entries = (directory.recorded result).entries) :
    observed.bucket (cacheKey result.request) ≠ [] := by
  rw [bucket_observed kept, bucket_recorded, if_pos rfl]
  exact capBucket_ne_nil (mergeResult_ne_nil _ _ _)

theorem ttlS_observed (admitted : result.admitted = true) (returned : observe result directory = .ok () observed) :
    observed.ttlS = directory.ttlS := by
  have shrinks := shrinks_observe directory result admitted
  rw [stateAfter_ok returned] at shrinks
  exact shrinks.ttlS

theorem storedEntries_observed (admitted : result.admitted = true)
    (returned : observe result directory = .ok () observed) (online : directory.redisStore.Online)
    (keyed : (directory.recorded result).Keyed) (kept : observed.entries = (directory.recorded result).entries) :
    observed.redisStore.storedEntries (cacheKey result.request) = .ok (observed.bucket (cacheKey result.request)) := by
  have held := bucket_observed kept (cacheKey result.request)
  have written : observed.redisStore = directory.redisStore.persisted (cacheKey result.request)
      (observed.bucket (cacheKey result.request)) := by
    rw [held, ← store_observe online admitted, stateAfter_ok returned]
  have rekeyed : (observed.bucket (cacheKey result.request)).map (fun entry =>
      { entry with key := cacheKey result.request }) = (observed.bucket (cacheKey result.request)).map id := by
    apply List.map_congr_left
    intro entry member
    rw [held] at member
    rw [← keyed (cacheKey result.request) entry member]
    rfl
  rw [written, RedisStore.storedEntries_persisted_same online.enabled online.readable, rekeyed, List.map_id]

end Observed

section Scores

variable {directory prepared : KVCacheDirectory} {request : InferenceRequest} {clusterId poolId : String} {now : ℚ}

theorem valueOf_score (ready : prepareScore request now directory = .ok () prepared) :
    valueOf (score request clusterId poolId now directory) =
      (bestHit prepared.ttlS clusterId poolId request.promptTokens now (prepared.bucket (cacheKey request))
        (0, 0)).toOption.map (fun best => (roundTo 4 best.1, best.2)) := by
  simp only [score, ready]
  cases bestHit prepared.ttlS clusterId poolId request.promptTokens now (prepared.bucket (cacheKey request)) (0, 0)
  all_goals rfl

theorem prepareScore_fresh (nonempty : directory.bucket (cacheKey request) ≠ [])
    (fresh : ∀ entry ∈ directory.bucket (cacheKey request), directory.Fresh now entry) :
    ∃ prepared, prepareScore request now directory = .ok () prepared ∧ prepared.ttlS = directory.ttlS ∧
      prepared.bucket (cacheKey request) = directory.bucket (cacheKey request) := by
  have kept : (directory.evictStale now).bucket (cacheKey request) = directory.bucket (cacheKey request) := by
    rw [bucket_evictStale, List.filter_eq_self]
    exact fun entry member => decide_eq_true (fresh entry member)
  refine ⟨_, prepareScore_held (by rwa [kept]), rfl, kept⟩

end Scores

/-- A directory that starts on the store of another one recovers its buckets: the first score for the key of a result
    just observed loads the bucket as it is there, and while none of its entries is stale the two directories
    score alike. -/
theorem restart_recovers_bucket (ttlS : ℚ) (maxEntries : ℤ) (redisStore : RedisStore) (online : redisStore.Online)
    (calls : List DirectoryCall) (result : RequestResult) (admitted : result.admitted = true)
    (observed : KVCacheDirectory)
    (returned : observe result ((create ttlS maxEntries redisStore).afterAll calls) = .ok () observed)
    (kept : observed.entries = (((create ttlS maxEntries redisStore).afterAll calls).recorded result).entries)
    (request : InferenceRequest) (same : cacheKey request = cacheKey result.request) (maxRestarted : ℤ)
    (clusterId poolId : String) (now : ℚ) :
    let restarted := create ttlS maxRestarted observed.redisStore
    (stateAfter (score request clusterId poolId now) restarted).bucket (cacheKey request) =
        observed.bucket (cacheKey request) ∧
      ((∀ entry ∈ observed.bucket (cacheKey request), now - entry.lastTouched ≤ ttlS) →
        valueOf (score request clusterId poolId now restarted) =
          valueOf (score request clusterId poolId now observed) ∧
        (ttlS ≠ 0 → (valueOf (score request clusterId poolId now restarted)).isSome)) := by
  intro restarted
  let directory := (create ttlS maxEntries redisStore).afterAll calls
  have keyed : (directory.recorded result).Keyed := (keyed_afterAll ttlS maxEntries redisStore calls).recorded result
  have nonempty : observed.bucket (cacheKey request) ≠ [] := by
    rw [same]
    exact bucket_observed_ne_nil kept
  have read : restarted.redisStore.storedEntries (cacheKey request) = .ok (observed.bucket (cacheKey request)) := by
    rw [same]
    exact storedEntries_observed admitted returned (online_afterAll online calls) keyed kept
  have empty : (restarted.evictStale now).bucket (cacheKey request) = [] := rfl
  obtain ⟨prepared, ready, ttl, loaded, _⟩ := prepareScore_loads empty read
  refine ⟨by rw [score_state, stateAfter_ok ready, loaded], fun fresh => ?_⟩
  have lives : observed.ttlS = ttlS := (ttlS_observed admitted returned).trans (afterAll_settings _ calls).1
  obtain ⟨current, settled, sameTtl, bucket⟩ := @prepareScore_fresh observed request now nonempty
    (fun entry member => by rw [Fresh, lives]; exact fresh entry member)
  have restartedTtl : prepared.ttlS = ttlS := ttl
  rw [valueOf_score ready, valueOf_score settled, loaded, bucket, restartedTtl, sameTtl, lives]
  refine ⟨rfl, fun nonzero => ?_⟩
  obtain ⟨found, hit⟩ := @bestHit_returns ttlS clusterId poolId request.promptTokens now nonzero
    (observed.bucket (cacheKey request)) (0, 0)
  rw [hit]
  rfl

theorem restart_recovers_bucket_two_pools :
    let request := sessionRequest 1000
    let directory := (create 180 20000 (emptyStore true)).afterAll [.observe (sessionResult request "c1" "p1" 5)]
    ∃ observed, observe (sessionResult request "c1" "p2" 6) directory = .ok () observed ∧
      (observed.bucket (cacheKey request)).map CacheEntry.poolId = ["p1", "p2"] ∧
      (stateAfter (score request "c1" "p1" 10) (create 180 20000 observed.redisStore)).bucket (cacheKey request) =
        observed.bucket (cacheKey request) := by
  intro request directory
  obtain ⟨observed, returned, kept⟩ := @observe_of_room directory (sessionResult request "c1" "p2" 6) rfl
    (by decide +kernel) (by decide +kernel)
  have pools : (observed.bucket (cacheKey request)).map CacheEntry.poolId = ["p1", "p2"] := by
    unfold bucket
    rw [kept]
    decide +kernel
  have recovered := restart_recovers_bucket 180 20000 (emptyStore true) ⟨rfl, rfl, rfl⟩
    [.observe (sessionResult request "c1" "p1" 5)] (sessionResult request "c1" "p2" 6) rfl observed returned kept
    request rfl 20000 "c1" "p1" 10
  exact ⟨observed, returned, pools, recovered.1⟩

end KVCacheDirectory

end NimbusMesh
