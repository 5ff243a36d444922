import NimbusMesh.Cache.Buckets
import NimbusMesh.Foundation.Simulation

namespace NimbusMesh

open Foundation Foundation.Execution

namespace RedisStore

def withDocuments (store : RedisStore) (documents : Dict String Json) : RedisStore :=
  { store with cacheAffinity := documents }

/-- Two states of one Redis hash from which hydration reads the same entries under the given keys. -/
structure SameOn (keys : List String) (first second : RedisStore) : Prop where
  client : ∃ documents, second = first.withDocuments documents
  entries : ∀ key ∈ keys, second.storedEntries key = first.storedEntries key

theorem storedEntries_congr (store : RedisStore) {documents others : Dict String Json} {key : String}
    (same : Dict.lookup documents key = Dict.lookup others key) :
    (store.withDocuments documents).storedEntries key = (store.withDocuments others).storedEntries key := by
  have fetched : (store.withDocuments documents).fetchCacheAffinity key =
      (store.withDocuments others).fetchCacheAffinity key := by
    simp only [fetchCacheAffinity, withDocuments, same]
    rfl
  simp only [storedEntries, fetched]
  rfl

theorem SameOn.set {keys : List String} {first second : RedisStore} (same : SameOn keys first second)
    (key : String) (payload : Json) :
    SameOn keys (first.withDocuments (Dict.set first.cacheAffinity key payload))
      (second.withDocuments (Dict.set second.cacheAffinity key payload)) := by
  obtain ⟨⟨documents, rfl⟩, entries⟩ := same
  refine ⟨⟨Dict.set documents key payload, rfl⟩, ?_⟩
  intro other member
  change (first.withDocuments (Dict.set documents key payload)).storedEntries other = _
  by_cases written : key = other
  · apply storedEntries_congr
    simp [written]
  · calc (first.withDocuments (Dict.set documents key payload)).storedEntries other
        = (first.withDocuments documents).storedEntries other :=
          storedEntries_congr first (by simp [written])
      _ = (first.withDocuments first.cacheAffinity).storedEntries other := entries other member
      _ = (first.withDocuments (Dict.set first.cacheAffinity key payload)).storedEntries other :=
          storedEntries_congr first (by simp [written])

theorem respects_writeCacheAffinity (keys : List String) (key : String) (payload : Json) :
    Respects (SameOn keys) (writeCacheAffinity key payload) := by
  intro first second same
  have written := same.set key payload
  obtain ⟨documents, rfl⟩ := same.client
  obtain ⟨enabled, earlier, conversions, hgetFault, hsetFault⟩ := first
  cases enabled with
  | false => exact .ok same
  | true =>
    cases hsetFault with
    | none => exact .ok written
    | some fault => exact .error same

theorem respects_writeDecision (keys : List String) (requestId : Option String) :
    Respects (SameOn keys) (writeDecision requestId) := by
  intro first second same
  obtain ⟨documents, rfl⟩ := same.client
  obtain ⟨enabled, earlier, conversions, hgetFault, hsetFault⟩ := first
  cases requestId with
  | none =>
    cases enabled with
    | false => exact .ok same
    | true => exact .ok same
  | some requestId =>
    cases enabled with
    | false => exact .ok same
    | true =>
      cases hsetFault with
      | none => exact .ok same
      | some fault => exact .error same

end RedisStore

namespace KVCacheDirectory

def withStore (directory : KVCacheDirectory) (redisStore : RedisStore) : KVCacheDirectory :=
  { directory with redisStore }

def Agree (keys : List String) (first second : KVCacheDirectory) : Prop :=
  ∃ store, second = first.withStore store ∧ RedisStore.SameOn keys first.redisStore store

variable {keys : List String}

theorem respects_hydrateFromRedis {request : InferenceRequest} (member : cacheKey request ∈ keys) :
    Respects (Agree keys) (hydrateFromRedis request) := by
  rintro first _ ⟨store, rfl, same⟩
  have read : (first.withStore store).redisStore.storedEntries (cacheKey request) =
      first.redisStore.storedEntries (cacheKey request) := same.entries _ member
  simp only [hydrateFromRedis, read]
  cases first.redisStore.storedEntries (cacheKey request) with
  | error raised => exact .error ⟨store, rfl, same⟩
  | ok loaded =>
    cases loaded with
    | nil => exact .ok ⟨store, rfl, same⟩
    | cons entry rest => exact .ok ⟨store, rfl, same⟩

theorem respects_prepareScore {request : InferenceRequest} (member : cacheKey request ∈ keys) (now : ℚ) :
    Respects (Agree keys) (prepareScore request now) := by
  rintro first _ ⟨store, rfl, same⟩
  have prepared : prepareScore request now (first.withStore store) =
      if (first.evictStale now).bucket (cacheKey request) = [] then
        hydrateFromRedis request ((first.evictStale now).withStore store)
      else .ok () ((first.evictStale now).withStore store) := rfl
  rw [prepared]
  unfold prepareScore
  dsimp only
  split
  · exact respects_hydrateFromRedis member _ _ ⟨store, rfl, same⟩
  · exact .ok ⟨store, rfl, same⟩

theorem respects_score {request : InferenceRequest} (member : cacheKey request ∈ keys)
    (clusterId poolId : String) (now : ℚ) :
    Respects (Agree keys) (score request clusterId poolId now) := by
  intro first second agree
  unfold score
  rcases (respects_prepareScore member now first second agree).cases with
    ⟨raised, ready, readyToo, left, right, related⟩ | ⟨_, ready, readyToo, left, right, related⟩
  · rw [left, right]
    exact .error related
  · obtain ⟨store, rfl, same⟩ := related
    have best : bestHit (ready.withStore store).ttlS clusterId poolId request.promptTokens now
        ((ready.withStore store).bucket (cacheKey request)) (0, 0) =
        bestHit ready.ttlS clusterId poolId request.promptTokens now
          (ready.bucket (cacheKey request)) (0, 0) := rfl
    simp only [left, right, best]
    cases bestHit ready.ttlS clusterId poolId request.promptTokens now
      (ready.bucket (cacheKey request)) (0, 0) with
    | error raised => exact .error ⟨store, rfl, same⟩
    | ok hit => exact .ok ⟨store, rfl, same⟩

theorem respects_persistToRedis (key : String) : Respects (Agree keys) (persistToRedis key) := by
  rintro first _ ⟨store, rfl, same⟩
  have written := RedisStore.respects_writeCacheAffinity keys key
    (.obj [("entries", .arr ((first.bucket key).map CacheEntry.payload))]) _ _ same
  have sameBucket : (first.withStore store).bucket key = first.bucket key := rfl
  have itsStore : (first.withStore store).redisStore = store := rfl
  rcases written.cases with ⟨raised, _, _, left, right, related⟩ | ⟨_, _, _, left, right, related⟩
  · simp only [persistToRedis, sameBucket, itsStore, left, right]
    exact .error ⟨_, rfl, related⟩
  · simp only [persistToRedis, sameBucket, itsStore, left, right]
    exact .ok ⟨_, rfl, related⟩

theorem respects_trim : Respects (Agree keys) trim := by
  rintro first _ ⟨store, rfl, same⟩
  have trimmed : trim (first.withStore store) =
      if (first.totalEntries : ℤ) ≤ first.maxEntries then .ok () (first.withStore store)
      else if Comparable first.trimItems then
        let items := first.trimItems.insertionSort (fun a b => trimRank a ≤ trimRank b)
        .ok () { first.withStore store with
          entries := trimLoop first.maxEntries items first.totalEntries first.entries }
      else
        .error (.typeError "'<' not supported between instances of 'CacheEntry' and 'CacheEntry'")
          (first.withStore store) := rfl
  rw [trimmed]
  unfold trim
  split
  · exact .ok ⟨store, rfl, same⟩
  · split
    · exact .ok ⟨store, rfl, same⟩
    · exact .error ⟨store, rfl, same⟩

theorem observe_admitted {result : RequestResult} (admitted : result.admitted = true)
    (directory : KVCacheDirectory) :
    observe result directory =
      (persistToRedis (cacheKey result.request) >>= fun _ => trim) (directory.recorded result) := by
  simp only [observe, admitted, if_true]
  change _ = EStateM.bind _ _ _
  unfold EStateM.bind
  cases persistToRedis (cacheKey result.request) (directory.recorded result) <;> rfl

theorem respects_observe (result : RequestResult) : Respects (Agree keys) (observe result) := by
  rintro first _ ⟨store, rfl, same⟩
  have stored : Related (Agree keys)
      ((persistToRedis (cacheKey result.request) >>= fun _ => trim) (first.recorded result))
      ((persistToRedis (cacheKey result.request) >>= fun _ => trim) ((first.recorded result).withStore store)) :=
    (respects_persistToRedis _).bind (fun _ => respects_trim) _ _ ⟨store, rfl, same⟩
  cases admitted : result.admitted with
  | false =>
    rw [observe_rejected _ result admitted, observe_rejected _ result admitted]
    exact .ok ⟨store, rfl, same⟩
  | true =>
    rw [observe_admitted admitted, observe_admitted admitted]
    exact stored

end KVCacheDirectory

end NimbusMesh
