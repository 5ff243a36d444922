import NimbusMesh.Cache.Buckets

namespace NimbusMesh

open Foundation Foundation.Execution

def document (entries : List CacheEntry) : Json :=
  .obj [("entries", .arr (entries.map CacheEntry.payload))]

theorem hydratedEntries_payload (conversions : TextConversions) (key : String)
    (entries : List CacheEntry) :
    hydratedEntries conversions key (entries.map CacheEntry.payload) =
      .ok (entries.map (fun entry => { entry with key })) := by
  induction entries with
  | nil => rfl
  | cons entry rest ih =>
    simp only [List.map_cons, CacheEntry.payload, hydratedEntries]
    apply except_bind_eq_ok.mpr
    exact ⟨{ entry with key }, rfl, except_bind_eq_ok.mpr ⟨_, ih, rfl⟩⟩

namespace RedisStore

def persisted (store : RedisStore) (key : String) (entries : List CacheEntry) : RedisStore :=
  { store with cacheAffinity := Dict.set store.cacheAffinity key (document entries) }

theorem storedEntries_persisted_same {store : RedisStore} (enabled : store.enabled = true)
    (reachable : store.hgetFault = none) (key : String) (entries : List CacheEntry) :
    (store.persisted key entries).storedEntries key =
      .ok (entries.map (fun entry => { entry with key })) := by
  have fetched : (store.persisted key entries).fetchCacheAffinity key = .ok (some (document entries)) := by
    simp [fetchCacheAffinity, persisted, enabled, reachable]
  simp only [storedEntries, fetched]
  exact hydratedEntries_payload store.conversions key entries

theorem storedEntries_persisted_other (store : RedisStore) {key other : String} (differ : key ≠ other)
    (entries : List CacheEntry) :
    (store.persisted key entries).storedEntries other = store.storedEntries other := by
  have fetched : (store.persisted key entries).fetchCacheAffinity other = store.fetchCacheAffinity other := by
    simp [fetchCacheAffinity, persisted, differ]
  simp only [storedEntries, fetched]
  rfl

theorem storedEntries_persisted_cases {store : RedisStore} {key other : String}
    {entries loaded : List CacheEntry}
    (read : (store.persisted key entries).storedEntries other = .ok loaded) :
    (key = other ∧ (loaded = [] ∨ loaded = entries.map (fun entry => { entry with key }))) ∨
      (key ≠ other ∧ store.storedEntries other = .ok loaded) := by
  by_cases same : key = other
  · subst same
    refine .inl ⟨rfl, ?_⟩
    cases enabled : store.enabled with
    | false =>
      have off : (store.persisted key entries).enabled = false := enabled
      rw [KVCacheDirectory.storedEntries_disabled off] at read
      cases read
      exact .inl rfl
    | true =>
      cases reachable : store.hgetFault with
      | none =>
        rw [storedEntries_persisted_same enabled reachable] at read
        cases read
        exact .inr rfl
      | some fault =>
        have failed : (store.persisted key entries).storedEntries key = .error fault := by
          simp [storedEntries, fetchCacheAffinity, persisted, enabled, reachable, Bind.bind, Except.bind]
        rw [failed] at read
        cases read
  · rw [storedEntries_persisted_other store same] at read
    exact .inr ⟨same, read⟩

end RedisStore

namespace KVCacheDirectory

theorem observe_store (directory : KVCacheDirectory) (result : RequestResult) :
    (stateAfter (observe result) directory).redisStore = directory.redisStore ∨
      (stateAfter (observe result) directory).redisStore = directory.redisStore.persisted
        (cacheKey result.request) ((directory.recorded result).bucket (cacheKey result.request)) := by
  cases admitted : result.admitted with
  | false =>
    rw [stateAfter_ok (observe_rejected directory result admitted)]
    exact .inl rfl
  | true =>
    have written : (stateAfter (persistToRedis (cacheKey result.request)) (directory.recorded result)).redisStore =
        directory.redisStore ∨
        (stateAfter (persistToRedis (cacheKey result.request)) (directory.recorded result)).redisStore =
          directory.redisStore.persisted (cacheKey result.request)
            ((directory.recorded result).bucket (cacheKey result.request)) := by
      rw [persistToRedis_state]
      exact writeCacheAffinity_store (directory.recorded result).redisStore _ _
    rcases observe_state directory result admitted with final | final
    · rwa [final]
    · rw [final]
      rcases trim_cases (stateAfter (persistToRedis (cacheKey result.request))
        (directory.recorded result)) with same | ⟨items, total, trimmed⟩
      · rwa [same]
      · rwa [trimmed]

end KVCacheDirectory

section Decoding

variable {conversions : TextConversions} {key : String}

theorem ofPayload_key {fields : List (String × Json)} {entry : CacheEntry}
    (decoded : CacheEntry.ofPayload conversions key fields = .ok entry) : entry.key = key := by
  obtain ⟨_, _, decoded⟩ := except_bind_eq_ok.mp decoded
  obtain ⟨_, _, decoded⟩ := except_bind_eq_ok.mp decoded
  obtain ⟨_, _, decoded⟩ := except_bind_eq_ok.mp decoded
  obtain ⟨_, _, decoded⟩ := except_bind_eq_ok.mp decoded
  obtain ⟨_, _, decoded⟩ := except_bind_eq_ok.mp decoded
  cases decoded
  rfl

theorem hydratedEntries_key {items : List Json} {entries : List CacheEntry}
    (decoded : hydratedEntries conversions key items = .ok entries) : ∀ entry ∈ entries, entry.key = key := by
  fun_induction hydratedEntries conversions key items generalizing entries with
  | case1 =>
    cases decoded
    simp
  | case2 fields rest ih =>
    obtain ⟨first, read, decoded⟩ := except_bind_eq_ok.mp decoded
    obtain ⟨others, later, same⟩ := except_bind_eq_ok.mp decoded
    cases same
    intro entry member
    rcases List.mem_cons.mp member with rfl | inside
    · exact ofPayload_key read
    · exact ih later entry inside
  | case3 item rest other ih => exact ih decoded

end Decoding

theorem RedisStore.storedEntries_key {store : RedisStore} {key : String} {entries : List CacheEntry}
    (read : store.storedEntries key = .ok entries) :
    ∀ entry ∈ entries, entry.key = key := by
  obtain ⟨fetched, _, read⟩ := except_bind_eq_ok.mp read
  cases fetched with
  | none =>
    cases read
    simp
  | some payload =>
    simp only at read
    split at read
    · split at read
      · split at read
        · exact hydratedEntries_key read
        · cases read
          simp
      · cases read
    · cases read
      simp

end NimbusMesh
