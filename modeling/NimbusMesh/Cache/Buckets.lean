import NimbusMesh.Cache.Directory

namespace NimbusMesh.KVCacheDirectory

open Foundation Foundation.Decimal Foundation.Execution

@[simp] theorem bucket_setBucket (directory : KVCacheDirectory) (key other : String) (entries : List CacheEntry) :
    (directory.setBucket key entries).bucket other =
      if key = other then entries else directory.bucket other := by
  unfold bucket setBucket
  rw [Dict.lookup_set]
  split <;> rfl

@[simp] theorem bucket_evictStale (directory : KVCacheDirectory) (now : ℚ) (key : String) :
    (directory.evictStale now).bucket key =
      (directory.bucket key).filter (fun entry => directory.Fresh now entry) := by
  simp only [bucket, evictStale, Dict.lookup, KeyedList.get?_filterMap]
  cases directory.entries.get? key with
  | none => rfl
  | some slot =>
    simp only [Option.bind_some, survivors, Option.map_some, Option.getD_some]
    split
    · rename_i empty
      simp [empty]
    · rfl

theorem Fresh.earlier {directory : KVCacheDirectory} {earlier later : ℚ} {entry : CacheEntry}
    (fresh : directory.Fresh later entry) (le : earlier ≤ later) : directory.Fresh earlier entry := by
  unfold Fresh at fresh ⊢
  linarith

theorem evictStale_evictStale_of_le (directory : KVCacheDirectory) {earlier later : ℚ} (le : earlier ≤ later) :
    (directory.evictStale earlier).evictStale later = directory.evictStale later := by
  have entries : ((directory.evictStale earlier).evictStale later).entries = (directory.evictStale later).entries := by
    ext1
    simp only [evictStale, KeyedList.filterMap, List.filterMap_filterMap]
    apply List.filterMap_congr
    intro slot _
    change (directory.survivors earlier slot).bind (directory.survivors later) = directory.survivors later slot
    have kept : (slot.2.filter (fun entry => directory.Fresh earlier entry)).filter
        (fun entry => directory.Fresh later entry) = slot.2.filter (fun entry => directory.Fresh later entry) := by
      rw [List.filter_filter]
      apply List.filter_congr
      intro entry _
      by_cases fresh : directory.Fresh later entry
      · simp [fresh, fresh.earlier le]
      · simp [fresh]
    by_cases gone : slot.2.filter (fun entry => directory.Fresh earlier entry) = []
    · rw [gone, List.filter_nil] at kept
      simp only [survivors, gone, if_true, ← kept, Option.bind_none]
    · simp only [survivors, gone, if_false, Option.bind_some, kept]
  change { directory with entries := _ } = { directory with entries := _ }
  exact congrArg (fun kept => { directory with entries := kept }) entries

theorem evictStale_evictStale (directory : KVCacheDirectory) (now : ℚ) :
    (directory.evictStale now).evictStale now = directory.evictStale now :=
  directory.evictStale_evictStale_of_le (le_refl now)

/-- Some entries are gone and, but for the documents in the store, the rest is as it was. -/
structure Shrinks (before after : KVCacheDirectory) : Prop where
  ttlS : after.ttlS = before.ttlS
  maxEntries : after.maxEntries = before.maxEntries
  store : ∃ documents, after.redisStore = { before.redisStore with cacheAffinity := documents }
  buckets : ∀ key, (after.bucket key).Sublist (before.bucket key)

theorem Shrinks.refl (directory : KVCacheDirectory) : Shrinks directory directory :=
  ⟨rfl, rfl, ⟨_, rfl⟩, fun _ => List.Sublist.refl _⟩

theorem Shrinks.trans {first second third : KVCacheDirectory} (left : Shrinks first second)
    (right : Shrinks second third) : Shrinks first third := by
  obtain ⟨documents, stored⟩ := right.store
  obtain ⟨earlier, previous⟩ := left.store
  exact ⟨right.ttlS.trans left.ttlS, right.maxEntries.trans left.maxEntries,
    ⟨documents, by rw [stored, previous]⟩, fun key => (right.buckets key).trans (left.buckets key)⟩

theorem Shrinks.enabled {before after : KVCacheDirectory} (shrinks : Shrinks before after) :
    after.redisStore.enabled = before.redisStore.enabled := by
  obtain ⟨documents, stored⟩ := shrinks.store
  rw [stored]

theorem shrinks_evictStale (directory : KVCacheDirectory) (now : ℚ) :
    Shrinks directory (directory.evictStale now) :=
  ⟨rfl, rfl, ⟨_, rfl⟩, fun key => by rw [bucket_evictStale]; exact List.filter_sublist⟩

theorem lookup_removeVictim (entries : Dict String (List CacheEntry)) (item : String × CacheEntry)
    (key : String) :
    (Dict.lookup (removeVictim entries item) key).getD [] =
      if item.1 = key then ((Dict.lookup entries key).getD []).erase item.2
      else (Dict.lookup entries key).getD [] := by
  simp only [removeVictim]
  split
  · rename_i gone
    have erased : Dict.lookup (entries.erase item.1) key =
        if item.1 = key then none else Dict.lookup entries key := by
      unfold Dict.lookup
      split
      · rename_i same
        rw [KeyedList.get?_eq_none.mpr (fun slot member => by
          rw [← same]; exact (KeyedList.mem_erase.mp member).2)]
        rfl
      · rename_i differ
        rw [KeyedList.get?_congr]
        intro slot keyed
        rw [KeyedList.mem_erase]
        exact ⟨And.left, fun member => ⟨member, fun clash => differ (clash.symm.trans keyed)⟩⟩
    rw [erased]
    split
    · rename_i same
      rw [← same, gone]
      rfl
    · rfl
  · rw [Dict.lookup_set]
    split
    · rename_i same
      rw [← same]
      rfl
    · rfl

theorem trimLoop_sublist (maxEntries : ℤ) (items : List (String × CacheEntry)) (total : ℕ)
    (entries : Dict String (List CacheEntry)) (key : String) :
    ((Dict.lookup (trimLoop maxEntries items total entries) key).getD []).Sublist
      ((Dict.lookup entries key).getD []) := by
  induction items generalizing total entries with
  | nil => exact List.Sublist.refl _
  | cons item rest ih =>
    simp only [trimLoop]
    split
    · refine (ih _ _).trans ?_
      rw [lookup_removeVictim]
      split
      · exact List.erase_sublist
      · exact List.Sublist.refl _
    · exact List.Sublist.refl _

theorem trim_cases (directory : KVCacheDirectory) :
    stateAfter trim directory = directory ∨
      ∃ items total, stateAfter trim directory =
        { directory with entries := trimLoop directory.maxEntries items total directory.entries } := by
  simp only [stateAfter, trim]
  split
  · rename_i returned
    split at returned
    · cases returned; exact .inl rfl
    · split at returned
      · cases returned; exact .inr ⟨_, _, rfl⟩
      · cases returned
  · rename_i raised
    split at raised
    · cases raised
    · split at raised
      · cases raised
      · cases raised; exact .inl rfl

theorem shrinks_trim (directory : KVCacheDirectory) : Shrinks directory (stateAfter trim directory) := by
  rcases trim_cases directory with same | ⟨items, total, trimmed⟩
  · rw [same]
    exact .refl directory
  · rw [trimmed]
    exact ⟨rfl, rfl, ⟨_, rfl⟩, fun key => trimLoop_sublist _ _ _ _ key⟩

theorem writeCacheAffinity_store (store : RedisStore) (key : String) (payload : Json) :
    stateAfter (RedisStore.writeCacheAffinity key payload) store = store ∨
      stateAfter (RedisStore.writeCacheAffinity key payload) store =
        { store with cacheAffinity := Dict.set store.cacheAffinity key payload } := by
  obtain ⟨enabled, documents, conversions, hgetFault, hsetFault⟩ := store
  cases enabled with
  | false => exact .inl rfl
  | true =>
    cases hsetFault with
    | none => exact .inr rfl
    | some fault => exact .inl rfl

theorem persistToRedis_state (directory : KVCacheDirectory) (key : String) :
    stateAfter (persistToRedis key) directory =
      { directory with
        redisStore := stateAfter (RedisStore.writeCacheAffinity key
          (.obj [("entries", .arr ((directory.bucket key).map CacheEntry.payload))])) directory.redisStore } := by
  simp only [stateAfter, persistToRedis]
  cases directory.redisStore.writeCacheAffinity key _ <;> rfl

theorem shrinks_persistToRedis (directory : KVCacheDirectory) (key : String) :
    Shrinks directory (stateAfter (persistToRedis key) directory) := by
  rw [persistToRedis_state]
  refine ⟨rfl, rfl, ?_, fun _ => List.Sublist.refl _⟩
  rcases writeCacheAffinity_store directory.redisStore key
    (.obj [("entries", .arr ((directory.bucket key).map CacheEntry.payload))]) with same | written
  · exact ⟨_, same⟩
  · exact ⟨_, written⟩

theorem observe_state (directory : KVCacheDirectory) (result : RequestResult)
    (admitted : result.admitted = true) :
    let persisted := stateAfter (persistToRedis (cacheKey result.request)) (directory.recorded result)
    stateAfter (observe result) directory = persisted ∨
      stateAfter (observe result) directory = stateAfter trim persisted := by
  simp only [stateAfter, observe, admitted, if_true]
  cases persistToRedis (cacheKey result.request) (directory.recorded result) with
  | error raised persisted => exact .inl rfl
  | ok value persisted => exact .inr rfl

theorem shrinks_observe (directory : KVCacheDirectory) (result : RequestResult)
    (admitted : result.admitted = true) :
    Shrinks (directory.recorded result) (stateAfter (observe result) directory) := by
  have stored := shrinks_persistToRedis (directory.recorded result) (cacheKey result.request)
  rcases observe_state directory result admitted with final | final
  · rw [final]
    exact stored
  · rw [final]
    exact stored.trans (shrinks_trim _)

@[simp] theorem observe_rejected (directory : KVCacheDirectory) (result : RequestResult)
    (rejected : result.admitted = false) : observe result directory = .ok () directory := by
  simp [observe, rejected]

@[simp] theorem bucket_recorded (directory : KVCacheDirectory) (result : RequestResult) (key : String) :
    (directory.recorded result).bucket key =
      if cacheKey result.request = key then capBucket (mergeResult key result (directory.bucket key))
      else directory.bucket key := by
  simp only [recorded, bucket_setBucket]
  split
  · rename_i same
    rw [same]
  · rfl

theorem mem_capBucket {entries : List CacheEntry} {entry : CacheEntry}
    (member : entry ∈ capBucket entries) : entry ∈ entries := by
  unfold capBucket at member
  split at member
  · exact (List.mem_insertionSort _).mp (List.mem_of_mem_take member)
  · exact member

theorem mem_mergeResult {key : String} {result : RequestResult} {entries : List CacheEntry}
    {entry : CacheEntry} (member : entry ∈ mergeResult key result entries) :
    (entry ∈ entries) ∨ entry = created key result ∨
      ∃ old, entries.find? (fun e => e.At result.decision.clusterId result.decision.poolId) = some old ∧
        entry = touched old result := by
  induction entries with
  | nil => exact .inr (.inl (by simpa [mergeResult] using member))
  | cons first rest ih =>
    simp only [mergeResult] at member
    split at member
    · rename_i located
      rcases List.mem_cons.mp member with rfl | inRest
      · exact .inr (.inr ⟨first, by simp [located], rfl⟩)
      · exact .inl (by simp [inRest])
    · rename_i elsewhere
      rcases List.mem_cons.mp member with rfl | inRest
      · exact .inl (by simp)
      · rcases ih inRest with kept | new | ⟨old, found, same⟩
        · exact .inl (by simp [kept])
        · exact .inr (.inl new)
        · exact .inr (.inr ⟨old, by simp [elsewhere, found], same⟩)

theorem prepareScore_cases (directory : KVCacheDirectory) (request : InferenceRequest) (now : ℚ) :
    (∃ raised, prepareScore request now directory = .error raised (directory.evictStale now)) ∨
    prepareScore request now directory = .ok () (directory.evictStale now) ∨
    ∃ entry rest, (directory.evictStale now).bucket (cacheKey request) = [] ∧
      directory.redisStore.storedEntries (cacheKey request) = .ok (entry :: rest) ∧
      prepareScore request now directory =
        .ok () ((directory.evictStale now).setBucket (cacheKey request) (entry :: rest)) := by
  simp only [prepareScore]
  split
  · rename_i empty
    have store : (directory.evictStale now).redisStore = directory.redisStore := rfl
    simp only [hydrateFromRedis, store]
    split
    · exact .inl ⟨_, rfl⟩
    · exact .inr (.inl rfl)
    · rename_i entry rest loaded
      exact .inr (.inr ⟨entry, rest, empty, loaded, rfl⟩)
  · exact .inr (.inl rfl)

theorem storedEntries_disabled {store : RedisStore} (disabled : store.enabled = false) (key : String) :
    store.storedEntries key = .ok [] := by
  simp [RedisStore.storedEntries, RedisStore.fetchCacheAffinity, disabled, Bind.bind, Except.bind,
    Pure.pure, Except.pure]

theorem stored_disabled {store : RedisStore} (disabled : store.enabled = false) (property : CacheEntry → Prop) :
    ∀ key entries, store.storedEntries key = .ok entries → ∀ entry ∈ entries, property entry := by
  intro key entries read entry inside
  rw [storedEntries_disabled disabled] at read
  cases read
  cases inside

theorem prepareScore_disabled (directory : KVCacheDirectory) (request : InferenceRequest) (now : ℚ)
    (disabled : directory.redisStore.enabled = false) :
    prepareScore request now directory = .ok () (directory.evictStale now) := by
  have nothing := storedEntries_disabled disabled (cacheKey request)
  rcases prepareScore_cases directory request now with ⟨raised, outcome⟩ | outcome | ⟨_, _, _, loaded, _⟩
  · simp only [prepareScore, hydrateFromRedis] at outcome
    have store : (directory.evictStale now).redisStore = directory.redisStore := rfl
    split at outcome
    · simp [store, nothing] at outcome
    · cases outcome
  · exact outcome
  · rw [nothing] at loaded
    cases loaded

@[simp] theorem score_state (directory : KVCacheDirectory) (request : InferenceRequest)
    (clusterId poolId : String) (now : ℚ) :
    stateAfter (score request clusterId poolId now) directory =
      stateAfter (prepareScore request now) directory := by
  simp only [stateAfter, score]
  cases prepareScore request now directory with
  | error raised prepared => rfl
  | ok value prepared =>
    simp only
    split
    · rename_i returned
      split at returned
      · cases returned
      · cases returned; rfl
    · rename_i raised
      split at raised
      · cases raised; rfl
      · cases raised

theorem score_disabled {directory final : KVCacheDirectory} (disabled : directory.redisStore.enabled = false)
    {request : InferenceRequest} {clusterId poolId : String} {now : ℚ} {cache : ℚ × ℤ}
    (returned : score request clusterId poolId now directory = .ok cache final) :
    final = directory.evictStale now := by
  rw [← stateAfter_ok returned, score_state, stateAfter_ok (prepareScore_disabled _ _ _ disabled)]

end NimbusMesh.KVCacheDirectory
