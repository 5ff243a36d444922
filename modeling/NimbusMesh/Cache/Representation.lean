import NimbusMesh.Cache.Calls

namespace NimbusMesh

open Foundation Foundation.Execution

def CacheEntry.location (entry : CacheEntry) : String × String := (entry.clusterId, entry.poolId)

def RequestResult.location (result : RequestResult) : String × String :=
  (result.decision.clusterId, result.decision.poolId)

namespace KVCacheDirectory

theorem location_eq_iff {entry : CacheEntry} {result : RequestResult} :
    entry.location = result.location ↔ entry.At result.decision.clusterId result.decision.poolId :=
  Prod.mk.injEq _ _ _ _ ▸ Iff.rfl

theorem location_touched (entry : CacheEntry) (result : RequestResult) :
    (touched entry result).location = entry.location := rfl

theorem locations_mergeResult (key : String) (result : RequestResult) (entries : List CacheEntry) :
    (mergeResult key result entries).map CacheEntry.location =
      if result.location ∈ entries.map CacheEntry.location then entries.map CacheEntry.location
      else entries.map CacheEntry.location ++ [result.location] := by
  induction entries with
  | nil => rfl
  | cons entry rest ih =>
    simp only [mergeResult]
    by_cases here : entry.At result.decision.clusterId result.decision.poolId
    · have same := (location_eq_iff.mpr here).symm
      simp [here, location_touched, same]
    · have differ : result.location ≠ entry.location := fun same => here (location_eq_iff.mp same.symm)
      simp only [here, if_false, List.map_cons, ih, List.mem_cons, differ, false_or]
      split <;> simp

theorem nodup_locations_mergeResult {key : String} {result : RequestResult} {entries : List CacheEntry}
    (distinct : (entries.map CacheEntry.location).Nodup) :
    ((mergeResult key result entries).map CacheEntry.location).Nodup := by
  rw [locations_mergeResult]
  split
  · exact distinct
  · rename_i absent
    apply List.nodup_append'.mpr
    exact ⟨distinct, List.nodup_singleton _, by simpa using absent⟩

theorem mergeResult_ne_nil (key : String) (result : RequestResult) (entries : List CacheEntry) :
    mergeResult key result entries ≠ [] := by
  cases entries with
  | nil => exact List.cons_ne_nil _ _
  | cons entry rest =>
    simp only [mergeResult]
    split <;> exact List.cons_ne_nil _ _

theorem capBucket_sublist (entries : List CacheEntry) :
    ∃ ordered, ordered.Perm entries ∧ (capBucket entries).Sublist ordered := by
  unfold capBucket
  split
  · exact ⟨_, List.perm_insertionSort _ entries, List.take_sublist 4 _⟩
  · exact ⟨entries, List.Perm.refl entries, List.Sublist.refl entries⟩

theorem capBucket_length (entries : List CacheEntry) : (capBucket entries).length ≤ 4 := by
  unfold capBucket
  split
  · exact List.length_take_le 4 _
  · omega

theorem capBucket_ne_nil {entries : List CacheEntry} (nonempty : entries ≠ []) : capBucket entries ≠ [] := by
  unfold capBucket
  split
  · rename_i long
    apply List.ne_nil_of_length_pos
    rw [List.length_take, List.length_insertionSort]
    omega
  · exact nonempty

theorem nodup_locations_capBucket {entries : List CacheEntry}
    (distinct : (entries.map CacheEntry.location).Nodup) :
    ((capBucket entries).map CacheEntry.location).Nodup := by
  obtain ⟨ordered, perm, sublist⟩ := capBucket_sublist entries
  exact ((perm.map CacheEntry.location).nodup_iff.mpr distinct).sublist (sublist.map CacheEntry.location)

structure BucketValid (key : String) (entries : List CacheEntry) : Prop where
  nonempty : entries ≠ []
  atMostFour : entries.length ≤ 4
  distinct : (entries.map CacheEntry.location).Nodup
  keyed : ∀ entry ∈ entries, entry.key = key
  timed : ∀ entry ∈ entries, entry.availableTs = entry.lastTouched

theorem BucketValid.sublist {key : String} {entries kept : List CacheEntry} (valid : BucketValid key entries)
    (sublist : kept.Sublist entries) (nonempty : kept ≠ []) : BucketValid key kept where
  nonempty := nonempty
  atMostFour := sublist.length_le.trans valid.atMostFour
  distinct := valid.distinct.sublist (sublist.map _)
  keyed := fun entry member => valid.keyed entry (sublist.subset member)
  timed := fun entry member => valid.timed entry (sublist.subset member)

theorem bucketValid_recorded {key : String} {entries : List CacheEntry} (result : RequestResult)
    (valid : entries = [] ∨ BucketValid key entries) :
    BucketValid key (capBucket (mergeResult key result entries)) := by
  have distinct : (entries.map CacheEntry.location).Nodup := by
    rcases valid with rfl | valid
    · exact List.nodup_nil
    · exact valid.distinct
  have every : ∀ entry ∈ entries, entry.key = key ∧ entry.availableTs = entry.lastTouched := by
    rcases valid with rfl | valid
    · intro entry member
      cases member
    · exact fun entry member => ⟨valid.keyed entry member, valid.timed entry member⟩
  have merged : ∀ entry ∈ capBucket (mergeResult key result entries),
      entry.key = key ∧ entry.availableTs = entry.lastTouched := by
    intro entry member
    rcases mem_mergeResult (mem_capBucket member) with kept | rfl | ⟨old, found, rfl⟩
    · exact every entry kept
    · exact ⟨rfl, rfl⟩
    · exact ⟨(every old (List.mem_of_find?_eq_some found)).1, rfl⟩
  exact {
    nonempty := capBucket_ne_nil (mergeResult_ne_nil key result entries)
    atMostFour := capBucket_length _
    distinct := nodup_locations_capBucket (nodup_locations_mergeResult distinct)
    keyed := fun entry member => (merged entry member).1
    timed := fun entry member => (merged entry member).2 }

def BucketsValid (entries : Dict String (List CacheEntry)) : Prop :=
  ∀ slot ∈ entries.toList, BucketValid slot.1 slot.2

theorem BucketsValid.lookup {entries : Dict String (List CacheEntry)} (valid : BucketsValid entries)
    (key : String) :
    (Dict.lookup entries key).getD [] = [] ∨ BucketValid key ((Dict.lookup entries key).getD []) := by
  unfold Dict.lookup
  cases found : entries.get? key with
  | none => exact .inl rfl
  | some slot =>
    obtain ⟨member, keyed⟩ := KeyedList.get?_eq_some.mp found
    exact .inr (keyed ▸ valid slot member)

theorem BucketsValid.set {entries : Dict String (List CacheEntry)} (valid : BucketsValid entries)
    {key : String} {bucket : List CacheEntry} (new : BucketValid key bucket) :
    BucketsValid (Dict.set entries key bucket) := by
  intro slot member
  rcases KeyedList.mem_insert.mp member with rfl | ⟨old, _⟩
  · exact new
  · exact valid slot old

theorem BucketsValid.evictStale {directory : KVCacheDirectory} (valid : BucketsValid directory.entries)
    (now : ℚ) : BucketsValid (directory.evictStale now).entries := by
  intro slot member
  obtain ⟨old, inside, survived⟩ := List.mem_filterMap.mp member
  unfold survivors at survived
  dsimp only at survived
  split at survived
  · cases survived
  · rename_i nonempty
    cases survived
    exact (valid old inside).sublist List.filter_sublist nonempty

def entryCount (entries : Dict String (List CacheEntry)) : ℕ :=
  ((Dict.values entries).map List.length).sum

theorem totalEntries_eq (directory : KVCacheDirectory) :
    directory.totalEntries = entryCount directory.entries := rfl

theorem entryCount_eq (entries : Dict String (List CacheEntry)) :
    entryCount entries = (entries.toList.map (fun slot => slot.2.length)).sum := by
  rw [entryCount, Dict.values, List.map_map]
  rfl

theorem length_lookup (entries : Dict String (List CacheEntry)) (key : String) :
    ((entries.get? key).map (fun slot => slot.2.length)).getD 0 =
      ((Dict.lookup entries key).getD []).length := by
  unfold Dict.lookup
  cases entries.get? key <;> rfl

theorem totalEntries_evictStale (directory : KVCacheDirectory) (now : ℚ) :
    (directory.evictStale now).totalEntries ≤ directory.totalEntries := by
  rw [totalEntries_eq, totalEntries_eq, entryCount_eq, entryCount_eq]
  apply KeyedList.sum_le_sum
  · exact fun _ _ => Nat.zero_le _
  · intro key
    rw [length_lookup, length_lookup]
    exact ((shrinks_evictStale directory now).buckets key).length_le

theorem entryCount_removeVictim {entries : Dict String (List CacheEntry)} {item : String × CacheEntry}
    (present : item.2 ∈ (Dict.lookup entries item.1).getD []) :
    entryCount (removeVictim entries item) + 1 = entryCount entries := by
  have erased := List.length_erase_of_mem present
  have positive := List.length_pos_of_mem present
  have held := length_lookup entries item.1
  rw [entryCount_eq, entryCount_eq]
  unfold removeVictim
  dsimp only
  split
  · rename_i gone
    have sum := KeyedList.sum_erase (fun slot : String × List CacheEntry => slot.2.length) entries item.1
    rw [gone, List.length_nil] at erased
    omega
  · have sum := KeyedList.sum_insert (fun slot : String × List CacheEntry => slot.2.length) entries
      (item.1, ((Dict.lookup entries item.1).getD []).erase item.2)
    dsimp only at sum
    unfold Dict.set
    omega

theorem BucketsValid.removeVictim {entries : Dict String (List CacheEntry)} (valid : BucketsValid entries)
    (item : String × CacheEntry) : BucketsValid (removeVictim entries item) := by
  unfold KVCacheDirectory.removeVictim
  dsimp only
  split
  · exact fun slot member => valid slot (KeyedList.mem_erase.mp member).1
  · rename_i nonempty
    apply valid.set
    rcases valid.lookup item.1 with empty | bucket
    · rw [empty] at nonempty
      exact absurd rfl nonempty
    · exact bucket.sublist List.erase_sublist nonempty

theorem BucketsValid.trimLoop {entries : Dict String (List CacheEntry)} (valid : BucketsValid entries)
    (maxEntries : ℤ) (items : List (String × CacheEntry)) (total : ℕ) :
    BucketsValid (trimLoop maxEntries items total entries) := by
  induction items generalizing total entries with
  | nil => exact valid
  | cons item rest ih =>
    simp only [KVCacheDirectory.trimLoop]
    split
    · exact ih (valid.removeVictim item) _
    · exact valid

theorem present_removeVictim {entries : Dict String (List CacheEntry)} {item : String × CacheEntry}
    {rest : List (String × CacheEntry)} (once : item ∉ rest)
    (present : ∀ other ∈ item :: rest, other.2 ∈ (Dict.lookup entries other.1).getD []) :
    ∀ other ∈ rest, other.2 ∈ (Dict.lookup (KVCacheDirectory.removeVictim entries item) other.1).getD [] := by
  intro other member
  have held := present other (by simp [member])
  rw [lookup_removeVictim]
  split
  · rename_i same
    apply (List.mem_erase_of_ne ?_).mpr held
    intro clash
    apply once
    rwa [Prod.ext same clash.symm]
  · exact held

theorem entryCount_removeVictims (victims : List (String × CacheEntry)) (entries : Dict String (List CacheEntry))
    (distinct : victims.Nodup) (present : ∀ item ∈ victims, item.2 ∈ (Dict.lookup entries item.1).getD []) :
    entryCount (victims.foldl removeVictim entries) + victims.length = entryCount entries := by
  induction victims generalizing entries with
  | nil => rfl
  | cons item rest ih =>
    obtain ⟨once, others⟩ := List.nodup_cons.mp distinct
    have fewer := entryCount_removeVictim (present item (by simp))
    have later := ih (removeVictim entries item) others (present_removeVictim once present)
    rw [List.foldl_cons, List.length_cons]
    omega

theorem trimLoop_eq (maxEntries : ℤ) (items : List (String × CacheEntry)) (entries : Dict String (List CacheEntry))
    (distinct : items.Nodup) (present : ∀ item ∈ items, item.2 ∈ (Dict.lookup entries item.1).getD []) :
    trimLoop maxEntries items items.length entries =
      (items.take (items.length - maxEntries.toNat)).foldl removeVictim entries := by
  induction items generalizing entries with
  | nil => rw [List.take_nil, List.foldl_nil, trimLoop]
  | cons item rest ih =>
    obtain ⟨once, others⟩ := List.nodup_cons.mp distinct
    have here := present item (by simp)
    rw [List.length_cons]
    simp only [trimLoop, here, if_true]
    split
    · have one : rest.length + 1 - maxEntries.toNat = (rest.length - maxEntries.toNat) + 1 := by omega
      rw [Nat.add_sub_cancel, one, List.take_succ_cons, List.foldl_cons]
      exact ih _ others (present_removeVictim once present)
    · have none : rest.length + 1 - maxEntries.toNat = 0 := by omega
      rw [none, List.take_zero, List.foldl_nil]

theorem entryCount_trimLoop {maxEntries : ℤ} (nonneg : 0 ≤ maxEntries) (items : List (String × CacheEntry))
    (entries : Dict String (List CacheEntry)) (distinct : items.Nodup)
    (present : ∀ item ∈ items, item.2 ∈ (Dict.lookup entries item.1).getD [])
    (counted : entryCount entries = items.length) :
    (entryCount (trimLoop maxEntries items items.length entries) : ℤ) ≤ maxEntries := by
  have removed := entryCount_removeVictims (items.take (items.length - maxEntries.toNat)) entries
    (distinct.sublist (List.take_sublist _ _)) (fun item member => present item (List.mem_of_mem_take member))
  rw [trimLoop_eq maxEntries items entries distinct present]
  rw [List.length_take] at removed
  omega

theorem mem_trimItems {directory : KVCacheDirectory} {item : String × CacheEntry} :
    item ∈ directory.trimItems ↔ item.2 ∈ directory.bucket item.1 := by
  simp only [trimItems, List.mem_flatMap, List.mem_map, bucket, Dict.lookup]
  constructor
  · rintro ⟨slot, member, entry, inside, rfl⟩
    rw [KeyedList.get?_eq_some.mpr ⟨member, rfl⟩]
    exact inside
  · intro inside
    cases found : directory.entries.get? item.1 with
    | none =>
      rw [found] at inside
      cases inside
    | some slot =>
      rw [found] at inside
      obtain ⟨member, keyed⟩ := KeyedList.get?_eq_some.mp found
      exact ⟨slot, member, item.2, inside, Prod.ext keyed rfl⟩

theorem length_trimItems (directory : KVCacheDirectory) :
    directory.trimItems.length = directory.totalEntries := by
  rw [totalEntries_eq, entryCount_eq, trimItems, List.length_flatMap]
  simp only [List.length_map]

theorem nodup_trimItems {directory : KVCacheDirectory} (valid : BucketsValid directory.entries) :
    directory.trimItems.Nodup := by
  apply List.nodup_flatMap.mpr
  constructor
  · intro slot member
    apply List.Nodup.map
    · intro first second same
      exact (Prod.mk.inj same).2
    · exact (valid slot member).distinct.of_map
  · refine (List.pairwise_map.mp directory.entries.nodup).imp ?_
    intro first second differ item left right
    obtain ⟨_, _, rfl⟩ := List.mem_map.mp left
    obtain ⟨_, _, same⟩ := List.mem_map.mp right
    exact differ (Prod.mk.inj same).1.symm

structure Represented (directory : KVCacheDirectory) : Prop where
  buckets : ∀ slot ∈ directory.entries.toList, BucketValid slot.1 slot.2
  total : (directory.totalEntries : ℤ) ≤ directory.maxEntries

theorem represented_trim {directory trimmed : KVCacheDirectory} (nonneg : 0 ≤ directory.maxEntries)
    (valid : BucketsValid directory.entries) (returned : trim directory = .ok () trimmed) :
    Represented trimmed ∧ trimmed.maxEntries = directory.maxEntries ∧
      trimmed.redisStore = directory.redisStore := by
  unfold trim at returned
  split at returned
  · rename_i within
    cases returned
    exact ⟨⟨valid, within⟩, rfl, rfl⟩
  · split at returned
    · cases returned
      refine ⟨⟨valid.trimLoop _ _ _, ?_⟩, rfl, rfl⟩
      have sorted := List.perm_insertionSort (fun a b => trimRank a ≤ trimRank b) directory.trimItems
      rw [totalEntries_eq, ← length_trimItems, ← sorted.length_eq]
      apply entryCount_trimLoop nonneg
      · exact sorted.nodup_iff.mpr (nodup_trimItems valid)
      · exact fun item member => mem_trimItems.mp (sorted.mem_iff.mp member)
      · rw [sorted.length_eq, length_trimItems, totalEntries_eq]
    · cases returned

theorem Represented.evictStale {directory : KVCacheDirectory} (represented : Represented directory)
    (now : ℚ) : Represented (directory.evictStale now) where
  buckets := BucketsValid.evictStale represented.buckets now
  total := by
    have fewer := totalEntries_evictStale directory now
    have limit := represented.total
    change ((directory.evictStale now).totalEntries : ℤ) ≤ directory.maxEntries
    omega

theorem BucketsValid.recorded {directory : KVCacheDirectory} (valid : BucketsValid directory.entries)
    (result : RequestResult) : BucketsValid (directory.recorded result).entries :=
  valid.set (bucketValid_recorded result (valid.lookup _))

theorem observe_disabled {directory : KVCacheDirectory} (disabled : directory.redisStore.enabled = false)
    {result : RequestResult} (admitted : result.admitted = true) :
    observe result directory = trim (directory.recorded result) := by
  have off : (directory.recorded result).redisStore.enabled = false := disabled
  simp only [observe, admitted, if_true, persistToRedis, RedisStore.writeCacheAffinity, off,
    Bool.false_eq_true, if_false]

def perform : DirectoryCall → EStateM PyError KVCacheDirectory Unit
  | .observe result => observe result
  | .score request clusterId poolId now => do
    let _ ← score request clusterId poolId now
  | .reservedGb clusterId poolId now => modify (fun directory => (directory.reservedGb clusterId poolId now).1)
  | .snapshot now => modify (fun directory => (directory.snapshot now).1)
  | .evictStale now => modify (fun directory => directory.evictStale now)

theorem perform_disabled {call : DirectoryCall} {directory final : KVCacheDirectory}
    (disabled : directory.redisStore.enabled = false) (returned : perform call directory = .ok () final) :
    (∃ now, final = directory.evictStale now) ∨ final = directory ∨
      ∃ result, trim (directory.recorded result) = .ok () final := by
  cases call with
  | observe result =>
    cases admitted : result.admitted with
    | false =>
      rw [perform, observe_rejected _ _ admitted] at returned
      cases returned
      exact .inr (.inl rfl)
    | true =>
      rw [perform, observe_disabled disabled admitted] at returned
      exact .inr (.inr ⟨result, returned⟩)
  | score request clusterId poolId now =>
    obtain ⟨cache, scored, returnedScore, finished⟩ := bind_eq_ok.mp returned
    obtain ⟨_, rfl⟩ := pure_eq_ok.mp finished
    exact .inl ⟨now, score_disabled disabled returnedScore⟩
  | reservedGb clusterId poolId now => cases returned; exact .inl ⟨now, rfl⟩
  | snapshot now => cases returned; exact .inl ⟨now, rfl⟩
  | evictStale now => cases returned; exact .inl ⟨now, rfl⟩

theorem represented_perform {call : DirectoryCall} {directory final : KVCacheDirectory}
    (disabled : directory.redisStore.enabled = false) (nonneg : 0 ≤ directory.maxEntries)
    (represented : Represented directory) (returned : perform call directory = .ok () final) :
    Represented final ∧ final.maxEntries = directory.maxEntries ∧
      final.redisStore = directory.redisStore := by
  rcases perform_disabled disabled returned with ⟨now, rfl⟩ | rfl | ⟨result, trimmed⟩
  · exact ⟨represented.evictStale now, rfl, rfl⟩
  · exact ⟨represented, rfl, rfl⟩
  · have limit : 0 ≤ (directory.recorded result).maxEntries := nonneg
    have kept := represented_trim limit (BucketsValid.recorded represented.buckets result) trimmed
    exact kept

/-- After any calls that all return, every bucket of a directory without Redis is non-empty, has at
    most four entries at distinct locations, each under the bucket's key and available since it was
    last touched, and the directory is within its limit. -/
theorem calls_keep_representation (ttlS : ℚ) (maxEntries : ℤ) (redisStore : RedisStore)
    (nonneg : 0 ≤ maxEntries) (disabled : redisStore.enabled = false) (calls : List DirectoryCall)
    (outputs : List Unit) (final : KVCacheDirectory)
    (returned : (calls.mapM perform) (create ttlS maxEntries redisStore) = .ok outputs final) :
    Represented final := by
  have initial : Represented (create ttlS maxEntries redisStore) := by
    refine ⟨?_, nonneg⟩
    intro slot member
    cases member
  have kept := mapM_invariant
    (fun directory => Represented directory ∧ directory.maxEntries = maxEntries ∧
      directory.redisStore = redisStore)
    (by
      rintro call directory ⟨⟩ after ⟨represented, limit, store⟩ stepped
      have step := represented_perform (by rw [store]; exact disabled) (by rw [limit]; exact nonneg)
        represented stepped
      exact ⟨step.1, step.2.1.trans limit, step.2.2.trans store⟩)
    ⟨initial, rfl, rfl⟩ returned
  exact kept.1

theorem calls_keep_representation_trimmed :
    let calls : List DirectoryCall := [.observe (sessionResult (sessionRequest 1000) "c1" "p1" 5),
      .observe (sessionResult (sessionRequest 1000) "c1" "p2" 9), .snapshot 12,
      .score (sessionRequest 1000) "c1" "p2" 10, .evictStale 7]
    ∃ final, (calls.mapM perform) (create 180 1 (emptyStore false)) = .ok [(), (), (), (), ()] final ∧
      Represented final := by
  intro calls
  have returns : valueOf ((calls.mapM perform) (create 180 1 (emptyStore false))) =
      some [(), (), (), (), ()] := by decide +kernel
  obtain ⟨final, returned⟩ := valueOf_eq_some.mp returns
  exact ⟨final, returned, calls_keep_representation 180 1 (emptyStore false) (by decide) rfl calls
    _ final returned⟩

end KVCacheDirectory

end NimbusMesh
