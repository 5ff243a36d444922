import NimbusMesh.Cache.Representation
import NimbusMesh.Foundation.Ranking

namespace NimbusMesh.KVCacheDirectory

open Foundation Foundation.Execution

theorem capBucket_split (entries : List CacheEntry) :
    ∃ dropped, (capBucket entries ++ dropped).Perm entries ∧ (capBucket entries).length = min 4 entries.length ∧
      ∀ entry ∈ dropped, ∀ kept ∈ capBucket entries, bucketRank entry ≤ bucketRank kept := by
  unfold capBucket
  split
  · rename_i long
    let descending := entries.insertionSort (fun a b => bucketRank b ≤ bucketRank a)
    have perm : descending.Perm entries := List.perm_insertionSort _ entries
    have sorted : descending.Pairwise (fun a b => bucketRank b ≤ bucketRank a) :=
      Ranking.sorted_by_rank (fun entry => OrderDual.toDual (bucketRank entry)) entries
    refine ⟨descending.drop 4, ?_, ?_, ?_⟩
    · rw [List.take_append_drop]
      exact perm
    · rw [List.length_take, perm.length_eq]
    · intro entry late kept early
      exact sorted.rel_of_mem_take_of_mem_drop early late
  · exact ⟨[], by simp, by omega, by simp⟩

theorem lookup_removeVictims (victims : List (String × CacheEntry)) (entries : Dict String (List CacheEntry))
    (key : String) (distinct : ((Dict.lookup entries key).getD []).Nodup) :
    (Dict.lookup (victims.foldl removeVictim entries) key).getD [] =
      ((Dict.lookup entries key).getD []).filter (fun entry => (key, entry) ∉ victims) := by
  induction victims generalizing entries with
  | nil => simp
  | cons item rest ih =>
    have step := lookup_removeVictim entries item key
    have fewer : ((Dict.lookup (removeVictim entries item) key).getD []).Nodup := by
      rw [step]
      split
      · exact distinct.erase _
      · exact distinct
    rw [List.foldl_cons, ih _ fewer, step]
    split
    · rename_i same
      rw [distinct.erase_eq_filter, List.filter_filter]
      apply List.filter_congr
      intro entry _
      have named : (key, entry) = item ↔ entry = item.2 := by
        rw [← same]
        exact ⟨fun eq => congrArg Prod.snd eq, fun eq => Prod.ext rfl eq⟩
      rw [Bool.eq_iff_iff]
      simp only [Bool.and_eq_true, decide_eq_true_eq, bne_iff_ne, List.mem_cons, named, not_or]
      exact and_comm
    · rename_i other
      apply List.filter_congr
      intro entry _
      have differ : (key, entry) ≠ item := fun same => other (congrArg Prod.fst same).symm
      simp [differ]

theorem trim_ok {directory trimmed : KVCacheDirectory} (valid : BucketsValid directory.entries)
    (returned : trim directory = .ok () trimmed) :
    ∃ victims rest : List (String × CacheEntry), (victims ++ rest).Perm directory.trimItems ∧
      victims.length = directory.totalEntries - directory.maxEntries.toNat ∧
      (∀ victim ∈ victims, ∀ item ∈ rest, trimRank victim ≤ trimRank item) ∧
      trimmed = { directory with entries := victims.foldl removeVictim directory.entries } := by
  unfold trim at returned
  split at returned
  · rename_i within
    cases returned
    exact ⟨[], directory.trimItems, List.Perm.refl _, by rw [List.length_nil]; omega, by simp, rfl⟩
  · split at returned
    · cases returned
      let items := directory.trimItems.insertionSort (fun a b => trimRank a ≤ trimRank b)
      let excess := directory.totalEntries - directory.maxEntries.toNat
      have perm : items.Perm directory.trimItems := List.perm_insertionSort _ _
      have count : items.length = directory.totalEntries := perm.length_eq.trans directory.length_trimItems
      have looped := trimLoop_eq directory.maxEntries items directory.entries
        (perm.nodup_iff.mpr (nodup_trimItems valid))
        (fun item member => mem_trimItems.mp (perm.mem_iff.mp member))
      rw [count] at looped
      refine ⟨items.take excess, items.drop excess, ?_, ?_, ?_, ?_⟩
      · rw [List.take_append_drop]
        exact perm
      · rw [List.length_take, count]
        omega
      · intro victim early item late
        exact (Ranking.sorted_by_rank trimRank directory.trimItems).rel_of_mem_take_of_mem_drop early late
      · exact congrArg (fun entries => { directory with entries }) looped
    · cases returned

theorem BucketsValid.nodup_lookup {entries : Dict String (List CacheEntry)} (valid : BucketsValid entries)
    (key : String) : ((Dict.lookup entries key).getD []).Nodup := by
  rcases valid.lookup key with empty | bucket
  · rw [empty]
    exact List.nodup_nil
  · exact bucket.distinct.of_map

theorem trim_evicts_lowest {directory final : KVCacheDirectory} (valid : BucketsValid directory.entries)
    (returned : trim directory = .ok () final) :
    ∃ removed : List (String × CacheEntry),
      removed.Nodup ∧ (∀ item ∈ removed, item.2 ∈ directory.bucket item.1) ∧
      removed.length = directory.totalEntries - directory.maxEntries.toNat ∧
      final.totalEntries + removed.length = directory.totalEntries ∧
      (∀ item ∈ removed, ∀ other, ∀ kept ∈ final.bucket other, trimRank item ≤ trimRank (other, kept)) ∧
      ∀ other, final.bucket other = (directory.bucket other).filter (fun entry => (other, entry) ∉ removed) := by
  obtain ⟨victims, rest, perm, count, lowest, trimmed⟩ := trim_ok valid returned
  have distinct : (victims ++ rest).Nodup := perm.nodup_iff.mpr (nodup_trimItems valid)
  have present : ∀ item ∈ victims, item.2 ∈ directory.bucket item.1 :=
    fun item member => mem_trimItems.mp (perm.mem_iff.mp (List.mem_append_left rest member))
  have buckets : ∀ other, final.bucket other =
      (directory.bucket other).filter (fun entry => (other, entry) ∉ victims) := by
    intro other
    rw [trimmed]
    exact lookup_removeVictims victims _ other (valid.nodup_lookup other)
  refine ⟨victims, distinct.of_append_left, present, count, ?_, ?_, buckets⟩
  · rw [trimmed]
    exact entryCount_removeVictims victims _ distinct.of_append_left present
  · intro item removed other kept inside
    rw [buckets other] at inside
    obtain ⟨held, spared⟩ := List.mem_filter.mp inside
    have listed : (other, kept) ∈ victims ++ rest := perm.mem_iff.mpr (mem_trimItems.mpr held)
    have later : (other, kept) ∈ rest := (List.mem_append.mp listed).resolve_left (of_decide_eq_true spared)
    exact lowest item removed (other, kept) later

section Reachable

theorem BucketsValid.stateAfter_trim {directory : KVCacheDirectory} (valid : BucketsValid directory.entries) :
    BucketsValid (stateAfter trim directory).entries := by
  rcases trim_cases directory with same | ⟨items, total, trimmed⟩
  · rw [same]
    exact valid
  · rw [trimmed]
    exact valid.trimLoop _ items total

theorem BucketsValid.after {directory : KVCacheDirectory} (disabled : directory.redisStore.enabled = false)
    (valid : BucketsValid directory.entries) (call : DirectoryCall) :
    BucketsValid (directory.after call).entries := by
  cases call with
  | observe result =>
    cases admitted : result.admitted with
    | false =>
      simp only [KVCacheDirectory.after, stateAfter, observe_rejected _ _ admitted]
      exact valid
    | true =>
      have trimmed := (valid.recorded result).stateAfter_trim
      simp only [KVCacheDirectory.after, stateAfter, observe_disabled disabled admitted] at trimmed ⊢
      exact trimmed
  | score request clusterId poolId now =>
    simp only [KVCacheDirectory.after, score_state, stateAfter_ok (prepareScore_disabled _ _ _ disabled)]
    exact valid.evictStale now
  | reservedGb clusterId poolId now => exact valid.evictStale now
  | snapshot now => exact valid.evictStale now
  | evictStale now => exact valid.evictStale now

theorem bucketsValid_afterAll {ttlS : ℚ} {maxEntries : ℤ} {redisStore : RedisStore}
    (disabled : redisStore.enabled = false) (calls : List DirectoryCall) :
    BucketsValid ((create ttlS maxEntries redisStore).afterAll calls).entries := by
  suffices both : ((create ttlS maxEntries redisStore).afterAll calls).redisStore.enabled = false ∧
      BucketsValid ((create ttlS maxEntries redisStore).afterAll calls).entries from both.2
  refine List.foldlRecOn (motive := fun reached : KVCacheDirectory =>
    reached.redisStore.enabled = false ∧ BucketsValid reached.entries) calls KVCacheDirectory.after ⟨disabled, ?_⟩ ?_
  · intro slot member
    cases member
  · rintro directory ⟨off, valid⟩ call _
    exact ⟨(after_settings directory call).2.2.trans off, valid.after off call⟩

end Reachable

/-- What an observed result does to a directory without Redis, in its two stages: the bucket of the
    result is capped to its highest entries, and then the lowest entries over the limit are removed. -/
theorem observe_evicts_lowest (ttlS : ℚ) (maxEntries : ℤ) (redisStore : RedisStore)
    (disabled : redisStore.enabled = false) (calls : List DirectoryCall) (result : RequestResult)
    (admitted : result.admitted = true) (final : KVCacheDirectory)
    (returned : observe result ((create ttlS maxEntries redisStore).afterAll calls) = .ok () final) :
    let before := (create ttlS maxEntries redisStore).afterAll calls
    let key := cacheKey result.request
    let merged := mergeResult key result (before.bucket key)
    ∃ capped dropped, (capped ++ dropped).Perm merged ∧ capped.length = min 4 merged.length ∧
      (∀ entry ∈ dropped, ∀ kept ∈ capped, bucketRank entry ≤ bucketRank kept) ∧
      (∀ other, (before.recorded result).bucket other = if key = other then capped else before.bucket other) ∧
      ∃ removed : List (String × CacheEntry),
        removed.Nodup ∧ (∀ item ∈ removed, item.2 ∈ (before.recorded result).bucket item.1) ∧
        removed.length = (before.recorded result).totalEntries - maxEntries.toNat ∧
        final.totalEntries + removed.length = (before.recorded result).totalEntries ∧
        (∀ item ∈ removed, ∀ other, ∀ kept ∈ final.bucket other, trimRank item ≤ trimRank (other, kept)) ∧
        ∀ other, final.bucket other =
          ((before.recorded result).bucket other).filter (fun entry => (other, entry) ∉ removed) := by
  intro before key merged
  have off : before.redisStore.enabled = false :=
    (afterAll_settings (create ttlS maxEntries redisStore) calls).2.2.trans disabled
  have limit : before.maxEntries = maxEntries := (afterAll_settings (create ttlS maxEntries redisStore) calls).2.1
  have valid : BucketsValid (before.recorded result).entries := (bucketsValid_afterAll disabled calls).recorded result
  rw [observe_disabled off admitted] at returned
  obtain ⟨dropped, split, short, ranked⟩ := capBucket_split merged
  refine ⟨capBucket merged, dropped, split, short, ranked, ?_, ?_⟩
  · intro other
    rw [bucket_recorded]
    by_cases same : cacheKey result.request = other
    · subst same
      rfl
    · rw [if_neg same, if_neg same]
  have evicted := trim_evicts_lowest valid returned
  rw [show (before.recorded result).maxEntries = maxEntries from limit] at evicted
  exact evicted

theorem observe_evicts_lowest_third :
    let calls : List DirectoryCall := [.observe (sessionResult (sessionRequest 1000) "c1" "p1" 5),
      .observe (sessionResult (sessionRequest 1000) "c1" "p2" 9)]
    ∃ final, observe (sessionResult (sessionRequest 1000) "c1" "p3" 7)
        ((create 180 2 (emptyStore false)).afterAll calls) = .ok () final ∧ final.totalEntries = 2 := by
  intro calls
  let result := sessionResult (sessionRequest 1000) "c1" "p3" 7
  have returns : valueOf (observe result ((create 180 2 (emptyStore false)).afterAll calls)) = some () := by
    decide +kernel
  have total : (((create 180 2 (emptyStore false)).afterAll calls).recorded result).totalEntries = 3 := by
    decide +kernel
  obtain ⟨final, returned⟩ := valueOf_eq_some.mp returns
  obtain ⟨_, _, _, _, _, _, removed, _, _, excess, count, _⟩ :=
    observe_evicts_lowest 180 2 (emptyStore false) rfl calls result rfl final returned
  refine ⟨final, returned, ?_⟩
  rw [total] at excess count
  have two : (2 : ℤ).toNat = 2 := rfl
  omega

end NimbusMesh.KVCacheDirectory
