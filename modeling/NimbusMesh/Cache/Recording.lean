import NimbusMesh.Cache.Eviction

namespace NimbusMesh.KVCacheDirectory

open Foundation Foundation.Execution

def newRank (entries : List CacheEntry) (result : RequestResult) : ℤ ×ₗ ℚ :=
  let known := entries.find? (fun entry => entry.At result.decision.clusterId result.decision.poolId)
  toLex ((known.map CacheEntry.hitCount).getD 0 + if 0 < result.cacheHitRatio then 1 else 0, result.completionTs)

def meetingRanks (entries : List CacheEntry) (result : RequestResult) : List (ℤ ×ₗ ℚ) :=
  newRank entries result ::
    (entries.filter (fun entry => ¬ entry.At result.decision.clusterId result.decision.poolId)).map bucketRank

/-- Two of the ranks are equal, and among more than four of them a third one is not above these. -/
def TiesIn (ranks : List (ℤ ×ₗ ℚ)) : Prop :=
  ∃ rank ∈ ranks, 2 ≤ ranks.count rank ∧ (ranks.length ≤ 4 ∨ 3 ≤ ranks.countP (· ≤ rank))

instance (ranks : List (ℤ ×ₗ ℚ)) : Decidable (TiesIn ranks) :=
  inferInstanceAs (Decidable (∃ rank ∈ ranks, _))

theorem TiesIn.perm {ranks others : List (ℤ ×ₗ ℚ)} (perm : ranks.Perm others) (ties : TiesIn ranks) :
    TiesIn others := by
  obtain ⟨rank, member, twice, third⟩ := ties
  rw [perm.count_eq, perm.length_eq, perm.countP_eq] at *
  exact ⟨rank, perm.mem_iff.mp member, twice, third⟩

section Merging

variable {key : String} {result : RequestResult} {entries : List CacheEntry}

theorem ranks_mergeResult (distinct : (entries.map CacheEntry.location).Nodup) :
    ((mergeResult key result entries).map bucketRank).Perm (meetingRanks entries result) := by
  induction entries with
  | nil => simp [mergeResult, meetingRanks, newRank, bucketRank, created]
  | cons entry rest ih =>
    simp only [List.map_cons, List.nodup_cons] at distinct
    by_cases here : entry.At result.decision.clusterId result.decision.poolId
    · have others : rest.filter
          (fun other => ¬ other.At result.decision.clusterId result.decision.poolId) = rest := by
        apply List.filter_eq_self.mpr
        intro other member
        apply decide_eq_true
        intro same
        apply distinct.1
        rw [location_eq_iff.mpr here, ← location_eq_iff.mpr same]
        exact List.mem_map_of_mem member
      simp only [decide_not] at others
      simp [mergeResult, meetingRanks, newRank, here, others, bucketRank, touched]
    · have tail := (ih distinct.2).cons (bucketRank entry)
      simp only [mergeResult, here, if_false, List.map_cons]
      apply tail.trans
      simp only [meetingRanks, newRank, here, decide_false, Bool.false_eq_true, not_false_eq_true,
        List.find?_cons_of_neg, decide_not, Bool.not_false, List.filter_cons_of_pos, List.map_cons]
      exact List.Perm.swap _ _ _

theorem length_mergeResult (key : String) (result : RequestResult) (entries : List CacheEntry) :
    (mergeResult key result entries).length =
      if result.location ∈ entries.map CacheEntry.location then entries.length else entries.length + 1 := by
  have locations := congrArg List.length (locations_mergeResult key result entries)
  rw [List.length_map] at locations
  rw [locations]
  split
  · exact List.length_map _
  · simp

theorem mergeResult_unknown (unknown : result.location ∉ entries.map CacheEntry.location) :
    mergeResult key result entries = entries ++ [created key result] := by
  induction entries with
  | nil => rfl
  | cons entry rest ih =>
    simp only [List.map_cons, List.mem_cons, not_or] at unknown
    have elsewhere : ¬ entry.At result.decision.clusterId result.decision.poolId :=
      fun here => unknown.1 (location_eq_iff.mpr here).symm
    simp only [mergeResult, elsewhere, if_false, ih unknown.2, List.cons_append]

theorem mergeResult_known (known : result.location ∈ entries.map CacheEntry.location) :
    ∃ old ∈ entries, touched old result ∈ mergeResult key result entries ∧
      old.At result.decision.clusterId result.decision.poolId := by
  induction entries with
  | nil => cases known
  | cons entry rest ih =>
    by_cases here : entry.At result.decision.clusterId result.decision.poolId
    · exact ⟨entry, by simp, by simp [mergeResult, here], here⟩
    · simp only [List.map_cons, List.mem_cons] at known
      have later : result.location ∈ rest.map CacheEntry.location :=
        known.resolve_left (fun same => here (location_eq_iff.mp same.symm))
      obtain ⟨old, member, merged, located⟩ := ih later
      exact ⟨old, by simp [member], by simp [mergeResult, here, merged], located⟩

end Merging

section Capping

variable {entries : List CacheEntry}

theorem capBucket_short (short : entries.length ≤ 4) : capBucket entries = entries := by
  rw [capBucket, if_neg (by omega)]

theorem capBucket_five (five : entries.length = 5) :
    ∃ dropped, (capBucket entries ++ [dropped]).Perm entries ∧
      ∀ kept ∈ capBucket entries, bucketRank dropped ≤ bucketRank kept := by
  obtain ⟨dropped, perm, count, lowest⟩ := capBucket_split entries
  have lengths := perm.length_eq
  rw [List.length_append, count, five] at lengths
  obtain ⟨last, rfl⟩ := List.length_eq_one_iff.mp (show dropped.length = 1 by omega)
  exact ⟨last, perm, lowest last (by simp)⟩

theorem tiesIn_short {ranks : List (ℤ ×ₗ ℚ)} (short : ranks.length ≤ 4) : TiesIn ranks ↔ ¬ ranks.Nodup := by
  rw [List.nodup_iff_count_le_one]
  push Not
  constructor
  · rintro ⟨rank, _, twice, _⟩
    exact ⟨rank, twice⟩
  · rintro ⟨rank, twice⟩
    exact ⟨rank, List.count_pos_iff.mp (by omega), twice, .inl short⟩

theorem tiesIn_snoc {capped : List (ℤ ×ₗ ℚ)} {last : ℤ ×ₗ ℚ} (low : ∀ rank ∈ capped, last ≤ rank)
    (long : ¬ (capped ++ [last]).length ≤ 4) : TiesIn (capped ++ [last]) ↔ ¬ capped.Nodup := by
  rw [List.nodup_iff_count_le_one]
  push Not
  constructor
  · rintro ⟨rank, _, twice, third⟩
    rw [List.count_append, List.count_singleton] at twice
    by_cases same : last = rank
    · subst same
      -- All others rank above the dropped one, so nothing else is at or below it.
      have below : capped.countP (· ≤ last) = capped.count last := by
        apply List.countP_congr
        intro other member
        simp only [decide_eq_true_eq, beq_iff_eq]
        exact ⟨fun le => le_antisymm le (low other member), fun same => same.le⟩
      have more := third.resolve_left long
      rw [List.countP_append, List.countP_singleton, if_pos (by simp), below] at more
      exact ⟨last, by omega⟩
    · rw [if_neg (by simpa using same)] at twice
      exact ⟨rank, by omega⟩
  · rintro ⟨rank, twice⟩
    have member : rank ∈ capped := List.count_pos_iff.mp (by omega)
    have equal : capped.count rank ≤ capped.countP (· ≤ rank) :=
      List.countP_mono_left (fun other _ same => by simp [beq_iff_eq.mp same])
    refine ⟨rank, by simp [member], ?_, .inr ?_⟩
    · rw [List.count_append]
      omega
    · rw [List.countP_append, List.countP_singleton, if_pos (by simpa using low rank member)]
      omega

theorem nodup_ranks_capBucket (few : entries.length ≤ 5) :
    ((capBucket entries).map bucketRank).Nodup ↔ ¬ TiesIn (entries.map bucketRank) := by
  by_cases short : entries.length ≤ 4
  · rw [capBucket_short short, tiesIn_short (by simpa using short), not_not]
  · obtain ⟨dropped, perm, lowest⟩ := capBucket_five (show entries.length = 5 by omega)
    have ranks := perm.map bucketRank
    rw [List.map_append, List.map_singleton] at ranks
    have low : ∀ rank ∈ (capBucket entries).map bucketRank, bucketRank dropped ≤ rank := by
      intro rank member
      obtain ⟨kept, inside, rfl⟩ := List.mem_map.mp member
      exact lowest kept inside
    have long : ¬ ((capBucket entries).map bucketRank ++ [bucketRank dropped]).length ≤ 4 := by
      rw [ranks.length_eq, List.length_map]
      exact short
    have ties : TiesIn (entries.map bucketRank) ↔
        TiesIn ((capBucket entries).map bucketRank ++ [bucketRank dropped]) :=
      ⟨fun ties => ties.perm ranks.symm, fun ties => ties.perm ranks⟩
    rw [ties, tiesIn_snoc low long, not_not]

end Capping

section Sorting

variable {directory : KVCacheDirectory}

theorem bucket_of_mem {slot : String × List CacheEntry} (member : slot ∈ directory.entries.toList) :
    directory.bucket slot.1 = slot.2 := by
  have found : directory.entries.get? slot.1 = some slot := KeyedList.get?_eq_some.mpr ⟨member, rfl⟩
  simp [bucket, Dict.lookup, found]

theorem mem_or_bucket_eq_nil (directory : KVCacheDirectory) (key : String) :
    directory.bucket key = [] ∨ (key, directory.bucket key) ∈ directory.entries.toList := by
  cases found : directory.entries.get? key with
  | none => exact .inl (by simp [bucket, Dict.lookup, found])
  | some slot =>
    obtain ⟨member, rfl⟩ := KeyedList.get?_eq_some.mp found
    rw [bucket_of_mem member]
    exact .inr member

theorem trimRank_eq_iff (key : String) (first second : CacheEntry) :
    trimRank (key, first) = trimRank (key, second) ↔ bucketRank first = bucketRank second := by
  simp [trimRank, bucketRank]

/-- The items can be sorted exactly when no two entries of one bucket have the same rank: items of different
    buckets are told apart by their keys. -/
theorem comparable_iff (valid : BucketsValid directory.entries) :
    Comparable directory.trimItems ↔ ∀ key, ((directory.bucket key).map bucketRank).Nodup := by
  have within : ∀ slot ∈ directory.entries.toList,
      ((slot.2.map (fun entry => (slot.1, entry))).Pairwise
        (fun a b => trimRank a = trimRank b → a.2 = b.2) ↔ (slot.2.map bucketRank).Nodup) := by
    intro slot member
    have distinct : slot.2.Pairwise (· ≠ ·) := (valid slot member).distinct.of_map
    rw [List.pairwise_map, List.Nodup, List.pairwise_map]
    simp only [trimRank_eq_iff]
    constructor
    · intro same
      exact same.imp₂ (fun first second equal differ ranks => differ (equal ranks)) distinct
    · intro differ
      exact differ.imp (fun apart ranks => absurd ranks apart)
  have across : directory.entries.toList.Pairwise (fun first second =>
      ∀ x ∈ first.2.map (fun entry => (first.1, entry)), ∀ y ∈ second.2.map (fun entry => (second.1, entry)),
        trimRank x = trimRank y → x.2 = y.2) := by
    apply (List.pairwise_map.mp directory.entries.nodup).imp
    intro first second differ x left y right ranks
    obtain ⟨_, _, rfl⟩ := List.mem_map.mp left
    obtain ⟨_, _, rfl⟩ := List.mem_map.mp right
    simp only [trimRank, EmbeddingLike.apply_eq_iff_eq, Prod.mk.injEq] at ranks
    exact absurd ranks.2.2 differ
  unfold Comparable trimItems
  rw [List.pairwise_flatMap]
  constructor
  · intro sorted key
    rcases mem_or_bucket_eq_nil directory key with empty | member
    · simp [empty]
    · exact (within _ member).mp (sorted.1 _ member)
  · intro ranks
    apply And.intro ?_ across
    intro slot member
    apply (within slot member).mpr
    rw [← bucket_of_mem member]
    exact ranks slot.1

theorem trim_returns_iff (valid : BucketsValid directory.entries) :
    (∃ final, trim directory = .ok () final) ↔ (directory.totalEntries : ℤ) ≤ directory.maxEntries ∨
      ∀ key, ((directory.bucket key).map bucketRank).Nodup := by
  rw [← comparable_iff valid]
  unfold trim
  by_cases within : (directory.totalEntries : ℤ) ≤ directory.maxEntries
  · simp [within]
  · by_cases sortable : Comparable directory.trimItems
    · simp [within, sortable]
    · simp [within, sortable]

end Sorting

def growth (directory : KVCacheDirectory) (result : RequestResult) : ℕ :=
  let entries := directory.bucket (cacheKey result.request)
  if result.location ∈ entries.map CacheEntry.location ∨ 4 ≤ entries.length then 0 else 1

theorem bucket_atMostFour {directory : KVCacheDirectory} (valid : BucketsValid directory.entries) (key : String) :
    (directory.bucket key).length ≤ 4 := by
  rcases valid.lookup key with empty | bucket
  · rw [KVCacheDirectory.bucket, empty]
    exact Nat.zero_le 4
  · exact bucket.atMostFour

theorem bucket_distinct {directory : KVCacheDirectory} (valid : BucketsValid directory.entries) (key : String) :
    ((directory.bucket key).map CacheEntry.location).Nodup := by
  rcases valid.lookup key with empty | bucket
  · rw [KVCacheDirectory.bucket, empty]
    exact List.nodup_nil
  · exact bucket.distinct

theorem totalEntries_recorded {directory : KVCacheDirectory} (valid : BucketsValid directory.entries)
    (result : RequestResult) :
    (directory.recorded result).totalEntries = directory.totalEntries + directory.growth result := by
  have few := bucket_atMostFour valid (cacheKey result.request)
  have capped : ∀ entries, (capBucket entries).length = min 4 entries.length := by
    intro entries
    obtain ⟨_, _, count, _⟩ := capBucket_split entries
    exact count
  have sum := KeyedList.sum_insert (fun slot : String × List CacheEntry => slot.2.length) directory.entries
    (cacheKey result.request, capBucket (mergeResult (cacheKey result.request) result
      (directory.bucket (cacheKey result.request))))
  rw [length_lookup] at sum
  dsimp only at sum
  rw [capped, length_mergeResult] at sum
  rw [totalEntries_eq, totalEntries_eq, entryCount_eq, entryCount_eq]
  unfold growth
  change _ + (directory.bucket (cacheKey result.request)).length = _ at sum
  change (List.map _ (KeyedList.insert directory.entries _).toList).sum = _
  dsimp only
  by_cases known : result.location ∈ (directory.bucket (cacheKey result.request)).map CacheEntry.location
  · simp only [known, if_true, true_or] at sum ⊢
    omega
  · simp only [known, if_false, false_or] at sum ⊢
    split <;> omega

/-- No two entries of one bucket have the same hit count and time, and none will once the result is in. -/
def Untied (directory : KVCacheDirectory) (result : RequestResult) : Prop :=
  (∀ key, key ≠ cacheKey result.request → ((directory.bucket key).map bucketRank).Nodup) ∧
    ¬ TiesIn (meetingRanks (directory.bucket (cacheKey result.request)) result)

theorem ranks_recorded_iff {directory : KVCacheDirectory} (valid : BucketsValid directory.entries)
    (result : RequestResult) :
    (∀ key, (((directory.recorded result).bucket key).map bucketRank).Nodup) ↔ directory.Untied result := by
  have few := bucket_atMostFour valid (cacheKey result.request)
  have distinct := bucket_distinct valid (cacheKey result.request)
  have merged : (mergeResult (cacheKey result.request) result
      (directory.bucket (cacheKey result.request))).length ≤ 5 := by
    rw [length_mergeResult]
    split <;> omega
  have ranks := @ranks_mergeResult (cacheKey result.request) result _ distinct
  have own : (((directory.recorded result).bucket (cacheKey result.request)).map bucketRank).Nodup ↔
      ¬ TiesIn (meetingRanks (directory.bucket (cacheKey result.request)) result) := by
    rw [bucket_recorded, if_pos rfl, nodup_ranks_capBucket merged]
    exact not_congr ⟨fun ties => ties.perm ranks, fun ties => ties.perm ranks.symm⟩
  constructor
  · intro all
    apply And.intro ?_ (own.mp (all _))
    intro key other
    have ranked := all key
    rwa [bucket_recorded, if_neg (Ne.symm other)] at ranked
  · intro untied key
    by_cases same : key = cacheKey result.request
    · rw [same]
      exact own.mpr untied.2
    · rw [bucket_recorded, if_neg (Ne.symm same)]
      exact untied.1 key same

/-- Observing an admitted result without Redis returns exactly when the directory stays within its limit or
    the entries of each bucket, with the result in it, can be told apart by hit count and time. -/
theorem observe_returns_iff (ttlS : ℚ) (maxEntries : ℤ) (redisStore : RedisStore)
    (disabled : redisStore.enabled = false) (calls : List DirectoryCall) (result : RequestResult)
    (admitted : result.admitted = true) :
    let before := (create ttlS maxEntries redisStore).afterAll calls
    (∃ final, observe result before = .ok () final) ↔
      ((before.totalEntries + before.growth result : ℕ) : ℤ) ≤ maxEntries ∨ before.Untied result := by
  intro before
  have settings := afterAll_settings (create ttlS maxEntries redisStore) calls
  have off : before.redisStore.enabled = false := settings.2.2.trans disabled
  have limit : (before.recorded result).maxEntries = maxEntries := settings.2.1
  have valid : BucketsValid before.entries := bucketsValid_afterAll disabled calls
  rw [observe_disabled off admitted, trim_returns_iff (valid.recorded result), ranks_recorded_iff valid,
    totalEntries_recorded valid, limit]

/-- Two pools finish a turn of one session at the same time, and the directory has room for one entry. -/
theorem observe_raises_on_tie :
    ¬ ∀ (ttlS : ℚ) (maxEntries : ℤ) (redisStore : RedisStore) (calls : List DirectoryCall) (result : RequestResult),
      0 ≤ maxEntries → redisStore.enabled = false → result.admitted = true →
      ∃ final, observe result ((create ttlS maxEntries redisStore).afterAll calls) = .ok () final := by
  intro returns
  obtain ⟨final, returned⟩ := returns 180 1 (emptyStore false)
    [.observe (sessionResult (sessionRequest 1000) "c1" "p1" 5)]
    (sessionResult (sessionRequest 1000) "c1" "p2" 5) (by decide) rfl rfl
  have raises : valueOf (observe (sessionResult (sessionRequest 1000) "c1" "p2" 5)
      ((create 180 1 (emptyStore false)).afterAll [.observe (sessionResult (sessionRequest 1000) "c1" "p1" 5)])) =
        none := by
    decide +kernel
  rw [returned] at raises
  cases raises

theorem observe_returns_iff_later :
    let before := (create 180 1 (emptyStore false)).afterAll
      [.observe (sessionResult (sessionRequest 1000) "c1" "p1" 5)]
    (∃ final, observe (sessionResult (sessionRequest 1000) "c1" "p2" 6) before = .ok () final) ∧
      before.Untied (sessionResult (sessionRequest 1000) "c1" "p2" 6) := by
  intro before
  have returns : valueOf (observe (sessionResult (sessionRequest 1000) "c1" "p2" 6) before) = some () := by
    decide +kernel
  obtain ⟨final, returned⟩ := valueOf_eq_some.mp returns
  have condition := (observe_returns_iff 180 1 (emptyStore false) rfl
    [.observe (sessionResult (sessionRequest 1000) "c1" "p1" 5)]
    (sessionResult (sessionRequest 1000) "c1" "p2" 6) rfl).mp ⟨final, returned⟩
  have full : ¬ ((before.totalEntries + before.growth (sessionResult (sessionRequest 1000) "c1" "p2" 6) : ℕ) : ℤ) ≤
      1 := by
    decide +kernel
  exact ⟨⟨final, returned⟩, condition.resolve_left full⟩

section Keeping

theorem insertionSort_lowest {entries : List CacheEntry} {last : CacheEntry}
    (lowest : ∀ entry ∈ entries, bucketRank last ≤ bucketRank entry) :
    (entries ++ [last]).insertionSort (fun a b => bucketRank b ≤ bucketRank a) =
      entries.insertionSort (fun a b => bucketRank b ≤ bucketRank a) ++ [last] := by
  have inserted : ∀ (sorted : List CacheEntry) (entry : CacheEntry), bucketRank last ≤ bucketRank entry →
      (sorted ++ [last]).orderedInsert (fun a b => bucketRank b ≤ bucketRank a) entry =
        sorted.orderedInsert (fun a b => bucketRank b ≤ bucketRank a) entry ++ [last] := by
    intro sorted entry above
    induction sorted with
    | nil => simp [above]
    | cons head rest ih =>
      by_cases front : bucketRank head ≤ bucketRank entry
      · simp [front]
      · simp [front, ih]
  induction entries with
  | nil => rfl
  | cons entry rest ih =>
    have later := ih (fun other member => lowest other (by simp [member]))
    rw [List.cons_append, List.insertionSort_cons, later, inserted _ entry (lowest entry (by simp)),
      List.insertionSort_cons]

def byPopularity (entries : List CacheEntry) : List CacheEntry :=
  entries.insertionSort (fun a b => bucketRank b ≤ bucketRank a)

theorem capBucket_lowest {entries : List CacheEntry} {last : CacheEntry} (full : entries.length = 4)
    (lowest : ∀ entry ∈ entries, bucketRank last ≤ bucketRank entry) :
    capBucket (entries ++ [last]) = byPopularity entries := by
  have five : (entries ++ [last]).length = 5 := by
    rw [List.length_append, full]
    rfl
  rw [capBucket, if_pos (by omega), insertionSort_lowest lowest]
  exact List.take_left' (by rw [List.length_insertionSort, full])

theorem mem_capBucket_last {entries : List CacheEntry} {last : CacheEntry} (full : entries.length = 4)
    (new : last ∉ entries) :
    last ∈ capBucket (entries ++ [last]) ↔ ∃ entry ∈ entries, bucketRank entry < bucketRank last := by
  have five : (entries ++ [last]).length = 5 := by
    rw [List.length_append, full]
    rfl
  constructor
  · intro stays
    by_contra none
    push Not at none
    rw [capBucket_lowest full none, byPopularity, List.mem_insertionSort] at stays
    exact new stays
  · intro lower
    obtain ⟨entry, member, below⟩ := lower
    obtain ⟨dropped, perm, lowest⟩ := capBucket_five five
    have listed : last ∈ capBucket (entries ++ [last]) ++ [dropped] := perm.mem_iff.mpr (by simp)
    rcases List.mem_append.mp listed with stays | gone
    · exact stays
    · -- Had the new entry been dropped, the lower one would have stayed.
      have same : dropped = last := (List.mem_singleton.mp gone).symm
      have kept : entry ∈ capBucket (entries ++ [last]) := by
        have held : entry ∈ capBucket (entries ++ [last]) ++ [dropped] := perm.mem_iff.mpr (by simp [member])
        rcases List.mem_append.mp held with stays | other
        · exact stays
        · rw [List.mem_singleton.mp other, same] at below
          exact absurd below (lt_irrefl _)
      have above := lowest entry kept
      rw [same] at above
      exact absurd below (not_lt_of_ge above)

theorem mem_locations_iff {entries : List CacheEntry} {result : RequestResult} :
    result.location ∈ entries.map CacheEntry.location ↔
      ∃ entry ∈ entries, entry.At result.decision.clusterId result.decision.poolId := by
  simp only [List.mem_map, location_eq_iff]

theorem bucketRank_created {key : String} {result : RequestResult} {entries : List CacheEntry}
    (unknown : result.location ∉ entries.map CacheEntry.location) :
    bucketRank (created key result) = newRank entries result := by
  have none : entries.find? (fun entry => entry.At result.decision.clusterId result.decision.poolId) = none := by
    apply List.find?_eq_none.mpr
    intro entry member here
    exact unknown (mem_locations_iff.mpr ⟨entry, member, of_decide_eq_true here⟩)
  simp [bucketRank, created, newRank, none]

/-- The bucket has an entry for the pool of a result, as new as the result and at least as large. -/
def Records (entries : List CacheEntry) (result : RequestResult) : Prop :=
  ∃ entry ∈ entries, entry.At result.decision.clusterId result.decision.poolId ∧
    entry.availableTs = result.completionTs ∧ result.request.promptTokens ≤ entry.sizeTokens

theorem records_mergeResult (key : String) (result : RequestResult) (entries : List CacheEntry) :
    Records (mergeResult key result entries) result := by
  by_cases known : result.location ∈ entries.map CacheEntry.location
  · obtain ⟨old, _, merged, located⟩ := @mergeResult_known key result entries known
    exact ⟨touched old result, merged, located, rfl, le_max_right _ _⟩
  · rw [mergeResult_unknown known]
    exact ⟨created key result, by simp, ⟨rfl, rfl⟩, rfl, le_refl _⟩

theorem records_capBucket_iff {key : String} {result : RequestResult} {entries : List CacheEntry}
    (few : entries.length ≤ 4) :
    Records (capBucket (mergeResult key result entries)) result ↔
      (∃ entry ∈ entries, entry.At result.decision.clusterId result.decision.poolId) ∨ entries.length < 4 ∨
        ∃ entry ∈ entries, bucketRank entry < newRank entries result := by
  rw [← mem_locations_iff]
  by_cases known : result.location ∈ entries.map CacheEntry.location
  · have short : (mergeResult key result entries).length ≤ 4 := by
      rw [length_mergeResult, if_pos known]
      exact few
    rw [capBucket_short short]
    exact ⟨fun _ => .inl known, fun _ => records_mergeResult key result entries⟩
  · by_cases room : entries.length < 4
    · have short : (mergeResult key result entries).length ≤ 4 := by
        rw [length_mergeResult, if_neg known]
        omega
      rw [capBucket_short short]
      exact ⟨fun _ => .inr (.inl room), fun _ => records_mergeResult key result entries⟩
    · have elsewhere : ∀ entry ∈ entries, ¬ entry.At result.decision.clusterId result.decision.poolId :=
        fun entry member here => known (mem_locations_iff.mpr ⟨entry, member, here⟩)
      have new : created key result ∉ entries := fun member => elsewhere _ member ⟨rfl, rfl⟩
      have stays := mem_capBucket_last (show entries.length = 4 by omega) new
      rw [bucketRank_created known] at stays
      rw [mergeResult_unknown known]
      simp only [known, room, false_or]
      rw [← stays]
      constructor
      · intro records
        obtain ⟨entry, member, here, _⟩ := records
        rcases List.mem_append.mp (mem_capBucket member) with old | last
        · exact absurd here (elsewhere entry old)
        · rw [List.mem_singleton.mp last] at member
          exact member
      · exact fun member => ⟨created key result, member, ⟨rfl, rfl⟩, rfl, le_refl _⟩

theorem capBucket_unrecorded {key : String} {result : RequestResult} {entries : List CacheEntry}
    (few : entries.length ≤ 4) (unrecorded : ¬ Records (capBucket (mergeResult key result entries)) result) :
    entries.length = 4 ∧ capBucket (mergeResult key result entries) = byPopularity entries := by
  rw [records_capBucket_iff few, ← mem_locations_iff] at unrecorded
  push Not at unrecorded
  obtain ⟨unknown, least, lowest⟩ := unrecorded
  have full : entries.length = 4 := le_antisymm few least
  rw [← @bucketRank_created key result entries unknown] at lowest
  rw [mergeResult_unknown unknown]
  exact ⟨full, capBucket_lowest full lowest⟩

end Keeping

/-- With fewer entries than the limit an admitted result is recorded exactly when its pool is known in the
    bucket, the bucket has fewer than four entries or one of them ranks below the new one: a bucket keeps
    the four entries with the most hits, and of equally popular ones the latest. Otherwise it keeps the four
    it had. -/
theorem observe_records_iff (ttlS : ℚ) (maxEntries : ℤ) (redisStore : RedisStore)
    (disabled : redisStore.enabled = false) (calls : List DirectoryCall) (result : RequestResult)
    (admitted : result.admitted = true)
    (room : (((create ttlS maxEntries redisStore).afterAll calls).totalEntries : ℤ) < maxEntries) :
    let before := (create ttlS maxEntries redisStore).afterAll calls
    let entries := before.bucket (cacheKey result.request)
    ∃ final, observe result before = .ok () final ∧
      (Records (final.bucket (cacheKey result.request)) result ↔
        (∃ entry ∈ entries, entry.At result.decision.clusterId result.decision.poolId) ∨ entries.length < 4 ∨
          ∃ entry ∈ entries, bucketRank entry < newRank entries result) ∧
      (¬ Records (final.bucket (cacheKey result.request)) result →
        entries.length = 4 ∧ final.bucket (cacheKey result.request) = byPopularity entries) := by
  intro before entries
  have settings := afterAll_settings (create ttlS maxEntries redisStore) calls
  have off : before.redisStore.enabled = false := settings.2.2.trans disabled
  have valid : BucketsValid before.entries := bucketsValid_afterAll disabled calls
  have within : ((before.recorded result).totalEntries : ℤ) ≤ (before.recorded result).maxEntries := by
    have limit : (before.recorded result).maxEntries = maxEntries := settings.2.1
    have fewer : (before.totalEntries : ℤ) < maxEntries := room
    have grown : before.growth result ≤ 1 := by
      unfold growth
      dsimp only
      split <;> omega
    rw [totalEntries_recorded valid, limit]
    push_cast
    omega
  refine ⟨before.recorded result, ?_, ?_, ?_⟩
  · rw [observe_disabled off admitted, trim, if_pos within]
  · rw [bucket_recorded, if_pos rfl]
    exact records_capBucket_iff (bucket_atMostFour valid _)
  · rw [bucket_recorded, if_pos rfl]
    exact capBucket_unrecorded (bucket_atMostFour valid _)

section Popular

theorem thousand_tokens_pos : (0 : ℤ) < 1000 := by decide

def hitResult (poolId : String) (completionTs : ℚ) : RequestResult :=
  { sessionResult (sessionRequest 1000 thousand_tokens_pos) "c1" poolId completionTs with cacheHitRatio := 0.5 }

/-- Four pools with a hit each hold the bucket, and a fifth pool without one is not recorded, with room for
    thousands of entries. -/
theorem observe_forgets_new_pool :
    ¬ ∀ (ttlS : ℚ) (maxEntries : ℤ) (redisStore : RedisStore) (calls : List DirectoryCall) (result : RequestResult),
      redisStore.enabled = false →
      (((create ttlS maxEntries redisStore).afterAll calls).totalEntries : ℤ) < maxEntries →
      result.admitted = true →
      ∃ final, observe result ((create ttlS maxEntries redisStore).afterAll calls) = .ok () final ∧
        ∃ entry ∈ final.bucket (cacheKey result.request),
          entry.At result.decision.clusterId result.decision.poolId ∧
          entry.availableTs = result.completionTs ∧ result.request.promptTokens ≤ entry.sizeTokens := by
  intro recorded
  let calls : List DirectoryCall := [.observe (hitResult "p1" 5), .observe (hitResult "p2" 6),
    .observe (hitResult "p3" 7), .observe (hitResult "p4" 8)]
  let result := sessionResult (sessionRequest 1000) "c1" "p5" 9
  have counted : (((create 180 20000 (emptyStore false)).afterAll calls).totalEntries : ℤ) < 20000 := by
    decide +kernel
  obtain ⟨final, returned, entry, member, here, _⟩ :=
    recorded 180 20000 (emptyStore false) calls result rfl counted rfl
  have pools : (stateAfter (observe result) ((create 180 20000 (emptyStore false)).afterAll calls)).bucket
      (cacheKey result.request) |>.all (fun entry => entry.poolId ≠ "p5") := by
    decide +kernel
  rw [stateAfter_ok returned] at pools
  have other := List.all_eq_true.mp pools entry member
  exact absurd here.2 (of_decide_eq_true other)

theorem observe_records_iff_fourth :
    let before := (create 180 20000 (emptyStore false)).afterAll
      [.observe (hitResult "p1" 5), .observe (hitResult "p2" 6), .observe (hitResult "p3" 7)]
    let result := sessionResult (sessionRequest 1000) "c1" "p5" 9
    ∃ final, observe result before = .ok () final ∧ Records (final.bucket (cacheKey result.request)) result := by
  intro before result
  have counted : (before.totalEntries : ℤ) < 20000 := by decide +kernel
  have short : (before.bucket (cacheKey result.request)).length < 4 := by decide +kernel
  obtain ⟨final, returned, recorded, _⟩ := observe_records_iff 180 20000 (emptyStore false) rfl
    [.observe (hitResult "p1" 5), .observe (hitResult "p2" 6), .observe (hitResult "p3" 7)] result rfl counted
  exact ⟨final, returned, recorded.mpr (.inr (.inl short))⟩

end Popular

end NimbusMesh.KVCacheDirectory
