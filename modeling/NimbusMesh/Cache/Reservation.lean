import Mathlib.Algebra.Order.BigOperators.Group.List
import Mathlib.Algebra.Order.Ring.Rat
import Mathlib.Tactic.Positivity
import NimbusMesh.Cache.Persistence

namespace NimbusMesh

open Foundation Foundation.Execution

def locatedGb (clusterId poolId : String) (entries : List CacheEntry) : ℚ :=
  ((entries.filter (fun entry => entry.At clusterId poolId)).map CacheEntry.sizeGb).sum

def Sized (entries : List CacheEntry) : Prop := ∀ entry ∈ entries, 0 ≤ entry.sizeGb

theorem locatedGb_cons (clusterId poolId : String) (entry : CacheEntry) (rest : List CacheEntry) :
    locatedGb clusterId poolId (entry :: rest) =
      (if entry.At clusterId poolId then entry.sizeGb else 0) + locatedGb clusterId poolId rest := by
  unfold locatedGb
  by_cases here : entry.At clusterId poolId <;> simp [here]

theorem locatedGb_nonneg {entries : List CacheEntry} (sized : Sized entries) (clusterId poolId : String) :
    0 ≤ locatedGb clusterId poolId entries := by
  apply List.sum_nonneg
  intro size member
  obtain ⟨entry, kept, rfl⟩ := List.mem_map.mp member
  exact sized entry (List.mem_filter.mp kept).1

theorem locatedGb_sublist {smaller larger : List CacheEntry} (sublist : smaller.Sublist larger)
    (sized : Sized larger) (clusterId poolId : String) :
    locatedGb clusterId poolId smaller ≤ locatedGb clusterId poolId larger := by
  apply ((sublist.filter _).map CacheEntry.sizeGb).sum_le_sum
  intro size member
  obtain ⟨entry, kept, rfl⟩ := List.mem_map.mp member
  exact sized entry (List.mem_filter.mp kept).1

theorem locatedGb_capBucket {entries : List CacheEntry} (sized : Sized entries)
    (clusterId poolId : String) :
    locatedGb clusterId poolId (KVCacheDirectory.capBucket entries) ≤ locatedGb clusterId poolId entries := by
  unfold KVCacheDirectory.capBucket
  split
  · have sorted := List.perm_insertionSort
      (fun a b => KVCacheDirectory.bucketRank b ≤ KVCacheDirectory.bucketRank a) entries
    calc locatedGb clusterId poolId _
        ≤ locatedGb clusterId poolId (entries.insertionSort _) :=
          locatedGb_sublist (List.take_sublist 4 _)
            (fun entry member => sized entry (sorted.mem_iff.mp member)) clusterId poolId
      _ = locatedGb clusterId poolId entries := ((sorted.filter _).map _).sum_eq
  · exact le_refl _

namespace KVCacheDirectory

/-- How much memory the cache takes on a pool beyond what it already has when a request with the
    given memory is recorded there. -/
def growthGb (entries : List CacheEntry) (clusterId poolId : String) (memoryGb : ℚ) : ℚ :=
  max 0 (memoryGb * 0.55 -
    ((entries.find? (fun entry => entry.At clusterId poolId)).map CacheEntry.sizeGb).getD 0)

theorem locatedGb_mergeResult (key : String) (result : RequestResult) (positive : 0 ≤ result.memoryGb)
    (entries : List CacheEntry) (clusterId poolId : String) :
    locatedGb clusterId poolId (mergeResult key result entries) = locatedGb clusterId poolId entries +
      if result.decision.clusterId = clusterId ∧ result.decision.poolId = poolId then
        growthGb entries clusterId poolId result.memoryGb
      else 0 := by
  induction entries with
  | nil =>
    have share : 0 ≤ result.memoryGb * 0.55 := by positivity
    simp only [mergeResult, locatedGb_cons, created, CacheEntry.At, growthGb, List.find?_nil,
      Option.map_none, Option.getD_none, sub_zero, max_eq_right share]
    exact add_comm _ _
  | cons entry rest ih =>
    by_cases here : entry.At result.decision.clusterId result.decision.poolId
    · have moved : (touched entry result).At clusterId poolId ↔ entry.At clusterId poolId := Iff.rfl
      simp only [mergeResult, here, if_true, locatedGb_cons, moved]
      by_cases same : result.decision.clusterId = clusterId ∧ result.decision.poolId = poolId
      · have there : entry.At clusterId poolId := ⟨here.1.trans same.1, here.2.trans same.2⟩
        have larger : max entry.sizeGb (result.memoryGb * 0.55) =
            entry.sizeGb + max 0 (result.memoryGb * 0.55 - entry.sizeGb) := by
          rw [← max_add_add_left, add_zero, add_sub_cancel]
        simp only [same, there, if_true, growthGb, decide_true, List.find?_cons_of_pos, Option.map_some,
          Option.getD_some, touched, larger, and_self]
        ring
      · have absent : ¬ entry.At clusterId poolId :=
          fun there => same ⟨here.1.symm.trans there.1, here.2.symm.trans there.2⟩
        simp only [same, absent, if_false, add_zero]
    · simp only [mergeResult, here, if_false, locatedGb_cons, ih]
      by_cases same : result.decision.clusterId = clusterId ∧ result.decision.poolId = poolId
      · have absent : ¬ entry.At clusterId poolId := by
          rwa [← same.1, ← same.2]
        simp only [same, absent, if_true, if_false, growthGb, decide_false, Bool.false_eq_true,
          not_false_eq_true, List.find?_cons_of_neg, and_self]
        ring
      · simp only [same, if_false, add_zero]

theorem reservedAt_eq (directory : KVCacheDirectory) (clusterId poolId : String) :
    directory.reservedAt clusterId poolId =
      (directory.entries.toList.map (fun slot => locatedGb clusterId poolId slot.2)).sum := by
  simp only [reservedAt, Dict.values, List.map_map]
  rfl

theorem locatedGb_bucket (directory : KVCacheDirectory) (key clusterId poolId : String) :
    locatedGb clusterId poolId (directory.bucket key) =
      ((directory.entries.get? key).map (fun slot => locatedGb clusterId poolId slot.2)).getD 0 := by
  simp only [bucket, Dict.lookup]
  cases directory.entries.get? key with
  | none => rfl
  | some slot => rfl

def Holds (directory : KVCacheDirectory) : Prop := ∀ key, Sized (directory.bucket key)

theorem Holds.slot {directory : KVCacheDirectory} (holds : directory.Holds)
    {slot : String × List CacheEntry} (member : slot ∈ directory.entries.toList) : Sized slot.2 := by
  have found := KeyedList.get?_eq_some.mpr ⟨member, rfl⟩
  have sized := holds slot.1
  rwa [bucket, Dict.lookup, found] at sized

theorem reservedAt_nonneg {directory : KVCacheDirectory} (holds : directory.Holds)
    (clusterId poolId : String) : 0 ≤ directory.reservedAt clusterId poolId := by
  rw [reservedAt_eq]
  apply List.sum_nonneg
  intro size member
  obtain ⟨slot, inside, rfl⟩ := List.mem_map.mp member
  exact locatedGb_nonneg (holds.slot inside) clusterId poolId

theorem Shrinks.reservedAt_le {before after : KVCacheDirectory} (shrinks : Shrinks before after)
    (holds : before.Holds) (clusterId poolId : String) :
    after.reservedAt clusterId poolId ≤ before.reservedAt clusterId poolId := by
  rw [reservedAt_eq, reservedAt_eq]
  apply KeyedList.sum_le_sum
  · intro slot member
    exact locatedGb_nonneg (holds.slot member) clusterId poolId
  · intro key
    rw [← locatedGb_bucket, ← locatedGb_bucket]
    exact locatedGb_sublist (shrinks.buckets key) (holds key) clusterId poolId

theorem Shrinks.holds {before after : KVCacheDirectory} (shrinks : Shrinks before after)
    (holds : before.Holds) : after.Holds :=
  fun key entry member => holds key entry ((shrinks.buckets key).subset member)

theorem reservedAt_setBucket (directory : KVCacheDirectory) (key : String) (entries : List CacheEntry)
    (clusterId poolId : String) :
    (directory.setBucket key entries).reservedAt clusterId poolId +
        locatedGb clusterId poolId (directory.bucket key) =
      directory.reservedAt clusterId poolId + locatedGb clusterId poolId entries := by
  rw [reservedAt_eq, reservedAt_eq, locatedGb_bucket]
  exact KeyedList.sum_insert (fun slot => locatedGb clusterId poolId slot.2) directory.entries (key, entries)

theorem sized_mergeResult (key : String) {result : RequestResult} (positive : 0 ≤ result.memoryGb)
    {entries : List CacheEntry} (sized : Sized entries) : Sized (mergeResult key result entries) := by
  intro entry member
  rcases mem_mergeResult member with old | rfl | ⟨old, found, rfl⟩
  · exact sized entry old
  · have share : 0 ≤ result.memoryGb * 0.55 := by positivity
    exact share
  · exact (sized old (List.mem_of_find?_eq_some found)).trans (le_max_left _ _)

theorem Holds.recorded {directory : KVCacheDirectory} (holds : directory.Holds) {result : RequestResult}
    (positive : 0 ≤ result.memoryGb) : (directory.recorded result).Holds := by
  intro key entry member
  rw [bucket_recorded] at member
  split at member
  · exact sized_mergeResult key positive (holds key) entry (mem_capBucket member)
  · exact holds key entry member

theorem reservedAt_recorded_le {directory : KVCacheDirectory} (holds : directory.Holds)
    {result : RequestResult} (positive : 0 ≤ result.memoryGb) (clusterId poolId : String) :
    (directory.recorded result).reservedAt clusterId poolId ≤ directory.reservedAt clusterId poolId +
      if result.decision.clusterId = clusterId ∧ result.decision.poolId = poolId then
        growthGb (directory.bucket (cacheKey result.request)) clusterId poolId result.memoryGb
      else 0 := by
  have replaced := reservedAt_setBucket directory (cacheKey result.request)
    (capBucket (mergeResult (cacheKey result.request) result (directory.bucket (cacheKey result.request))))
    clusterId poolId
  have capped := locatedGb_capBucket (sized_mergeResult (cacheKey result.request) positive
    (holds (cacheKey result.request))) clusterId poolId
  rw [locatedGb_mergeResult _ _ positive] at capped
  simp only [KVCacheDirectory.recorded]
  linarith

/-- A directory whose entries, and those it could load from the store, have no negative size. -/
structure WellSized (directory : KVCacheDirectory) : Prop where
  holds : directory.Holds
  stored : ∀ key entries, directory.redisStore.storedEntries key = .ok entries → Sized entries

theorem WellSized.evictStale {directory : KVCacheDirectory} (sized : directory.WellSized) (now : ℚ) :
    (directory.evictStale now).WellSized :=
  ⟨(shrinks_evictStale directory now).holds sized.holds, sized.stored⟩

theorem WellSized.score {directory final : KVCacheDirectory} (sized : directory.WellSized)
    {request : InferenceRequest} {clusterId poolId : String} {now : ℚ} {cache : ℚ × ℤ}
    (returned : KVCacheDirectory.score request clusterId poolId now directory = .ok cache final) :
    final.WellSized := by
  have state := score_state directory request clusterId poolId now
  rw [stateAfter_ok returned] at state
  rcases prepareScore_cases directory request now with ⟨raised, outcome⟩ | outcome |
    ⟨first, rest, _, loaded, outcome⟩
  · rw [state, stateAfter, outcome]
    exact sized.evictStale now
  · rw [state, stateAfter, outcome]
    exact sized.evictStale now
  · rw [state, stateAfter, outcome]
    refine ⟨fun key entry member => ?_, sized.stored⟩
    simp only [bucket_setBucket] at member
    split at member
    · exact sized.stored _ _ loaded entry member
    · exact (sized.evictStale now).holds key entry member

theorem WellSized.observe {directory final : KVCacheDirectory} (sized : directory.WellSized)
    {result : RequestResult} (positive : 0 ≤ result.memoryGb) (admitted : result.admitted = true)
    (returned : KVCacheDirectory.observe result directory = .ok () final) : final.WellSized := by
  have shrinks := shrinks_observe directory result admitted
  have store := observe_store directory result
  rw [stateAfter_ok returned] at shrinks store
  have recorded := sized.holds.recorded positive
  refine ⟨shrinks.holds recorded, ?_⟩
  intro key entries read
  rcases store with same | written
  · rw [same] at read
    exact sized.stored key entries read
  · rw [written] at read
    rcases RedisStore.storedEntries_persisted_cases read with ⟨_, rfl | rfl⟩ | ⟨_, before⟩
    · exact fun entry member => absurd member List.not_mem_nil
    · intro entry member
      obtain ⟨old, inside, rfl⟩ := List.mem_map.mp member
      exact recorded _ old inside
    · exact sized.stored key entries before

end KVCacheDirectory

end NimbusMesh
