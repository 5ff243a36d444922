import NimbusMesh.Cache.Persistence
import NimbusMesh.Cache.Visibility

namespace NimbusMesh

open Foundation Foundation.Execution

namespace DirectoryCall

def ForKey (key : String) : DirectoryCall → Prop
  | .observe result => result.admitted = true ∧ cacheKey result.request = key
  | .score request _ _ _ => cacheKey request = key
  | _ => False

instance (key : String) : ∀ call : DirectoryCall, Decidable (call.ForKey key)
  | .observe _ => inferInstanceAs (Decidable (_ ∧ _))
  | .score _ _ _ _ => inferInstanceAs (Decidable (_ = _))
  | .reservedGb _ _ _ => .isFalse id
  | .snapshot _ => .isFalse id
  | .evictStale _ => .isFalse id

def ObservesAt (key clusterId poolId : String) : DirectoryCall → Prop
  | .observe result => result.admitted = true ∧ cacheKey result.request = key ∧
      result.decision.clusterId = clusterId ∧ result.decision.poolId = poolId
  | _ => False

end DirectoryCall

def Absent (entries : List CacheEntry) (clusterId poolId : String) : Prop :=
  ∀ entry ∈ entries, ¬ entry.At clusterId poolId

namespace KVCacheDirectory

def Credits (directory : KVCacheDirectory) (request : InferenceRequest) (now : ℚ) (entry : CacheEntry) :
    Prop :=
  ∃ prepared, prepareScore request now directory = .ok () prepared ∧
    entry ∈ prepared.bucket (cacheKey request) ∧ entry.availableTs ≤ now

/-- A score that loads entries from the store is the first call for its key, and none of them is
    stale. -/
def LoadsOnce (before : List DirectoryCall) (directory : KVCacheDirectory) : DirectoryCall → Prop
  | .score request _ _ now => (directory.evictStale now).bucket (cacheKey request) = [] →
      ∀ entries ∈ (directory.redisStore.storedEntries (cacheKey request)).toOption, entries ≠ [] →
        (∀ call ∈ before, ¬ call.ForKey (cacheKey request)) ∧
          ∀ entry ∈ entries, directory.Fresh now entry
  | _ => True

instance (before : List DirectoryCall) (directory : KVCacheDirectory) :
    ∀ call, Decidable (LoadsOnce before directory call)
  | .observe _ => .isTrue True.intro
  | .score _ _ _ _ => inferInstanceAs (Decidable (_ → ∀ entries ∈ _, _ → _ ∧ _))
  | .reservedGb _ _ _ => .isTrue True.intro
  | .snapshot _ => .isTrue True.intro
  | .evictStale _ => .isTrue True.intro

theorem Credits.cases {directory : KVCacheDirectory} {request : InferenceRequest} {now : ℚ}
    {entry : CacheEntry} (credits : directory.Credits request now entry) :
    entry ∈ (directory.evictStale now).bucket (cacheKey request) ∨
      ((directory.evictStale now).bucket (cacheKey request) = [] ∧
        ∃ entries ∈ (directory.redisStore.storedEntries (cacheKey request)).toOption, entry ∈ entries) := by
  obtain ⟨prepared, outcome, member, _⟩ := credits
  rcases prepareScore_cases directory request now with ⟨raised, failed⟩ | kept |
    ⟨first, rest, empty, loaded, hydrated⟩
  · rw [failed] at outcome
    cases outcome
  · rw [kept] at outcome
    cases outcome
    exact .inl member
  · rw [hydrated] at outcome
    cases outcome
    rw [bucket_setBucket, if_pos rfl] at member
    exact .inr ⟨empty, first :: rest, by rw [loaded]; rfl, member⟩

theorem Credits.fresh {before : List DirectoryCall} {directory : KVCacheDirectory}
    {request : InferenceRequest} {clusterId poolId : String} {now : ℚ} {entry : CacheEntry}
    (loads : LoadsOnce before directory (.score request clusterId poolId now))
    (credits : directory.Credits request now entry) : directory.Fresh now entry := by
  rcases credits.cases with kept | ⟨empty, entries, loaded, member⟩
  · rw [bucket_evictStale] at kept
    simpa using (List.mem_filter.mp kept).2
  · exact (loads empty entries loaded (List.ne_nil_of_mem member)).2 entry member

theorem used_of_mem {directory : KVCacheDirectory} (empty : ∀ key, directory.bucket key = [])
    {calls : List DirectoryCall} {key : String} {entry : CacheEntry}
    (member : entry ∈ (directory.afterAll calls).bucket key) : ∃ call ∈ calls, call.ForKey key := by
  induction calls using List.reverseRecOn generalizing entry with
  | nil =>
    rw [afterAll, List.foldl_nil, empty] at member
    cases member
  | append_singleton before call ih =>
    rw [afterAll, List.foldl_append] at member
    rcases mem_bucket_after member with kept | ⟨result, rfl, admitted, same, _⟩ |
      ⟨request, clusterId, poolId, now, _, _, rfl, same, _⟩
    · obtain ⟨earlier, inside, forKey⟩ := ih kept
      exact ⟨earlier, by simp [inside], forKey⟩
    · exact ⟨.observe result, by simp, admitted, same⟩
    · exact ⟨.score request clusterId poolId now, by simp, same⟩

theorem absent_after {before : List DirectoryCall} {directory : KVCacheDirectory} {call : DirectoryCall}
    {key clusterId poolId : String} (used : ∃ earlier ∈ before, earlier.ForKey key)
    (loads : LoadsOnce before directory call) (unobserved : ¬ call.ObservesAt key clusterId poolId)
    (absent : Absent (directory.bucket key) clusterId poolId) :
    Absent ((directory.after call).bucket key) clusterId poolId := by
  intro entry member here
  rcases mem_bucket_after member with kept | ⟨result, rfl, admitted, same, origin⟩ |
    ⟨request, _, _, now, first, rest, rfl, rfl, empty, loaded, _⟩
  · exact absent entry kept here
  · apply unobserved
    refine ⟨admitted, same, ?_⟩
    rcases origin with rfl | ⟨old, found, rfl⟩
    · exact here
    · have located : old.At result.decision.clusterId result.decision.poolId := by
        simpa using List.find?_some found
      exact ⟨located.1.symm.trans here.1, located.2.symm.trans here.2⟩
  · obtain ⟨earlier, inside, forKey⟩ := used
    have first := (loads empty (first :: rest) (by rw [loaded]; rfl) (by simp)).1
    exact first earlier inside forKey

theorem absent_afterAll {start : KVCacheDirectory} {before between : List DirectoryCall}
    {key clusterId poolId : String} (used : ∃ earlier ∈ before, earlier.ForKey key)
    (loads : Throughout after LoadsOnce start (before ++ between))
    (unobserved : ∀ later ∈ between, ¬ later.ObservesAt key clusterId poolId)
    (absent : Absent ((start.afterAll before).bucket key) clusterId poolId) :
    Absent ((start.afterAll (before ++ between)).bucket key) clusterId poolId := by
  induction between using List.reverseRecOn with
  | nil => rwa [List.append_nil]
  | append_singleton front last ih =>
    rw [← List.append_assoc] at loads ⊢
    have kept := ih loads.left (fun later member => unobserved later (by simp [member]))
    obtain ⟨earlier, inside, forKey⟩ := used
    have step := absent_after ⟨earlier, List.mem_append_left front inside, forKey⟩
      (loads (before ++ front) last [] rfl) (unobserved last (by simp)) kept
    rwa [afterAll, List.foldl_append]

/-- When scores load a key from the store at most once, before anything else happens to it, and
    load nothing stale, then no score credits a stale entry, and none credits an entry that was
    evicted or trimmed, in the same call or later, unless it has been observed again. -/
theorem eviction_is_final (ttlS : ℚ) (maxEntries : ℤ) (redisStore : RedisStore)
    (calls : List DirectoryCall)
    (loads : Throughout after LoadsOnce (create ttlS maxEntries redisStore) calls) :
    (∀ before request clusterId poolId now after,
      calls = before ++ .score request clusterId poolId now :: after →
      let directory := (create ttlS maxEntries redisStore).afterAll before
      ∀ entry, directory.Credits request now entry → now - entry.lastTouched ≤ ttlS ∧
        ∀ old ∈ directory.bucket (cacheKey request),
          Absent ((directory.evictStale now).bucket (cacheKey request)) old.clusterId old.poolId →
          ¬ entry.At old.clusterId old.poolId) ∧
    ∀ before call between request clusterId poolId now after,
      calls = before ++ call :: between ++ .score request clusterId poolId now :: after →
      ∀ old ∈ ((create ttlS maxEntries redisStore).afterAll before).bucket (cacheKey request),
        Absent (((create ttlS maxEntries redisStore).afterAll (before ++ [call])).bucket (cacheKey request))
          old.clusterId old.poolId →
        (∀ later ∈ between, ¬ later.ObservesAt (cacheKey request) old.clusterId old.poolId) →
        ∀ entry, ((create ttlS maxEntries redisStore).afterAll (before ++ call :: between)).Credits
          request now entry → ¬ entry.At old.clusterId old.poolId := by
  have empty : ∀ key, (create ttlS maxEntries redisStore).bucket key = [] := fun _ => rfl
  constructor
  · intro before request clusterId poolId now after split directory entry credits
    have once := loads before _ after split
    constructor
    · have fresh : now - entry.lastTouched ≤ directory.ttlS := Credits.fresh once credits
      exact fresh.trans_eq (afterAll_settings _ before).1
    · intro old present absent
      rcases credits.cases with kept | ⟨gone, entries, loaded, member⟩
      · exact absent entry kept
      · obtain ⟨earlier, inside, forKey⟩ := used_of_mem empty present
        exact absurd forKey ((once gone entries loaded (List.ne_nil_of_mem member)).1 earlier inside)
  · intro before call between request clusterId poolId now after split old present absent unobserved entry
      credits
    obtain ⟨earlier, inside, forKey⟩ := used_of_mem empty present
    have once := loads (before ++ call :: between) _ after split
    have stays : Absent (((create ttlS maxEntries redisStore).afterAll (before ++ call :: between)).bucket
        (cacheKey request)) old.clusterId old.poolId := by
      rw [split, List.append_cons before call between] at loads
      rw [List.append_cons before call between]
      exact absent_afterAll ⟨earlier, by simp [inside], forKey⟩ loads.left unobserved absent
    rcases credits.cases with kept | ⟨gone, entries, loaded, member⟩
    · exact stays entry (((shrinks_evictStale _ now).buckets _).subset kept)
    · exact absurd forKey ((once gone entries loaded (List.ne_nil_of_mem member)).1 earlier (by simp [inside]))

theorem eviction_is_final_after_restart :
    let store := (emptyStore true).persisted (cacheKey (sessionRequest 1000))
      [created (cacheKey (sessionRequest 1000)) (sessionResult (sessionRequest 1000) "c1" "p1" 5)]
    valueOf (score (sessionRequest 1000) "c1" "p1" 10 (create 180 20000 store)) = some (0.95, 950) ∧
      ∀ entry, (create 180 20000 store).Credits (sessionRequest 1000) 10 entry →
        10 - entry.lastTouched ≤ 180 := by
  intro store
  refine ⟨by decide +kernel, fun entry credits => ?_⟩
  have final := eviction_is_final 180 20000 store
    [.score (sessionRequest 1000) "c1" "p1" 10, .reservedGb "c1" "p1" 400] (by decide +kernel)
  exact (final.1 [] _ _ _ _ _ rfl entry credits).1

/-- An entry that finished at 1 and was evicted at 400 is loaded again at 500 and credited, though
    it is older than the time to live. -/
theorem evicted_entry_credited_again :
    let start := create 180 20000 (emptyStore true)
    let observed : DirectoryCall := .observe (sessionResult (sessionRequest 1000) "c1" "p1" 1)
    let entry := created (cacheKey (sessionRequest 1000)) (sessionResult (sessionRequest 1000) "c1" "p1" 1)
    (start.afterAll [observed]).bucket (cacheKey (sessionRequest 1000)) = [entry] ∧
      (start.afterAll [observed, .reservedGb "c1" "p1" 400]).bucket (cacheKey (sessionRequest 1000)) = [] ∧
      (start.afterAll [observed, .reservedGb "c1" "p1" 400]).Credits (sessionRequest 1000) 500 entry ∧
      ¬ 500 - entry.lastTouched ≤ 180 ∧
      valueOf (score (sessionRequest 1000) "c1" "p1" 500
        (start.afterAll [observed, .reservedGb "c1" "p1" 400])) = some (0.1, 100) := by
  intro start observed entry
  refine ⟨by decide +kernel, by decide +kernel, ?_, by decide +kernel, by decide +kernel⟩
  have prepares : valueOf (prepareScore (sessionRequest 1000) 500
      (start.afterAll [observed, .reservedGb "c1" "p1" 400])) = some () := by decide +kernel
  obtain ⟨prepared, outcome⟩ := valueOf_eq_some.mp prepares
  have loaded : (stateAfter (prepareScore (sessionRequest 1000) 500)
      (start.afterAll [observed, .reservedGb "c1" "p1" 400])).bucket (cacheKey (sessionRequest 1000)) =
        [entry] := by decide +kernel
  rw [stateAfter_ok outcome] at loaded
  exact ⟨prepared, outcome, by simp [loaded], by decide +kernel⟩

end KVCacheDirectory

end NimbusMesh
