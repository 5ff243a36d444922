import NimbusMesh.Cache.Calls
import Mathlib.Tactic.NormNum

namespace NimbusMesh

open Foundation Foundation.Decimal Foundation.Execution

namespace CacheEntry

theorem hitRatio_bounds (entry : CacheEntry) (ttlS : ℚ) (clusterId poolId : String) (now : ℚ) :
    0 < entry.hitRatio ttlS clusterId poolId now ∧ entry.hitRatio ttlS clusterId poolId now ≤ 1 := by
  have fresh : (0 : ℚ) < entry.freshness ttlS now := lt_of_lt_of_le (by norm_num) (le_max_left _ _)
  have bonus : 0 < entry.locationBonus clusterId poolId := by
    unfold locationBonus
    split_ifs <;> norm_num
  refine ⟨lt_min (by norm_num) (mul_pos fresh bonus), (min_le_left _ _).trans (by norm_num)⟩

theorem savedTokens_le (entry : CacheEntry) (promptTokens : ℤ) {hitRatio : ℚ} {bound : ℤ}
    (nonneg : 0 ≤ hitRatio) (atMost : hitRatio ≤ 1) (positive : 0 ≤ bound)
    (size : entry.sizeTokens ≤ bound) : entry.savedTokens promptTokens hitRatio ≤ bound := by
  apply truncate_le positive
  have smaller : ((min entry.sizeTokens promptTokens : ℤ) : ℚ) ≤ bound := by
    exact_mod_cast (min_le_left _ _).trans size
  calc ((min entry.sizeTokens promptTokens : ℤ) : ℚ) * hitRatio
      ≤ bound * hitRatio := mul_le_mul_of_nonneg_right smaller nonneg
    _ ≤ bound * 1 := mul_le_mul_of_nonneg_left atMost (by exact_mod_cast positive)
    _ = bound := mul_one _

end CacheEntry

namespace KVCacheDirectory

theorem bestHit_cases {ttlS : ℚ} {clusterId poolId : String} {promptTokens : ℤ} {now : ℚ}
    {entries : List CacheEntry} {best found : ℚ × ℤ}
    (returned : bestHit ttlS clusterId poolId promptTokens now entries best = .ok found) :
    found = best ∨ ∃ entry ∈ entries, entry.availableTs ≤ now ∧
      found = (entry.hitRatio ttlS clusterId poolId now,
        entry.savedTokens promptTokens (entry.hitRatio ttlS clusterId poolId now)) := by
  induction entries generalizing best with
  | nil => cases returned; exact .inl rfl
  | cons entry rest ih =>
    simp only [bestHit] at returned
    split at returned
    · rcases ih returned with same | ⟨later, member, visible, same⟩
      · exact .inl same
      · exact .inr ⟨later, by simp [member], visible, same⟩
    · rename_i visible
      split at returned
      · cases returned
      · rcases ih returned with same | ⟨later, member, available, same⟩
        · split at same
          · exact .inr ⟨entry, by simp, le_of_not_gt visible, same⟩
          · exact .inl same
        · exact .inr ⟨later, by simp [member], available, same⟩

theorem score_cases {directory final : KVCacheDirectory} {request : InferenceRequest}
    {clusterId poolId : String} {now ratio : ℚ} {saved : ℤ}
    (scored : score request clusterId poolId now directory = .ok (ratio, saved) final) :
    prepareScore request now directory = .ok () final ∧
      ((ratio = 0 ∧ saved = 0) ∨ ∃ entry ∈ final.bucket (cacheKey request), entry.availableTs ≤ now ∧
        ratio = roundTo 4 (entry.hitRatio final.ttlS clusterId poolId now) ∧
        saved = entry.savedTokens request.promptTokens
          (entry.hitRatio final.ttlS clusterId poolId now)) := by
  simp only [score] at scored
  split at scored
  · cases scored
  · rename_i prepared outcome
    split at scored
    · cases scored
    · rename_i best returned
      cases scored
      refine ⟨outcome, ?_⟩
      rcases bestHit_cases returned with rfl | ⟨entry, member, visible, rfl⟩
      · exact .inl ⟨roundTo_zero 4, rfl⟩
      · exact .inr ⟨entry, member, visible, rfl, rfl⟩

def observedResults (calls : List DirectoryCall) : List RequestResult :=
  calls.filterMap (fun call => match call with
    | .observe result => if result.admitted then some result else none
    | _ => none)

def completedBy (calls : List DirectoryCall) (key : String) (now : ℚ) : List RequestResult :=
  (observedResults calls).filter (fun result =>
    cacheKey result.request = key ∧ result.completionTs ≤ now)

/-- An observed result that finishes earlier than the entry it is merged into is not smaller
    than that entry. -/
def MergesForward (directory : KVCacheDirectory) : DirectoryCall → Prop
  | .observe result => result.admitted = true →
      ∀ old ∈ (directory.bucket (cacheKey result.request)).find?
        (fun e => e.At result.decision.clusterId result.decision.poolId),
      ¬ (result.request.promptTokens < old.sizeTokens ∧ result.completionTs < old.availableTs)
  | _ => True

instance (directory : KVCacheDirectory) (call : DirectoryCall) : Decidable (directory.MergesForward call) :=
  match call with
  | .observe _ => inferInstanceAs (Decidable (_ → ∀ old ∈ _, _))
  | .score _ _ _ _ => .isTrue True.intro
  | .reservedGb _ _ _ => .isTrue True.intro
  | .snapshot _ => .isTrue True.intro
  | .evictStale _ => .isTrue True.intro

def Backed (results : List RequestResult) (key : String) (entry : CacheEntry) : Prop :=
  ∃ result ∈ results, cacheKey result.request = key ∧ result.completionTs ≤ entry.availableTs ∧
    entry.sizeTokens ≤ result.request.promptTokens

theorem Backed.mono {results more : List RequestResult} {key : String} {entry : CacheEntry}
    (backed : Backed results key entry) (subset : results ⊆ more) : Backed more key entry := by
  obtain ⟨result, member, rest⟩ := backed
  exact ⟨result, subset member, rest⟩

theorem backed_touched {results : List RequestResult} {result : RequestResult} {key : String}
    {old : CacheEntry} (same : cacheKey result.request = key) (backed : Backed results key old)
    (forward : ¬ (result.request.promptTokens < old.sizeTokens ∧ result.completionTs < old.availableTs)) :
    Backed (results ++ [result]) key (touched old result) := by
  by_cases covers : old.sizeTokens ≤ result.request.promptTokens
  · exact ⟨result, by simp, same, le_refl _, max_le covers (le_refl _)⟩
  · obtain ⟨earlier, member, keyed, completed, size⟩ := backed
    have later : old.availableTs ≤ result.completionTs := by
      by_contra before
      exact forward ⟨lt_of_not_ge covers, lt_of_not_ge before⟩
    refine ⟨earlier, by simp [member], keyed, completed.trans later, max_le size ?_⟩
    exact (le_of_not_ge covers).trans size

theorem observedResults_snoc (calls : List DirectoryCall) (call : DirectoryCall) :
    observedResults calls ⊆ observedResults (calls ++ [call]) := by
  intro result member
  simp only [observedResults, List.filterMap_append, List.mem_append]
  exact .inl member

theorem afterAll_backed {directory : KVCacheDirectory} {calls : List DirectoryCall}
    (empty : ∀ key, directory.bucket key = []) (disabled : directory.redisStore.enabled = false)
    (forward : Throughout after (fun _ => MergesForward) directory calls) :
    ∀ key, ∀ entry ∈ (directory.afterAll calls).bucket key, Backed (observedResults calls) key entry := by
  refine (foldl_invariant (fun calls state => state.redisStore.enabled = false ∧
    ∀ key, ∀ entry ∈ state.bucket key, Backed (observedResults calls) key entry)
    ⟨disabled, by simp [empty]⟩ ?_ forward).2
  intro before call state earlier merges
  refine ⟨(after_settings state call).2.2.trans earlier.1, ?_⟩
  intro key entry member
  rcases mem_bucket_after member with kept | ⟨result, rfl, admitted, same, origin⟩ |
    ⟨_, _, _, _, _, _, _, _, _, loaded, _⟩
  · exact (earlier.2 key entry kept).mono (observedResults_snoc before call)
  · have appended : observedResults (before ++ [.observe result]) = observedResults before ++ [result] := by
      simp [observedResults, admitted]
    rw [appended]
    rcases origin with rfl | ⟨old, found, rfl⟩
    · exact ⟨result, by simp, same, le_refl _, le_refl _⟩
    · subst same
      exact backed_touched rfl (earlier.2 _ old (List.mem_of_find?_eq_some found))
        (merges admitted old found)
  · rw [storedEntries_disabled earlier.1] at loaded
    cases loaded

/-- With merges that go forward, a score credits no more tokens than some request of the same
    key that has completed, and nothing when there is none. -/
theorem score_credits_completed (ttlS : ℚ) (maxEntries : ℤ) (redisStore : RedisStore)
    (disabled : redisStore.enabled = false) (calls : List DirectoryCall)
    (forward : Throughout after (fun _ => MergesForward) (create ttlS maxEntries redisStore) calls)
    (request : InferenceRequest) (clusterId poolId : String) (now ratio : ℚ) (saved : ℤ)
    (final : KVCacheDirectory)
    (scored : score request clusterId poolId now ((create ttlS maxEntries redisStore).afterAll calls) =
      .ok (ratio, saved) final) :
    (completedBy calls (cacheKey request) now = [] → ratio = 0 ∧ saved = 0) ∧
    (completedBy calls (cacheKey request) now ≠ [] →
      ∃ result ∈ completedBy calls (cacheKey request) now, saved ≤ result.request.promptTokens) := by
  obtain ⟨prepared, outcome⟩ := score_cases scored
  have off : ((create ttlS maxEntries redisStore).afterAll calls).redisStore.enabled = false :=
    (afterAll_settings _ calls).2.2.trans disabled
  rw [prepareScore_disabled _ _ _ off] at prepared
  cases prepared
  rcases outcome with ⟨rfl, rfl⟩ | ⟨entry, member, visible, rfl, rfl⟩
  · refine ⟨fun _ => ⟨rfl, rfl⟩, fun some => ?_⟩
    obtain ⟨result, member⟩ := List.exists_mem_of_ne_nil _ some
    exact ⟨result, member, result.request.tokens_positive.1.le⟩
  · have kept := ((shrinks_evictStale _ now).buckets _).subset member
    obtain ⟨result, observed, same, completed, size⟩ :=
      afterAll_backed (fun _ => rfl) disabled forward _ entry kept
    have counted : result ∈ completedBy calls (cacheKey request) now := by
      simp [completedBy, observed, same, completed.trans visible]
    have bounds := entry.hitRatio_bounds
      ((create ttlS maxEntries redisStore).afterAll calls |>.evictStale now).ttlS clusterId poolId now
    refine ⟨fun none => absurd counted (by simp [none]), fun _ => ⟨result, counted, ?_⟩⟩
    exact entry.savedTokens_le _ bounds.1.le bounds.2 result.request.tokens_positive.1.le size

theorem score_credits_completed_in_order :
    let calls := [.observe (sessionResult (sessionRequest 1000) "c1" "p1" 5),
      .observe (sessionResult (sessionRequest 100) "c1" "p1" 10)]
    ∃ ratio saved final,
      score (sessionRequest 2000) "c1" "p1" 20 ((create 180 20000 (emptyStore false)).afterAll calls) =
        .ok (ratio, saved) final ∧
      ∃ result ∈ completedBy calls (cacheKey (sessionRequest 2000)) 20,
        saved ≤ result.request.promptTokens := by
  intro calls
  have forward : Throughout after (fun _ => MergesForward) (create 180 20000 (emptyStore false)) calls :=
    by decide +kernel
  have value : valueOf (score (sessionRequest 2000) "c1" "p1" 20
      ((create 180 20000 (emptyStore false)).afterAll calls)) = some (0.9444, 944) := by decide +kernel
  obtain ⟨final, scored⟩ := valueOf_eq_some.mp value
  have completed : completedBy calls (cacheKey (sessionRequest 2000)) 20 ≠ [] := by decide +kernel
  exact ⟨_, _, final, scored, (score_credits_completed 180 20000 (emptyStore false) rfl calls forward
    _ _ _ _ _ _ final scored).2 completed⟩

/-- A request of 1000 tokens finishes at 10 and then one of 100 tokens at 5: the merged entry has
    the size of the first and the completion time of the second. -/
theorem score_credits_unfinished_request :
    let calls := [.observe (sessionResult (sessionRequest 1000) "c1" "p1" 10),
      .observe (sessionResult (sessionRequest 100) "c1" "p1" 5)]
    ∃ ratio saved final,
      score (sessionRequest 2000) "c1" "p1" 5 ((create 180 20000 (emptyStore false)).afterAll calls) =
        .ok (ratio, saved) final ∧
      ∀ result ∈ completedBy calls (cacheKey (sessionRequest 2000)) 5,
        result.request.promptTokens < saved := by
  intro calls
  have value : valueOf (score (sessionRequest 2000) "c1" "p1" 5
      ((create 180 20000 (emptyStore false)).afterAll calls)) = some (0.95, 950) := by decide +kernel
  obtain ⟨final, scored⟩ := valueOf_eq_some.mp value
  exact ⟨0.95, 950, final, scored, by decide +kernel⟩

end KVCacheDirectory

end NimbusMesh
