import NimbusMesh.Cache.Eviction
import NimbusMesh.Cache.Persistence
import NimbusMesh.Cache.Residency

namespace NimbusMesh

open Foundation Foundation.Decimal Foundation.Execution

namespace KVCacheDirectory

/-- Every entry of a directory, and every entry it could load from the store, has a property. -/
structure Carries (property : CacheEntry → Prop) (directory : KVCacheDirectory) : Prop where
  held : ∀ key, ∀ entry ∈ directory.bucket key, property entry
  stored : ∀ key entries, directory.redisStore.storedEntries key = .ok entries → ∀ entry ∈ entries, property entry

/-- A property that recording admitted results and reading them back under a key cannot destroy. -/
structure Recordable (property : CacheEntry → Prop) : Prop where
  created : ∀ key result, property (created key result)
  touched : ∀ entry result, property entry → property (touched entry result)
  rekeyed : ∀ (entry : CacheEntry) key, property entry → property { entry with key }

section Carries

variable {property : CacheEntry → Prop} {directory : KVCacheDirectory}

theorem Carries.evictStale (carries : Carries property directory) (now : ℚ) :
    Carries property (directory.evictStale now) where
  held := fun key entry member =>
    carries.held key entry (((shrinks_evictStale directory now).buckets key).subset member)
  stored := carries.stored

theorem Carries.prepareScore (carries : Carries property directory) (request : InferenceRequest) (now : ℚ) :
    Carries property (stateAfter (prepareScore request now) directory) := by
  have evicted := carries.evictStale now
  rcases prepareScore_cases directory request now with ⟨raised, outcome⟩ | outcome |
    ⟨first, rest, _, loaded, outcome⟩
  · rw [stateAfter, outcome]
    exact evicted
  · rw [stateAfter, outcome]
    exact evicted
  · rw [stateAfter, outcome]
    refine ⟨fun key entry member => ?_, carries.stored⟩
    simp only [bucket_setBucket] at member
    split at member
    · exact carries.stored _ _ loaded entry member
    · exact evicted.held key entry member

theorem Carries.score (carries : Carries property directory) (request : InferenceRequest)
    (clusterId poolId : String) (now : ℚ) :
    Carries property (stateAfter (score request clusterId poolId now) directory) := by
  rw [score_state]
  exact carries.prepareScore request now

theorem Carries.recorded (recordable : Recordable property) (carries : Carries property directory)
    (result : RequestResult) : Carries property (directory.recorded result) := by
  refine ⟨fun key entry member => ?_, carries.stored⟩
  rw [bucket_recorded] at member
  split at member
  · rcases mem_mergeResult (mem_capBucket member) with old | rfl | ⟨old, found, rfl⟩
    · exact carries.held key entry old
    · exact recordable.created _ result
    · exact recordable.touched old result (carries.held _ old (List.mem_of_find?_eq_some found))
  · exact carries.held key entry member

theorem Carries.observe (recordable : Recordable property) (carries : Carries property directory)
    (result : RequestResult) : Carries property (stateAfter (observe result) directory) := by
  have recorded := carries.recorded recordable result
  cases admitted : result.admitted with
  | false =>
    rw [stateAfter_ok (observe_rejected directory result admitted)]
    exact carries
  | true =>
    have shrinks := shrinks_observe directory result admitted
    refine ⟨fun key entry member => recorded.held key entry ((shrinks.buckets key).subset member), ?_⟩
    intro key entries read
    rcases observe_store directory result with same | written
    · rw [same] at read
      exact carries.stored key entries read
    · rw [written] at read
      rcases RedisStore.storedEntries_persisted_cases read with ⟨_, rfl | rfl⟩ | ⟨_, before⟩
      · exact fun entry member => absurd member List.not_mem_nil
      · intro entry member
        obtain ⟨old, inside, rfl⟩ := List.mem_map.mp member
        exact recordable.rekeyed old _ (recorded.held _ old inside)
      · exact carries.stored key entries before

theorem Carries.after (recordable : Recordable property) (carries : Carries property directory)
    (call : DirectoryCall) : Carries property (directory.after call) := by
  cases call with
  | observe result => exact carries.observe recordable result
  | score request clusterId poolId now => exact carries.score request clusterId poolId now
  | reservedGb clusterId poolId now => exact carries.evictStale now
  | snapshot now => exact carries.evictStale now
  | evictStale now => exact carries.evictStale now

theorem carries_afterAll (recordable : Recordable property) {ttlS : ℚ} {maxEntries : ℤ} {redisStore : RedisStore}
    (stored : ∀ key entries, redisStore.storedEntries key = .ok entries → ∀ entry ∈ entries, property entry)
    (calls : List DirectoryCall) : Carries property ((create ttlS maxEntries redisStore).afterAll calls) := by
  have initial : Carries property (create ttlS maxEntries redisStore) :=
    ⟨fun _ _ member => absurd member List.not_mem_nil, stored⟩
  exact List.foldlRecOn calls KVCacheDirectory.after initial (fun _ carries call _ => carries.after recordable call)

end Carries

/-- An entry holds no negative number of tokens. -/
def Weighed (entry : CacheEntry) : Prop := 0 ≤ entry.sizeTokens

theorem recordable_weighed : Recordable Weighed where
  created := fun _ result => result.request.tokens_positive.1.le
  touched := fun _ result _ => result.request.tokens_positive.1.le.trans (le_max_right _ _)
  rekeyed := fun _ _ weighed => weighed

section Best

variable {ttlS : ℚ} {clusterId poolId : String} {promptTokens : ℤ} {now : ℚ}

def hitOf (ttlS : ℚ) (clusterId poolId : String) (promptTokens : ℤ) (now : ℚ) : Option CacheEntry → ℚ × ℤ
  | none => (0, 0)
  | some entry => (entry.hitRatio ttlS clusterId poolId now,
      entry.savedTokens promptTokens (entry.hitRatio ttlS clusterId poolId now))

theorem bestHit_leading {entries : List CacheEntry} {leading : Option CacheEntry} {found : ℚ × ℤ}
    (returned : bestHit ttlS clusterId poolId promptTokens now entries
      (hitOf ttlS clusterId poolId promptTokens now leading) = .ok found) :
    found = hitOf ttlS clusterId poolId promptTokens now
      ((entries.filter (fun entry => entry.availableTs ≤ now)).foldl
        (List.argAux fun entry other => other.hitRatio ttlS clusterId poolId now <
          entry.hitRatio ttlS clusterId poolId now) leading) := by
  induction entries generalizing leading with
  | nil => exact (Except.ok.inj returned).symm
  | cons entry rest ih =>
    simp only [bestHit] at returned
    split at returned
    · rename_i later
      rw [List.filter_cons_of_neg (by simpa using later)]
      exact ih returned
    · rename_i shown
      split at returned
      · cases returned
      · rw [List.filter_cons_of_pos (by simpa using shown), List.foldl_cons]
        apply ih
        rw [← returned]
        congr 1
        cases leading with
        | none =>
          have positive := (entry.hitRatio_bounds ttlS clusterId poolId now).1
          simp [hitOf, List.argAux, positive]
        | some other =>
          by_cases beaten : other.hitRatio ttlS clusterId poolId now < entry.hitRatio ttlS clusterId poolId now
          · simp [hitOf, List.argAux, beaten]
          · simp [hitOf, List.argAux, beaten]

/-- The entry that `score` credits: the first one with the highest hit ratio among those available. -/
def credited (ttlS : ℚ) (clusterId poolId : String) (now : ℚ) (entries : List CacheEntry) : Option CacheEntry :=
  (entries.filter (fun entry => entry.availableTs ≤ now)).argmax
    (fun entry => entry.hitRatio ttlS clusterId poolId now)

theorem bestHit_credited {entries : List CacheEntry} {found : ℚ × ℤ}
    (returned : bestHit ttlS clusterId poolId promptTokens now entries (0, 0) = .ok found) :
    found = hitOf ttlS clusterId poolId promptTokens now (credited ttlS clusterId poolId now entries) :=
  bestHit_leading (show bestHit ttlS clusterId poolId promptTokens now entries
    (hitOf ttlS clusterId poolId promptTokens now none) = .ok found from returned)

end Best

end KVCacheDirectory

namespace CacheEntry

theorem freshness_bounds {entry : CacheEntry} {ttlS now : ℚ} (positive : 0 < ttlS) (past : entry.lastTouched ≤ now) :
    0.1 ≤ entry.freshness ttlS now ∧ entry.freshness ttlS now ≤ 1 := by
  have age : 0 ≤ (now - entry.lastTouched) / ttlS := div_nonneg (sub_nonneg.mpr past) positive.le
  constructor
  · exact le_max_left _ _
  · apply max_le (by norm_num)
    have one : (1.0 : ℚ) = 1 := by norm_num
    linarith

theorem hitRatio_le (entry : CacheEntry) (ttlS : ℚ) (clusterId poolId : String) (now : ℚ) :
    entry.hitRatio ttlS clusterId poolId now ≤ 0.95 := min_le_left _ _

theorem savedTokens_eq_floor {entry : CacheEntry} (weighed : 0 ≤ entry.sizeTokens) {promptTokens : ℤ}
    (prompt : 0 ≤ promptTokens) {ratio : ℚ} (nonneg : 0 ≤ ratio) :
    entry.savedTokens promptTokens ratio = ⌊((min entry.sizeTokens promptTokens : ℤ) : ℚ) * ratio⌋ := by
  have tokens : (0 : ℚ) ≤ (min entry.sizeTokens promptTokens : ℤ) := by exact_mod_cast le_min weighed prompt
  rw [savedTokens, truncate, if_pos (mul_nonneg tokens nonneg)]

theorem savedTokens_bounds {entry : CacheEntry} (weighed : 0 ≤ entry.sizeTokens) {promptTokens : ℤ}
    (prompt : 0 ≤ promptTokens) {ratio : ℚ} (nonneg : 0 ≤ ratio) (most : ratio ≤ 0.95) :
    0 ≤ entry.savedTokens promptTokens ratio ∧ (entry.savedTokens promptTokens ratio : ℚ) ≤ 0.95 * promptTokens := by
  have tokens : (0 : ℚ) ≤ (min entry.sizeTokens promptTokens : ℤ) := by exact_mod_cast le_min weighed prompt
  have fewer : ((min entry.sizeTokens promptTokens : ℤ) : ℚ) ≤ promptTokens := by exact_mod_cast min_le_right _ _
  rw [savedTokens_eq_floor weighed prompt nonneg]
  constructor
  · exact Int.floor_nonneg.mpr (mul_nonneg tokens nonneg)
  · calc ((⌊((min entry.sizeTokens promptTokens : ℤ) : ℚ) * ratio⌋ : ℤ) : ℚ)
        ≤ ((min entry.sizeTokens promptTokens : ℤ) : ℚ) * ratio := Int.floor_le _
      _ ≤ promptTokens * 0.95 := mul_le_mul fewer most nonneg (by exact_mod_cast prompt)
      _ = 0.95 * promptTokens := mul_comm _ _

end CacheEntry

theorem estimateRequestMemoryGb_saved (request : InferenceRequest) {saved : ℤ} (nonneg : 0 ≤ saved)
    (most : (saved : ℚ) ≤ 0.95 * request.promptTokens) :
    1 < request.promptTokens + request.generationTokens - saved ∧
      0 < estimateRequestMemoryGb request.promptTokens request.generationTokens request.modelId saved ∧
      estimateRequestMemoryGb request.promptTokens request.generationTokens request.modelId saved ≤
        estimateRequestMemoryGb request.promptTokens request.generationTokens request.modelId 0 := by
  have prompt : (0 : ℚ) < request.promptTokens := by exact_mod_cast request.tokens_positive.1
  have generation := request.tokens_positive.2
  have below : saved < request.promptTokens := by
    have strict : (saved : ℚ) < request.promptTokens := by
      norm_num at most
      linarith
    exact_mod_cast strict
  have scale := modelScale_pos request.modelId
  refine ⟨by omega, estimateRequestMemoryGb_pos _ _ _ _, ?_⟩
  have tokens : ((max 1 (request.promptTokens + request.generationTokens - saved) : ℤ) : ℚ) ≤
      (max 1 (request.promptTokens + request.generationTokens - 0) : ℤ) := by
    exact_mod_cast max_le_max_left 1 (by omega)
  unfold estimateRequestMemoryGb
  dsimp only
  gcongr

/-- A saving of at most 0.95 of the prompt leaves the memory estimate what it is for. -/
theorem saving_within (request : InferenceRequest) {saved : ℤ} (nonneg : 0 ≤ saved)
    (most : (saved : ℚ) ≤ 0.95 * request.promptTokens) :
    0 ≤ saved ∧ (saved : ℚ) ≤ 0.95 * request.promptTokens ∧
      max 1 (request.promptTokens + request.generationTokens - saved) =
        request.promptTokens + request.generationTokens - saved ∧
      0 < estimateRequestMemoryGb request.promptTokens request.generationTokens request.modelId saved ∧
      estimateRequestMemoryGb request.promptTokens request.generationTokens request.modelId saved ≤
        estimateRequestMemoryGb request.promptTokens request.generationTokens request.modelId 0 := by
  obtain ⟨idle, estimate, lower⟩ := estimateRequestMemoryGb_saved request nonneg most
  exact ⟨nonneg, most, max_eq_right idle.le, estimate, lower⟩

namespace KVCacheDirectory

def bestRatio (directory : KVCacheDirectory) (request : InferenceRequest) (clusterId poolId : String) (now : ℚ) : ℚ :=
  (((directory.visible (cacheKey request) now).map
    (fun entry => entry.hitRatio directory.ttlS clusterId poolId now)).max?).getD 0

theorem credited_visible {directory : KVCacheDirectory} {request : InferenceRequest} {clusterId poolId : String}
    {now : ℚ} :
    credited directory.ttlS clusterId poolId now (directory.visible (cacheKey request) now) =
      (directory.visible (cacheKey request) now).argmax
        (fun entry => entry.hitRatio directory.ttlS clusterId poolId now) := by
  have shown : (directory.visible (cacheKey request) now).filter (fun entry => entry.availableTs ≤ now) =
      directory.visible (cacheKey request) now := by
    apply List.filter_eq_self.mpr
    intro entry member
    have visible : directory.Visible now entry := of_decide_eq_true (List.mem_filter.mp member).2
    exact decide_eq_true visible.2
  rw [credited, shown]

theorem bestRatio_eq {directory : KVCacheDirectory} {request : InferenceRequest} {clusterId poolId : String}
    {now : ℚ} {entry : CacheEntry}
    (leads : (directory.visible (cacheKey request) now).argmax
      (fun entry => entry.hitRatio directory.ttlS clusterId poolId now) = some entry) :
    directory.bestRatio request clusterId poolId now = entry.hitRatio directory.ttlS clusterId poolId now := by
  have greatest : ((directory.visible (cacheKey request) now).map
      (fun entry => entry.hitRatio directory.ttlS clusterId poolId now)).max? =
        some (entry.hitRatio directory.ttlS clusterId poolId now) := by
    apply List.max?_eq_some_iff.mpr
    apply And.intro (List.mem_map_of_mem (List.argmax_mem leads))
    intro ratio member
    obtain ⟨other, inside, rfl⟩ := List.mem_map.mp member
    have below := List.le_of_mem_argmax inside leads
    exact below
  rw [bestRatio, greatest, Option.getD_some]

theorem visible_freshness {directory : KVCacheDirectory} (valid : BucketsValid directory.entries) {ttlS : ℚ}
    (positive : 0 < ttlS) {key : String} {now : ℚ} {entry : CacheEntry} (member : entry ∈ directory.visible key now) :
    0.1 ≤ entry.freshness ttlS now ∧ entry.freshness ttlS now ≤ 1 := by
  obtain ⟨inside, visible⟩ := List.mem_filter.mp member
  have available : entry.availableTs ≤ now := (of_decide_eq_true visible).2
  have timed : entry.availableTs = entry.lastTouched := by
    rcases valid.lookup key with empty | bucket
    · rw [KVCacheDirectory.bucket, empty] at inside
      cases inside
    · exact bucket.timed entry inside
  rw [timed] at available
  exact CacheEntry.freshness_bounds positive available

/-- A score without Redis reports the best of the visible entries of the key, with a saving that stays
    within the prompt and the memory estimate. -/
theorem score_best_visible (ttlS : ℚ) (positive : 0 < ttlS) (maxEntries : ℤ) (redisStore : RedisStore)
    (disabled : redisStore.enabled = false) (calls : List DirectoryCall) (request : InferenceRequest)
    (clusterId poolId : String) (now : ℚ) :
    let directory := (create ttlS maxEntries redisStore).afterAll calls
    let shown := directory.visible (cacheKey request) now
    let ratio := directory.bestRatio request clusterId poolId now
    ∃ saved final, score request clusterId poolId now directory = .ok (roundTo 4 ratio, saved) final ∧
      (∀ entry ∈ shown, 0.1 ≤ entry.freshness ttlS now ∧ entry.freshness ttlS now ≤ 1) ∧
      (shown = [] → ratio = 0 ∧ saved = 0) ∧
      (shown ≠ [] → ∃ entry ∈ shown, entry.hitRatio ttlS clusterId poolId now = ratio ∧
        (∀ other ∈ shown, other.hitRatio ttlS clusterId poolId now ≤ ratio) ∧
        saved = ⌊((min entry.sizeTokens request.promptTokens : ℤ) : ℚ) * ratio⌋) ∧
      0 ≤ saved ∧ (saved : ℚ) ≤ 0.95 * request.promptTokens ∧
      max 1 (request.promptTokens + request.generationTokens - saved) =
        request.promptTokens + request.generationTokens - saved ∧
      0 < estimateRequestMemoryGb request.promptTokens request.generationTokens request.modelId saved ∧
      estimateRequestMemoryGb request.promptTokens request.generationTokens request.modelId saved ≤
        estimateRequestMemoryGb request.promptTokens request.generationTokens request.modelId 0 := by
  intro directory shown ratio
  have settings := afterAll_settings (create ttlS maxEntries redisStore) calls
  have off : directory.redisStore.enabled = false := settings.2.2.trans disabled
  have ttl : directory.ttlS = ttlS := settings.1
  have valid : BucketsValid directory.entries := bucketsValid_afterAll disabled calls
  have carries : Carries Weighed directory := by
    apply carries_afterAll recordable_weighed
    exact stored_disabled disabled _
  have prompt : 0 ≤ request.promptTokens := request.tokens_positive.1.le
  have fresh : ∀ entry ∈ shown, 0.1 ≤ entry.freshness ttlS now ∧ entry.freshness ttlS now ≤ 1 :=
    fun entry member => visible_freshness valid positive member
  have scored := score_visible directory request clusterId poolId now off
  obtain ⟨found, returned⟩ := @bestHit_returns directory.ttlS clusterId poolId request.promptTokens now
    (by rw [ttl]; exact positive.ne') shown (0, 0)
  have best := bestHit_credited returned
  rw [credited_visible] at best
  rw [returned] at scored
  cases leads : shown.argmax (fun entry => entry.hitRatio directory.ttlS clusterId poolId now) with
  | none =>
    have empty : shown = [] := List.argmax_eq_none.mp leads
    have zero : ratio = 0 := by
      simp only [ratio, bestRatio]
      rw [show directory.visible (cacheKey request) now = [] from empty]
      rfl
    rw [leads] at best
    rw [best] at scored
    have most : ((0 : ℤ) : ℚ) ≤ 0.95 * request.promptTokens := by
      have tokens : (0 : ℚ) ≤ request.promptTokens := by exact_mod_cast prompt
      push_cast
      positivity
    exact ⟨0, _, by rw [zero]; exact scored, fresh, fun _ => ⟨zero, rfl⟩, fun some => absurd empty some,
      saving_within request (le_refl 0) most⟩
  | some entry =>
    have member : entry ∈ shown := List.argmax_mem leads
    have attained : ratio = entry.hitRatio directory.ttlS clusterId poolId now := bestRatio_eq leads
    have weighed : 0 ≤ entry.sizeTokens := carries.held _ entry (List.mem_filter.mp member).1
    have bounds := entry.hitRatio_bounds directory.ttlS clusterId poolId now
    have cap := entry.hitRatio_le directory.ttlS clusterId poolId now
    obtain ⟨nonneg, most⟩ := CacheEntry.savedTokens_bounds weighed prompt bounds.1.le cap
    rw [leads] at best
    rw [best] at scored
    refine ⟨entry.savedTokens request.promptTokens (entry.hitRatio directory.ttlS clusterId poolId now), _,
      by rw [attained]; exact scored, fresh, fun empty => ?_, fun _ => ⟨entry, member, ?_, ?_, ?_⟩,
      saving_within request nonneg most⟩
    · rw [empty] at member
      cases member
    · rw [attained, ttl]
    · intro other inside
      have below := List.le_of_mem_argmax inside leads
      rw [attained, ← ttl]
      exact below
    · rw [attained]
      exact CacheEntry.savedTokens_eq_floor weighed prompt bounds.1.le

theorem score_best_visible_other_pool :
    let directory := (create 180 20000 (emptyStore false)).afterAll
      [.observe (sessionResult (sessionRequest 1000) "c1" "p1" 5)]
    ∃ saved final, score (sessionRequest 2000) "c1" "p2" 95 directory = .ok (0.35, saved) final ∧
      0 ≤ saved ∧ (saved : ℚ) ≤ 0.95 * 2000 := by
  intro directory
  have ratio : roundTo 4 (directory.bestRatio (sessionRequest 2000) "c1" "p2" 95) = 0.35 := by decide +kernel
  obtain ⟨saved, final, scored, _, _, _, nonneg, most, _⟩ := score_best_visible 180 (by norm_num) 20000
    (emptyStore false) rfl [.observe (sessionResult (sessionRequest 1000) "c1" "p1" 5)] (sessionRequest 2000) "c1"
    "p2" 95
  rw [show roundTo 4 _ = _ from ratio] at scored
  exact ⟨saved, final, scored, nonneg, most⟩

end KVCacheDirectory

end NimbusMesh
