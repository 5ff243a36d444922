import NimbusMesh.Cache.Visibility

namespace NimbusMesh.KVCacheDirectory

open Foundation Foundation.Decimal Foundation.Execution

def Visible (directory : KVCacheDirectory) (now : ℚ) (entry : CacheEntry) : Prop :=
  directory.Fresh now entry ∧ entry.availableTs ≤ now

instance (directory : KVCacheDirectory) (now : ℚ) (entry : CacheEntry) :
    Decidable (directory.Visible now entry) := inferInstanceAs (Decidable (_ ∧ _))

def visible (directory : KVCacheDirectory) (key : String) (now : ℚ) : List CacheEntry :=
  (directory.bucket key).filter (fun entry => directory.Visible now entry)

theorem bestHit_available (ttlS : ℚ) (clusterId poolId : String) (promptTokens : ℤ) (now : ℚ)
    (entries : List CacheEntry) (best : ℚ × ℤ) :
    bestHit ttlS clusterId poolId promptTokens now
        (entries.filter (fun entry => entry.availableTs ≤ now)) best =
      bestHit ttlS clusterId poolId promptTokens now entries best := by
  induction entries generalizing best with
  | nil => rfl
  | cons entry rest ih =>
    by_cases later : now < entry.availableTs
    · have hidden : ¬ entry.availableTs ≤ now := not_le_of_gt later
      simp only [hidden, decide_false, Bool.false_eq_true, not_false_eq_true, List.filter_cons_of_neg, ih,
        bestHit, later, if_true]
    · have shown : entry.availableTs ≤ now := le_of_not_gt later
      simp only [shown, decide_true, List.filter_cons_of_pos, bestHit, later, if_false, ih]

theorem le_hitRatio (entry : CacheEntry) (ttlS : ℚ) (clusterId poolId : String) (now : ℚ) :
    0.035 ≤ entry.hitRatio ttlS clusterId poolId now := by
  have fresh : (0.1 : ℚ) ≤ entry.freshness ttlS now := le_max_left _ _
  have bonus : (0.35 : ℚ) ≤ entry.locationBonus clusterId poolId := by
    unfold CacheEntry.locationBonus
    split_ifs <;> norm_num
  apply le_min (by norm_num)
  calc (0.035 : ℚ) = 0.1 * 0.35 := by norm_num
    _ ≤ entry.freshness ttlS now * entry.locationBonus clusterId poolId := by gcongr

theorem roundTo_hitRatio_pos (entry : CacheEntry) (ttlS : ℚ) (clusterId poolId : String) (now : ℚ) :
    0 < roundTo 4 (entry.hitRatio ttlS clusterId poolId now) := by
  calc (0 : ℚ) < roundTo 4 0.035 := by decide +kernel
    _ ≤ roundTo 4 (entry.hitRatio ttlS clusterId poolId now) := roundTo_mono 4 (le_hitRatio _ _ _ _ _)

section Best

variable {ttlS : ℚ} {clusterId poolId : String} {promptTokens : ℤ} {now : ℚ}

theorem bestHit_returns_iff (entries : List CacheEntry) (best : ℚ × ℤ) :
    (∃ found, bestHit ttlS clusterId poolId promptTokens now entries best = .ok found) ↔
      ttlS ≠ 0 ∨ ∀ entry ∈ entries, now < entry.availableTs := by
  induction entries generalizing best with
  | nil => simp [bestHit]
  | cons entry rest ih =>
    by_cases later : now < entry.availableTs
    · simp only [bestHit, later, if_true, ih, List.forall_mem_cons, true_and]
    · by_cases zero : ttlS = 0
      · simp [bestHit, later, zero]
      · simp only [bestHit, later, zero, if_false, ih]
        simp [zero]

theorem bestHit_returns (positive : ttlS ≠ 0) (entries : List CacheEntry) (best : ℚ × ℤ) :
    ∃ found, bestHit ttlS clusterId poolId promptTokens now entries best = .ok found :=
  (bestHit_returns_iff entries best).mpr (.inl positive)

theorem bestHit_zero_ttl (zero : ttlS = 0) {entries : List CacheEntry} {entry : CacheEntry}
    (member : entry ∈ entries) (available : entry.availableTs ≤ now) (best : ℚ × ℤ) :
    bestHit ttlS clusterId poolId promptTokens now entries best = .error .zeroDivisionError := by
  induction entries with
  | nil => cases member
  | cons first rest ih =>
    simp only [bestHit, zero, if_true]
    split
    · rename_i later
      rcases List.mem_cons.mp member with rfl | member
      · exact absurd available (not_le_of_gt later)
      · rw [← zero]
        exact ih member
    · rfl

theorem le_bestHit {entries : List CacheEntry} {best found : ℚ × ℤ}
    (returned : bestHit ttlS clusterId poolId promptTokens now entries best = .ok found) :
    best.1 ≤ found.1 ∧ ∀ entry ∈ entries, entry.availableTs ≤ now →
      entry.hitRatio ttlS clusterId poolId now ≤ found.1 := by
  induction entries generalizing best with
  | nil =>
    cases returned
    exact ⟨le_refl _, by simp⟩
  | cons first rest ih =>
    simp only [bestHit] at returned
    split at returned
    · rename_i later
      obtain ⟨above, others⟩ := ih returned
      refine ⟨above, fun entry member available => ?_⟩
      rcases List.mem_cons.mp member with rfl | member
      · exact absurd available (not_le_of_gt later)
      · exact others entry member available
    · split at returned
      · cases returned
      · obtain ⟨above, others⟩ := ih returned
        refine ⟨?_, fun entry member available => ?_⟩
        · split at above
          · rename_i beaten
            exact beaten.le.trans above
          · exact above
        · rcases List.mem_cons.mp member with rfl | member
          · split at above
            · exact above
            · rename_i unbeaten
              exact (le_of_not_gt unbeaten).trans above
          · exact others entry member available

theorem bestHit_absorbs {entries : List CacheEntry} {entry : CacheEntry} (member : entry ∈ entries)
    (available : entry.availableTs ≤ now) {best other : ℚ × ℤ}
    (beaten : best.1 < entry.hitRatio ttlS clusterId poolId now)
    (beatenToo : other.1 < entry.hitRatio ttlS clusterId poolId now) :
    bestHit ttlS clusterId poolId promptTokens now entries best =
      bestHit ttlS clusterId poolId promptTokens now entries other := by
  induction entries generalizing best other with
  | nil => cases member
  | cons first rest ih =>
    simp only [bestHit]
    split
    · rename_i later
      rcases List.mem_cons.mp member with rfl | member
      · exact absurd available (not_le_of_gt later)
      · exact ih member beaten beatenToo
    · split
      · rfl
      · rcases List.mem_cons.mp member with rfl | member
        · simp only [beaten, beatenToo, if_true]
        · by_cases above : first.hitRatio ttlS clusterId poolId now < entry.hitRatio ttlS clusterId poolId now
          · apply ih member
            · split <;> assumption
            · split <;> assumption
          · have below := le_of_not_gt above
            simp only [beaten.trans_le below, beatenToo.trans_le below, if_true]

theorem bestHit_without (positive : ttlS ≠ 0) {front back : List CacheEntry} {old : CacheEntry}
    (available : old.availableTs ≤ now)
    {best : ℚ × ℤ} (beaten : old.hitRatio ttlS clusterId poolId now < best.1 ∨
      ∃ other ∈ front ++ back, other.availableTs ≤ now ∧
        old.hitRatio ttlS clusterId poolId now < other.hitRatio ttlS clusterId poolId now) :
    bestHit ttlS clusterId poolId promptTokens now (front ++ old :: back) best =
      bestHit ttlS clusterId poolId promptTokens now (front ++ back) best := by
  induction front generalizing best with
  | nil =>
    have counted : ¬ now < old.availableTs := not_lt_of_ge available
    simp only [List.nil_append, bestHit, counted, positive, if_false]
    split
    · rename_i below
      -- the old entry leads for a while, until the entry that beats it comes up
      rcases beaten with already | ⟨other, member, availableToo, above⟩
      · exact absurd below (not_lt_of_gt already)
      · exact bestHit_absorbs member availableToo above (below.trans above)
    · rfl
  | cons first rest ih =>
    simp only [List.cons_append, bestHit, positive, if_false]
    split
    · rename_i later
      apply ih
      rcases beaten with already | ⟨other, member, availableToo, above⟩
      · exact .inl already
      · rcases List.mem_cons.mp member with rfl | member
        · exact absurd availableToo (not_le_of_gt later)
        · exact .inr ⟨other, member, availableToo, above⟩
    · apply ih
      rcases beaten with already | ⟨other, member, availableToo, above⟩
      · refine .inl ?_
        split
        · rename_i raised
          exact already.trans raised
        · exact already
      · rcases List.mem_cons.mp member with rfl | member
        · refine .inl ?_
          split
          · exact above
          · rename_i unraised
            exact above.trans_le (le_of_not_gt unraised)
        · exact .inr ⟨other, member, availableToo, above⟩

end Best

theorem score_visible (directory : KVCacheDirectory) (request : InferenceRequest)
    (clusterId poolId : String) (now : ℚ) (disabled : directory.redisStore.enabled = false) :
    score request clusterId poolId now directory =
      match bestHit directory.ttlS clusterId poolId request.promptTokens now
          (directory.visible (cacheKey request) now) (0, 0) with
      | .error raised => .error raised (directory.evictStale now)
      | .ok best => .ok (roundTo 4 best.1, best.2) (directory.evictStale now) := by
  have same : directory.visible (cacheKey request) now =
      ((directory.evictStale now).bucket (cacheKey request)).filter (fun entry => entry.availableTs ≤ now) := by
    rw [bucket_evictStale, List.filter_filter]
    apply List.filter_congr
    intro entry _
    rw [← Bool.decide_and]
    exact decide_eq_decide.mpr And.comm
  simp only [score, prepareScore_disabled _ _ _ disabled, same, bestHit_available]
  rfl

def takenOver (directory : KVCacheDirectory) (result : RequestResult) : Option CacheEntry :=
  (directory.bucket (cacheKey result.request)).find?
    (fun entry => entry.At result.decision.clusterId result.decision.poolId)

theorem mergeResult_visible (directory : KVCacheDirectory) (key : String) (result : RequestResult)
    (now : ℚ) (running : now < result.completionTs) (entries : List CacheEntry) :
    (mergeResult key result entries).filter (fun entry => directory.Visible now entry) =
      ((entries.find? (fun entry => entry.At result.decision.clusterId result.decision.poolId)).elim
        entries entries.erase).filter (fun entry => directory.Visible now entry) := by
  have later : ¬ result.completionTs ≤ now := not_le_of_gt running
  induction entries with
  | nil => simp [mergeResult, created, Visible, later]
  | cons entry rest ih =>
    by_cases located : entry.At result.decision.clusterId result.decision.poolId
    · simp [mergeResult, located, touched, Visible, later]
    · simp only [mergeResult, located, if_false, List.find?_cons, decide_false]
      cases found : rest.find? (fun entry => entry.At result.decision.clusterId result.decision.poolId) with
      | none => simp only [List.filter_cons, ih, found, Option.elim_none]
      | some old =>
        have differ : entry ≠ old := by
          rintro rfl
          exact located (by simpa using List.find?_some found)
        have kept : (entry :: rest).erase old = entry :: rest.erase old :=
          List.erase_cons_tail (by simpa using differ)
        simp only [List.filter_cons, ih, found, Option.elim_some, kept]

structure WithinLimits (directory : KVCacheDirectory) (result : RequestResult) : Prop where
  bucket : (mergeResult (cacheKey result.request) result
    (directory.bucket (cacheKey result.request))).length ≤ 4
  total : ((directory.recorded result).totalEntries : ℤ) ≤ directory.maxEntries

theorem observe_within_limits (directory : KVCacheDirectory) (result : RequestResult)
    (disabled : directory.redisStore.enabled = false) (admitted : result.admitted = true)
    (within : directory.WithinLimits result) :
    observe result directory = .ok () (directory.recorded result) := by
  have store : (directory.recorded result).redisStore.enabled = false := disabled
  have limit : (directory.recorded result).maxEntries = directory.maxEntries := rfl
  have persisted : persistToRedis (cacheKey result.request) (directory.recorded result) =
      .ok () (directory.recorded result) := by
    simp [persistToRedis, RedisStore.writeCacheAffinity, store]
  simp only [observe, admitted, if_true, persisted, trim, limit, within.total]

theorem visible_recorded_other (directory : KVCacheDirectory) (result : RequestResult) {key : String}
    (differ : cacheKey result.request ≠ key) (now : ℚ) :
    (directory.recorded result).visible key now = directory.visible key now := by
  have sameVisible : ∀ entry, (directory.recorded result).Visible now entry ↔ directory.Visible now entry :=
    fun _ => Iff.rfl
  simp only [visible, sameVisible, bucket_recorded, differ, if_false]

theorem visible_recorded_same (directory : KVCacheDirectory) (result : RequestResult) (now : ℚ)
    (within : directory.WithinLimits result) (running : now < result.completionTs) :
    (directory.recorded result).visible (cacheKey result.request) now =
      ((directory.takenOver result).elim (directory.bucket (cacheKey result.request))
        (directory.bucket (cacheKey result.request)).erase).filter
          (fun entry => directory.Visible now entry) := by
  have sameVisible : ∀ entry, (directory.recorded result).Visible now entry ↔ directory.Visible now entry :=
    fun _ => Iff.rfl
  have uncapped : ¬ 4 < (mergeResult (cacheKey result.request) result
      (directory.bucket (cacheKey result.request))).length := by
    have room := within.bucket
    omega
  simp only [visible, sameVisible, bucket_recorded, if_true, capBucket, uncapped, if_false]
  exact mergeResult_visible directory _ result now running _

theorem erase_visible (directory : KVCacheDirectory) (now : ℚ) {entries : List CacheEntry} {old : CacheEntry}
    (member : old ∈ entries) :
    ∃ front back, entries.filter (fun entry => directory.Visible now entry) =
        front ++ (if directory.Visible now old then [old] else []) ++ back ∧
      (entries.erase old).filter (fun entry => directory.Visible now entry) = front ++ back := by
  obtain ⟨front, back, _, split, erased⟩ := List.exists_erase_eq member
  refine ⟨front.filter (fun entry => directory.Visible now entry),
    back.filter (fun entry => directory.Visible now entry), ?_, ?_⟩
  · by_cases shown : directory.Visible now old <;> simp [split, shown]
  · rw [erased, List.filter_append]

theorem visible_recorded_shown {directory : KVCacheDirectory} {result : RequestResult} {now : ℚ}
    (within : directory.WithinLimits result) (running : now < result.completionTs) {old : CacheEntry}
    (taken : old ∈ directory.takenOver result) (shown : directory.Visible now old) :
    ∃ front back, directory.visible (cacheKey result.request) now = front ++ old :: back ∧
      (directory.recorded result).visible (cacheKey result.request) now = front ++ back ∧
      ∀ other, other ∈ front ++ back ↔
        other ∈ (directory.bucket (cacheKey result.request)).erase old ∧ directory.Visible now other := by
  obtain ⟨front, back, before, after⟩ := erase_visible directory now (List.mem_of_find?_eq_some taken)
  refine ⟨front, back, by simpa [visible, shown] using before, ?_, ?_⟩
  · rw [visible_recorded_same directory result now within running, Option.mem_def.mp taken]
    exact after
  · intro other
    rw [← after, List.mem_filter, decide_eq_true_iff]

theorem visible_recorded_unseen {directory : KVCacheDirectory} {result : RequestResult} {key : String}
    {now : ℚ} (within : directory.WithinLimits result) (running : now < result.completionTs)
    (unseen : cacheKey result.request = key → ∀ old ∈ directory.takenOver result, ¬ directory.Visible now old) :
    (directory.recorded result).visible key now = directory.visible key now := by
  by_cases same : cacheKey result.request = key
  · subst same
    rw [visible_recorded_same directory result now within running]
    cases taken : directory.takenOver result with
    | none => rfl
    | some old =>
      obtain ⟨front, back, before, after⟩ := erase_visible directory now (List.mem_of_find?_eq_some taken)
      exact after.trans (by simpa [visible, unseen rfl old taken] using before.symm)
  · exact visible_recorded_other directory result same now

def KeepsScore (before after : KVCacheDirectory) (request : InferenceRequest) (clusterId poolId : String)
    (now : ℚ) : Prop :=
  ∀ ratio saved final, score request clusterId poolId now before = .ok (ratio, saved) final →
    ∃ ratio' saved' final', score request clusterId poolId now after = .ok (ratio', saved') final' ∧
      ratio ≤ ratio' ∧ saved ≤ saved'

/-- Whatever visible entry of the request's key the result takes over, another visible entry does
    better at the location asked for. -/
def Covered (better : ℚ → ℚ → Prop) (directory : KVCacheDirectory) (result : RequestResult)
    (request : InferenceRequest) (clusterId poolId : String) (now : ℚ) : Prop :=
  cacheKey result.request = cacheKey request →
    ∀ old ∈ directory.takenOver result, directory.Visible now old →
      ∃ other ∈ (directory.bucket (cacheKey request)).erase old, directory.Visible now other ∧
        better (old.hitRatio directory.ttlS clusterId poolId now)
          (other.hitRatio directory.ttlS clusterId poolId now)

theorem keepsScore_of_bestHit {before after : KVCacheDirectory} {request : InferenceRequest}
    (disabled : before.redisStore.enabled = false) (disabledToo : after.redisStore.enabled = false)
    (ttl : after.ttlS = before.ttlS) (clusterId poolId : String) (now : ℚ)
    (same : bestHit before.ttlS clusterId poolId request.promptTokens now
        (after.visible (cacheKey request) now) (0, 0) =
      bestHit before.ttlS clusterId poolId request.promptTokens now
        (before.visible (cacheKey request) now) (0, 0)) :
    KeepsScore before after request clusterId poolId now := by
  intro ratio saved final scored
  rw [score_visible _ _ _ _ _ disabled] at scored
  rw [score_visible _ _ _ _ _ disabledToo, ttl, same]
  split at scored
  · cases scored
  · cases scored
    exact ⟨_, _, _, rfl, le_refl _, le_refl _⟩

section Recorded

variable {directory : KVCacheDirectory} {result : RequestResult} {request : InferenceRequest}
  {clusterId poolId : String} {now : ℚ}

theorem keepsScore_recorded (disabled : directory.redisStore.enabled = false)
    (within : directory.WithinLimits result) (running : now < result.completionTs)
    (covered : directory.Covered (· < ·) result request clusterId poolId now) :
    KeepsScore directory (directory.recorded result) request clusterId poolId now := by
  have off : (directory.recorded result).redisStore.enabled = false := disabled
  apply keepsScore_of_bestHit disabled off rfl
  by_cases hides : cacheKey result.request = cacheKey request ∧
      ∃ old ∈ directory.takenOver result, directory.Visible now old
  · obtain ⟨same, old, taken, shown⟩ := hides
    obtain ⟨other, member, shownToo, above⟩ := covered same old taken shown
    obtain ⟨front, back, before, after, others⟩ := visible_recorded_shown within running taken shown
    rw [same] at before after others
    have present : other ∈ front ++ back := (others other).mpr ⟨member, shownToo⟩
    rw [before, after]
    by_cases zero : directory.ttlS = 0
    · rw [bestHit_zero_ttl zero present shownToo.2,
        bestHit_zero_ttl zero (List.mem_append_cons_self : old ∈ front ++ old :: back) shown.2]
    · exact (bestHit_without zero shown.2 (.inr ⟨other, present, shownToo.2, above⟩)).symm
  · have unseen : cacheKey result.request = cacheKey request →
        ∀ old ∈ directory.takenOver result, ¬ directory.Visible now old :=
      fun same old taken shown => hides ⟨same, old, taken, shown⟩
    rw [visible_recorded_unseen within running unseen]

theorem covered_of_keepsScore (disabled : directory.redisStore.enabled = false)
    (within : directory.WithinLimits result) (running : now < result.completionTs)
    (positive : directory.ttlS ≠ 0)
    (keeps : KeepsScore directory (directory.recorded result) request clusterId poolId now) :
    directory.Covered (fun old other => roundTo 4 old ≤ roundTo 4 other) result request clusterId poolId now := by
  have off : (directory.recorded result).redisStore.enabled = false := disabled
  intro same old taken shown
  obtain ⟨front, back, before, after, others⟩ := visible_recorded_shown within running taken shown
  rw [same] at before after others
  obtain ⟨best, found⟩ : ∃ best, bestHit directory.ttlS clusterId poolId request.promptTokens now
      (directory.visible (cacheKey request) now) (0, 0) = .ok best := bestHit_returns positive _ _
  have scored : score request clusterId poolId now directory =
      .ok (roundTo 4 best.1, best.2) (directory.evictStale now) := by
    rw [score_visible _ _ _ _ _ disabled, found]
  have leads : roundTo 4 (old.hitRatio directory.ttlS clusterId poolId now) ≤ roundTo 4 best.1 :=
    roundTo_mono 4 ((le_bestHit found).2 old (by simp [before]) shown.2)
  obtain ⟨ratio, saved, final, rescored, larger, _⟩ := keeps _ _ _ scored
  rw [score_visible _ _ _ _ _ off] at rescored
  split at rescored
  · cases rescored
  · rename_i left returned
    cases rescored
    rcases bestHit_cases returned with rfl | ⟨other, member, _, rfl⟩
    · -- with nothing else in sight the score is zero, and a hit never rounds to zero
      have hit := roundTo_hitRatio_pos old directory.ttlS clusterId poolId now
      have none := leads.trans larger
      rw [roundTo_zero] at none
      exact absurd hit (not_lt_of_ge none)
    · rw [after] at member
      obtain ⟨present, shownToo⟩ := (others other).mp member
      exact ⟨other, present, shownToo, leads.trans larger⟩

end Recorded

/-- Recording a placement keeps a score while the request runs if another entry serves the score
    better than the one taken over, and only if another entry serves it as well. -/
theorem observe_keeps_score (directory : KVCacheDirectory)
    (disabled : directory.redisStore.enabled = false) (result : RequestResult)
    (admitted : result.admitted = true) (within : directory.WithinLimits result)
    (request : InferenceRequest) (clusterId poolId : String) (now : ℚ)
    (running : now < result.completionTs) :
    (directory.Covered (· < ·) result request clusterId poolId now →
      KeepsScore directory (stateAfter (observe result) directory) request clusterId poolId now) ∧
    (directory.ttlS ≠ 0 →
      KeepsScore directory (stateAfter (observe result) directory) request clusterId poolId now →
      directory.Covered (fun old other => roundTo 4 old ≤ roundTo 4 other) result request clusterId poolId now) := by
  rw [stateAfter_ok (observe_within_limits directory result disabled admitted within)]
  exact ⟨keepsScore_recorded disabled within running, covered_of_keepsScore disabled within running⟩

theorem observe_keeps_score_elsewhere :
    let onFirst := sessionResult (sessionRequest 1000) "c1" "p1" 10
    let onSecond := sessionResult (sessionRequest 1000) "c1" "p2" 20
    let warm := (create 180 20000 (emptyStore false)).afterAll [.observe onFirst, .observe onSecond]
    let running := sessionResult (sessionRequest 1000) "c1" "p1" 40
    valueOf (score (sessionRequest 1000) "c1" "p2" 30 warm) = some (0.9444, 944) ∧
      KeepsScore warm (stateAfter (observe running) warm) (sessionRequest 1000) "c1" "p2" 30 := by
  intro onFirst onSecond warm running
  let key := cacheKey (sessionRequest 1000)
  have taken : warm.takenOver running = some (created key onFirst) := by decide +kernel
  have covered : warm.Covered (· < ·) running (sessionRequest 1000) "c1" "p2" 30 := by
    intro _ old isTaken _
    rw [taken, Option.mem_some_iff] at isTaken
    subst isTaken
    exact ⟨created key onSecond, by decide +kernel, by decide +kernel, by decide +kernel⟩
  exact ⟨by decide +kernel, (observe_keeps_score warm (by decide +kernel) running rfl
    ⟨by decide +kernel, by decide +kernel⟩ _ _ _ _ (by decide +kernel)).1 covered⟩

/-- The prefix of a request that finished at 10 is warm at 25. A second request on the same pool
    that runs until 30 hides it. -/
theorem observe_hides_warm_prefix :
    let warm := (create 180 20000 (emptyStore false)).afterAll
      [.observe (sessionResult (sessionRequest 1000) "c1" "p1" 10)]
    let running := sessionResult (sessionRequest 1000) "c1" "p1" 30
    warm.WithinLimits running ∧ running.admitted = true ∧ (20 : ℚ) ≤ 25 ∧ 25 < running.completionTs ∧
      valueOf (score (sessionRequest 1000) "c1" "p1" 25 warm) = some (0.9167, 916) ∧
      valueOf (score (sessionRequest 1000) "c1" "p1" 25 (stateAfter (observe running) warm)) =
        some (0, 0) ∧
      ¬ KeepsScore warm (stateAfter (observe running) warm) (sessionRequest 1000) "c1" "p1" 25 := by
  intro warm running
  have before : valueOf (score (sessionRequest 1000) "c1" "p1" 25 warm) = some (0.9167, 916) := by
    decide +kernel
  have after : valueOf (score (sessionRequest 1000) "c1" "p1" 25 (stateAfter (observe running) warm)) =
      some (0, 0) := by decide +kernel
  refine ⟨⟨by decide +kernel, by decide +kernel⟩, rfl, by decide +kernel, by decide +kernel, before, after, ?_⟩
  intro keeps
  obtain ⟨final, scored⟩ := valueOf_eq_some.mp before
  obtain ⟨ratio, saved, final', rescored, larger, _⟩ := keeps _ _ _ scored
  rw [rescored] at after
  cases after
  exact absurd larger (by decide +kernel)

end NimbusMesh.KVCacheDirectory
