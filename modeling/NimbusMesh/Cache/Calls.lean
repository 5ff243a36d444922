import Mathlib.Tactic.NormNum
import NimbusMesh.Cache.Buckets

namespace NimbusMesh

open Foundation Foundation.Decimal Foundation.Execution

inductive DirectoryCall where
  | observe (result : RequestResult)
  | score (request : InferenceRequest) (clusterId poolId : String) (now : ℚ)
  | reservedGb (clusterId poolId : String) (now : ℚ)
  | snapshot (now : ℚ)
  | evictStale (now : ℚ)

def sessionRequest (promptTokens : ℤ) (positive : 0 < promptTokens := by decide) : InferenceRequest where
  requestId := some "r1"
  tenantId := "tenant-a"
  modelId := "llama-3-8b"
  promptTokens
  generationTokens := 512
  arrivalTs := 0
  sessionId := some "s1"
  prefixSignature := "s1"
  tokens_positive := ⟨positive, by decide⟩
  arrival_nonneg := le_refl 0
  latency_positive := by norm_num

def sessionResult (request : InferenceRequest) (clusterId poolId : String) (completionTs : ℚ) :
    RequestResult where
  request
  decision := {
    requestId := request.requestId, policyName := "cache_aware", clusterId, poolId
    backendName := "mock", estimatedLatencyMs := 100, estimatedQueueDelayMs := 10
    estimatedCacheHitRatio := 0, topologyAffinity := 0.8, networkCost := 1
    acceleratorCostPer1mTokens := 1, fairnessPenalty := 0
    scoreBreakdown := {
      queueDelayMs := 10, cacheHitRatio := 0, topologyAffinity := 0.8, networkCost := 1
      congestionScore := 0, memoryHeadroomGb := 64, fairnessPenalty := 0 } }
  admitted := true
  actualStartTs := 0
  completionTs
  queueDelayMs := 10
  prefillLatencyMs := 50
  decodeLatencyMs := 40
  totalLatencyMs := 100
  cacheHitRatio := 0
  cacheSavedTokens := 0
  memoryGb := 4
  costUsd := 0.01
  energyProxy := 1
  networkCost := 1
  slaMet := true

def emptyStore (enabled : Bool) : RedisStore where
  enabled
  cacheAffinity := KeyedList.empty
  conversions := {
    render := fun _ => ""
    parseInt := String.toInt?
    parseFloat := fun text => text.toInt?.map (fun value => (value : ℚ)) }

namespace KVCacheDirectory

def create (ttlS : ℚ) (maxEntries : ℤ) (redisStore : RedisStore) : KVCacheDirectory :=
  { ttlS, maxEntries, entries := KeyedList.empty, redisStore }

def after (directory : KVCacheDirectory) : DirectoryCall → KVCacheDirectory
  | .observe result => stateAfter (observe result) directory
  | .score request clusterId poolId now => stateAfter (score request clusterId poolId now) directory
  | .reservedGb clusterId poolId now => (directory.reservedGb clusterId poolId now).1
  | .snapshot now => (directory.snapshot now).1
  | .evictStale now => directory.evictStale now

def afterAll (directory : KVCacheDirectory) (calls : List DirectoryCall) : KVCacheDirectory :=
  calls.foldl after directory

/-- Where an entry of a bucket can come from in one call: it was there, it is the one the
    observed result created or touched, or hydration loaded it. -/
theorem mem_bucket_after {directory : KVCacheDirectory} {call : DirectoryCall} {key : String}
    {entry : CacheEntry} (member : entry ∈ (directory.after call).bucket key) :
    (entry ∈ directory.bucket key) ∨
    (∃ result, call = .observe result ∧ result.admitted = true ∧ cacheKey result.request = key ∧
      (entry = created key result ∨
        ∃ old, (directory.bucket key).find?
            (fun e => e.At result.decision.clusterId result.decision.poolId) = some old ∧
          entry = touched old result)) ∨
    ∃ request clusterId poolId now first rest, call = .score request clusterId poolId now ∧
      cacheKey request = key ∧ (directory.evictStale now).bucket key = [] ∧
      directory.redisStore.storedEntries key = .ok (first :: rest) ∧ entry ∈ first :: rest := by
  have evicted : ∀ now, entry ∈ (directory.evictStale now).bucket key → entry ∈ directory.bucket key :=
    fun now kept => ((shrinks_evictStale directory now).buckets key).subset kept
  cases call with
  | observe result =>
    cases admitted : result.admitted with
    | false =>
      simp only [after, stateAfter, observe_rejected _ _ admitted] at member
      exact .inl member
    | true =>
      have kept := ((shrinks_observe directory result admitted).buckets key).subset member
      rw [bucket_recorded] at kept
      split at kept
      · rename_i same
        rcases mem_mergeResult (mem_capBucket kept) with old | new | ⟨old, found, same'⟩
        · exact .inl old
        · exact .inr (.inl ⟨result, rfl, admitted, same, .inl new⟩)
        · exact .inr (.inl ⟨result, rfl, admitted, same, .inr ⟨old, found, same'⟩⟩)
      · exact .inl kept
  | score request clusterId poolId now =>
    simp only [after, score_state] at member
    rcases prepareScore_cases directory request now with ⟨raised, outcome⟩ | outcome |
      ⟨first, rest, empty, loaded, outcome⟩
    · exact .inl (evicted now (by simpa [stateAfter, outcome] using member))
    · exact .inl (evicted now (by simpa [stateAfter, outcome] using member))
    · simp only [stateAfter, outcome, bucket_setBucket] at member
      split at member
      · rename_i same
        subst same
        exact .inr (.inr ⟨request, clusterId, poolId, now, first, rest, rfl, rfl, empty, loaded, member⟩)
      · exact .inl (evicted now member)
  | reservedGb clusterId poolId now => exact .inl (evicted now member)
  | snapshot now => exact .inl (evicted now member)
  | evictStale now => exact .inl (evicted now member)

theorem after_settings (directory : KVCacheDirectory) (call : DirectoryCall) :
    (directory.after call).ttlS = directory.ttlS ∧ (directory.after call).maxEntries = directory.maxEntries ∧
      (directory.after call).redisStore.enabled = directory.redisStore.enabled := by
  cases call with
  | observe result =>
    cases admitted : result.admitted with
    | false => simp [after, stateAfter, observe_rejected _ _ admitted]
    | true =>
      have shrinks := shrinks_observe directory result admitted
      exact ⟨shrinks.ttlS, shrinks.maxEntries, shrinks.enabled⟩
  | score request clusterId poolId now =>
    simp only [after, score_state]
    rcases prepareScore_cases directory request now with ⟨raised, outcome⟩ | outcome |
      ⟨first, rest, _, _, outcome⟩
    all_goals simp [stateAfter, outcome, evictStale, setBucket]
  | reservedGb clusterId poolId now => exact ⟨rfl, rfl, rfl⟩
  | snapshot now => exact ⟨rfl, rfl, rfl⟩
  | evictStale now => exact ⟨rfl, rfl, rfl⟩

theorem afterAll_settings (directory : KVCacheDirectory) (calls : List DirectoryCall) :
    (directory.afterAll calls).ttlS = directory.ttlS ∧ (directory.afterAll calls).maxEntries = directory.maxEntries ∧
      (directory.afterAll calls).redisStore.enabled = directory.redisStore.enabled := by
  induction calls generalizing directory with
  | nil => exact ⟨rfl, rfl, rfl⟩
  | cons call rest ih =>
    have first := after_settings directory call
    have later := ih (directory.after call)
    exact ⟨later.1.trans first.1, later.2.1.trans first.2.1, later.2.2.trans first.2.2⟩

end KVCacheDirectory

end NimbusMesh
