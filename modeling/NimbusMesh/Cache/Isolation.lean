import Mathlib.Data.Set.Basic
import NimbusMesh.Cache.Residency

namespace NimbusMesh

open Foundation Foundation.Decimal Foundation.Execution

def SameOwner (first second : InferenceRequest) : Prop :=
  first.tenantId = second.tenantId ∧ first.modelId = second.modelId

instance (first second : InferenceRequest) : Decidable (SameOwner first second) :=
  inferInstanceAs (Decidable (_ ∧ _))

def Isolated (requests : Set InferenceRequest) : Prop :=
  ∀ first ∈ requests, ∀ second ∈ requests, cacheKey first = cacheKey second → SameOwner first second

theorem field_inj {α : Type} {separator : α} {field field' rest rest' : List α}
    (absent : separator ∉ field) (absent' : separator ∉ field')
    (same : field ++ separator :: rest = field' ++ separator :: rest') : field = field' ∧ rest = rest' := by
  induction field generalizing field' with
  | nil =>
    cases field' with
    | nil => exact ⟨rfl, (List.cons.inj same).2⟩
    | cons first later =>
      have clash := (List.cons.inj same).1
      exact absurd (by simp [clash]) absent'
  | cons first later ih =>
    cases field' with
    | nil =>
      have clash := (List.cons.inj same).1
      exact absurd (by simp [clash]) absent
    | cons first' later' =>
      obtain ⟨rfl, tail⟩ := List.cons.inj same
      have parts := ih (fun member => absent (by simp [member])) (fun member => absent' (by simp [member])) tail
      exact ⟨by rw [parts.1], parts.2⟩

def SeparatorFree (request : InferenceRequest) : Prop :=
  ':' ∉ request.modelId.toList ∧ ':' ∉ request.tenantId.toList

theorem toList_cacheKey (request : InferenceRequest) :
    (cacheKey request).toList = request.modelId.toList ++
      ':' :: (request.tenantId.toList ++ ':' :: request.prefixSignature.toList) := by
  simp [cacheKey, String.toList_append]

theorem isolated_separatorFree : Isolated SeparatorFree := by
  intro first free second free' same
  have characters := congrArg String.toList same
  rw [toList_cacheKey, toList_cacheKey] at characters
  obtain ⟨models, rest⟩ := field_inj free.1 free'.1 characters
  obtain ⟨tenants, _⟩ := field_inj free.2 free'.2 rest
  exact ⟨String.toList_inj.mp tenants, String.toList_inj.mp models⟩

namespace KVCacheDirectory

theorem observed_of_mem {directory : KVCacheDirectory} (empty : ∀ key, directory.bucket key = [])
    (disabled : directory.redisStore.enabled = false) {calls : List DirectoryCall} {key : String}
    {entry : CacheEntry} (member : entry ∈ (directory.afterAll calls).bucket key) :
    ∃ result ∈ observedResults calls, cacheKey result.request = key := by
  induction calls using List.reverseRecOn generalizing entry with
  | nil =>
    rw [afterAll, List.foldl_nil, empty] at member
    cases member
  | append_singleton before call ih =>
    have off := (afterAll_settings directory before).2.2.trans disabled
    rw [afterAll, List.foldl_append] at member
    rcases mem_bucket_after member with kept | ⟨result, rfl, admitted, same, _⟩ |
      ⟨_, _, _, _, _, _, _, _, _, loaded, _⟩
    · obtain ⟨result, observed, keyed⟩ := ih kept
      exact ⟨result, observedResults_snoc before call observed, keyed⟩
    · exact ⟨result, by simp [observedResults, admitted], same⟩
    · have nothing := storedEntries_disabled off key
      rw [afterAll] at nothing
      rw [nothing] at loaded
      cases loaded

/-- A score that is not zero has a result of its own tenant and model behind it, and no other
    tenant or model wrote any of the entries it could count. -/
def KeepsApart (directory : KVCacheDirectory) (requests : Set InferenceRequest) : Prop :=
  ∀ calls : List DirectoryCall, (∀ result ∈ observedResults calls, result.request ∈ requests) →
    ∀ request ∈ requests, ∀ clusterId poolId now ratio saved final,
      score request clusterId poolId now (directory.afterAll calls) = .ok (ratio, saved) final →
      ((ratio, saved) ≠ (0, 0) → ∃ result ∈ observedResults calls, SameOwner result.request request) ∧
      ∀ entry ∈ final.bucket (cacheKey request), ∀ result ∈ observedResults calls,
        cacheKey result.request = cacheKey request →
        entry.At result.decision.clusterId result.decision.poolId → SameOwner result.request request

theorem keepsApart_of_isolated {ttlS : ℚ} {maxEntries : ℤ} {redisStore : RedisStore}
    (disabled : redisStore.enabled = false) {requests : Set InferenceRequest} (isolated : Isolated requests) :
    (create ttlS maxEntries redisStore).KeepsApart requests := by
  intro calls within request member clusterId poolId now ratio saved final scored
  obtain ⟨prepared, outcome⟩ := score_cases scored
  have off := (afterAll_settings (create ttlS maxEntries redisStore) calls).2.2.trans disabled
  rw [prepareScore_disabled _ _ _ off] at prepared
  cases prepared
  constructor
  · intro counted
    rcases outcome with ⟨rfl, rfl⟩ | ⟨entry, inside, _⟩
    · exact absurd rfl counted
    · have kept := ((shrinks_evictStale _ now).buckets _).subset inside
      obtain ⟨result, observed, same⟩ := observed_of_mem (fun _ => rfl) disabled kept
      exact ⟨result, observed, isolated _ (within result observed) request member same⟩
  · intro entry _ result observed same _
    exact isolated _ (within result observed) request member same

theorem score_after_observe {ttlS : ℚ} {maxEntries : ℤ} {redisStore : RedisStore}
    (disabled : redisStore.enabled = false) (positive : 0 < ttlS) (room : 1 ≤ maxEntries)
    {result : RequestResult} (admitted : result.admitted = true) {request : InferenceRequest}
    (same : cacheKey result.request = cacheKey request) :
    ∃ ratio saved final, score request result.decision.clusterId result.decision.poolId result.completionTs
        ((create ttlS maxEntries redisStore).afterAll [.observe result]) = .ok (ratio, saved) final ∧
      ratio ≠ 0 := by
  have recorded : (create ttlS maxEntries redisStore).afterAll [.observe result] =
      (create ttlS maxEntries redisStore).recorded result :=
    stateAfter_ok (observe_within_limits _ result disabled admitted ⟨Nat.le_of_ble_eq_true rfl, room⟩)
  have bucket : ((create ttlS maxEntries redisStore).recorded result).visible (cacheKey request)
      result.completionTs = [created (cacheKey request) result] := by
    have alone : ((create ttlS maxEntries redisStore).recorded result).bucket (cacheKey request) =
        [created (cacheKey request) result] := by
      rw [bucket_recorded, if_pos same]
      rfl
    have shown : ((create ttlS maxEntries redisStore).recorded result).Visible result.completionTs
        (created (cacheKey request) result) := by
      refine ⟨?_, le_refl _⟩
      change result.completionTs - result.completionTs ≤ ttlS
      linarith
    rw [visible, alone]
    exact List.filter_cons_of_pos (decide_eq_true shown)
  have ratio := (created (cacheKey request) result).hitRatio_bounds ttlS result.decision.clusterId
    result.decision.poolId result.completionTs
  have available : ¬ result.completionTs < (created (cacheKey request) result).availableTs := lt_irrefl _
  rw [recorded, score_visible _ _ _ _ _ disabled, bucket]
  have settings : ((create ttlS maxEntries redisStore).recorded result).ttlS = ttlS := rfl
  simp only [settings, bestHit, available, if_false, positive.ne', ratio.1, if_true]
  exact ⟨_, _, _, rfl, (roundTo_hitRatio_pos _ _ _ _ _).ne'⟩

/-- Without Redis the directory keeps tenants and models apart on the requests whose cache keys do
    not collide, and only on these: with a positive time to live and room for one entry, two
    colliding requests of different owners are enough to credit one with the other's prefix. -/
theorem tenants_kept_apart_iff (ttlS : ℚ) (maxEntries : ℤ) (redisStore : RedisStore)
    (disabled : redisStore.enabled = false) (requests : Set InferenceRequest) :
    (Isolated requests → (create ttlS maxEntries redisStore).KeepsApart requests) ∧
      (0 < ttlS → 1 ≤ maxEntries → (create ttlS maxEntries redisStore).KeepsApart requests →
        Isolated requests) := by
  refine ⟨keepsApart_of_isolated disabled, ?_⟩
  intro positive room apart first member second memberToo same
  obtain ⟨ratio, saved, final, scored, nonzero⟩ := @score_after_observe ttlS maxEntries redisStore disabled
    positive room (sessionResult first "c1" "p1" 0) rfl second same
  have within : ∀ result ∈ observedResults [.observe (sessionResult first "c1" "p1" 0)],
      result.request ∈ requests := by
    intro result observed
    rw [List.mem_singleton.mp observed]
    exact member
  obtain ⟨result, observed, owner⟩ := (apart _ within second memberToo _ _ _ ratio saved final scored).1
    (fun zero => nonzero (Prod.mk.inj zero).1)
  rw [List.mem_singleton.mp observed] at owner
  exact owner

theorem tenants_kept_apart_without_separators :
    Isolated SeparatorFree ∧ (create 180 20000 (emptyStore false)).KeepsApart SeparatorFree := by
  have apart := tenants_kept_apart_iff 180 20000 (emptyStore false) rfl SeparatorFree
  exact ⟨isolated_separatorFree, apart.1 isolated_separatorFree⟩

def ownedRequest (modelId tenantId : String) : InferenceRequest :=
  { sessionRequest 500 with modelId, tenantId }

/-- Model "a" of tenant "b:c" and model "a:b" of tenant "c" share their cache key, and the second
    is credited with the prefix of the first. -/
theorem tenant_credited_with_other_prefix :
    let calls : List DirectoryCall := [.observe (sessionResult (ownedRequest "a" "b:c") "c1" "p1" 5)]
    valueOf (score (ownedRequest "a:b" "c") "c1" "p1" 10
        ((create 180 20000 (emptyStore false)).afterAll calls)) = some (0.95, 475) ∧
      ∀ result ∈ observedResults calls, ¬ SameOwner result.request (ownedRequest "a:b" "c") := by
  decide +kernel

end KVCacheDirectory

end NimbusMesh
