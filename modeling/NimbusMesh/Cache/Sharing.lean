import Mathlib.Data.List.Dedup
import NimbusMesh.Cache.Agreement
import NimbusMesh.Cache.Hydration
import NimbusMesh.Cache.Representation

namespace NimbusMesh

open Foundation Foundation.Execution

namespace KVCacheDirectory

/-- What a call does before it reaches Redis. -/
def start (directory : KVCacheDirectory) : DirectoryCall → KVCacheDirectory
  | .observe result => if result.admitted then directory.recorded result else directory
  | .score _ _ _ now => directory.evictStale now
  | .reservedGb _ _ now => directory.evictStale now
  | .snapshot now => directory.evictStale now
  | .evictStale now => directory.evictStale now

/-- The one Redis command a call may send, and what the call does after it. -/
def finish (directory : KVCacheDirectory) : DirectoryCall → KVCacheDirectory
  | .observe result =>
    if result.admitted then
      match persistToRedis (cacheKey result.request) directory with
      | .error _ persisted => persisted
      | .ok _ persisted => stateAfter trim persisted
    else directory
  | .score request _ _ _ =>
    if directory.bucket (cacheKey request) = [] then stateAfter (hydrateFromRedis request) directory
    else directory
  | _ => directory

theorem finish_start (directory : KVCacheDirectory) (call : DirectoryCall) :
    (directory.start call).finish call = directory.after call := by
  cases call with
  | observe result =>
    cases admitted : result.admitted with
    | false => simp [start, finish, after, stateAfter, admitted]
    | true =>
      simp only [start, finish, after, stateAfter, observe, admitted, if_true]
      cases persistToRedis (cacheKey result.request) (directory.recorded result) <;> rfl
  | score request clusterId poolId now =>
    change (directory.evictStale now).finish (.score request clusterId poolId now) = _
    rw [after, score_state]
    simp only [finish, stateAfter, prepareScore]
    by_cases empty : (directory.evictStale now).bucket (cacheKey request) = []
    · rw [if_pos empty, if_pos empty]
    · rw [if_neg empty, if_neg empty]
  | reservedGb clusterId poolId now => rfl
  | snapshot now => rfl
  | evictStale now => rfl

theorem finish_observe {directory : KVCacheDirectory} {result : RequestResult}
    (admitted : result.admitted = true) (enabled : directory.redisStore.enabled = true)
    (reachable : directory.redisStore.hsetFault = none) :
    (directory.finish (.observe result)).redisStore = directory.redisStore.persisted
        (cacheKey result.request) (directory.bucket (cacheKey result.request)) ∧
      ∀ key, ((directory.finish (.observe result)).bucket key).Sublist (directory.bucket key) := by
  have persists : persistToRedis (cacheKey result.request) directory = .ok () (directory.withStore
      (directory.redisStore.persisted (cacheKey result.request) (directory.bucket (cacheKey result.request)))) := by
    simp [persistToRedis, RedisStore.writeCacheAffinity, enabled, reachable, RedisStore.persisted, document,
      withStore]
  simp only [finish, admitted, if_true, persists]
  constructor
  · rcases trim_cases (directory.withStore (directory.redisStore.persisted (cacheKey result.request)
      (directory.bucket (cacheKey result.request)))) with same | ⟨_, _, trimmed⟩
    · rw [same]
      rfl
    · rw [trimmed]
      rfl
  · exact fun key => (shrinks_trim _).buckets key

theorem finish_other {directory : KVCacheDirectory} {call : DirectoryCall}
    (unobserved : observedResults [call] = []) :
    (directory.finish call).redisStore = directory.redisStore ∧
      ∀ key, (directory.finish call).bucket key = directory.bucket key ∨
        directory.redisStore.storedEntries key = .ok ((directory.finish call).bucket key) := by
  cases call with
  | observe result =>
    cases admitted : result.admitted with
    | false => simp [finish, admitted]
    | true => simp [observedResults, admitted] at unobserved
  | score request clusterId poolId now =>
    simp only [finish, stateAfter, hydrateFromRedis]
    by_cases empty : directory.bucket (cacheKey request) = []
    · rw [if_pos empty]
      cases loaded : directory.redisStore.storedEntries (cacheKey request) with
      | error raised => exact ⟨rfl, fun _ => .inl rfl⟩
      | ok entries =>
        cases entries with
        | nil => exact ⟨rfl, fun _ => .inl rfl⟩
        | cons entry rest =>
          refine ⟨rfl, fun key => ?_⟩
          rw [bucket_setBucket]
          split
          · rename_i same
            exact .inr (same ▸ loaded)
          · exact .inl rfl
    · rw [if_neg empty]
      exact ⟨rfl, fun _ => .inl rfl⟩
  | reservedGb clusterId poolId now => exact ⟨rfl, fun _ => .inl rfl⟩
  | snapshot now => exact ⟨rfl, fun _ => .inl rfl⟩
  | evictStale now => exact ⟨rfl, fun _ => .inl rfl⟩

theorem observed_cases (call : DirectoryCall) :
    observedResults [call] = [] ∨
      ∃ result, call = .observe result ∧ result.admitted = true ∧ observedResults [call] = [result] := by
  cases call with
  | observe result =>
    cases admitted : result.admitted with
    | false => exact .inl (by simp [observedResults, admitted])
    | true => exact .inr ⟨result, rfl, admitted, by simp [observedResults, admitted]⟩
  | score request clusterId poolId now => exact .inl rfl
  | reservedGb clusterId poolId now => exact .inl rfl
  | snapshot now => exact .inl rfl
  | evictStale now => exact .inl rfl

theorem start_cases (directory : KVCacheDirectory) (call : DirectoryCall) (key : String) :
    ((∀ result ∈ observedResults [call], cacheKey result.request ≠ key) ∧
      ((directory.start call).bucket key).Sublist (directory.bucket key)) ∨
    ∃ result, observedResults [call] = [result] ∧ cacheKey result.request = key ∧
      (directory.start call).bucket key = capBucket (mergeResult key result (directory.bucket key)) := by
  cases call with
  | observe result =>
    cases admitted : result.admitted with
    | false => exact .inl (by simp [observedResults, start, admitted])
    | true =>
      simp only [start, admitted, if_true, bucket_recorded]
      by_cases same : cacheKey result.request = key
      · exact .inr ⟨result, by simp [observedResults, admitted], same, if_pos same⟩
      · exact .inl (by simp [observedResults, admitted, same])
  | score request clusterId poolId now =>
    exact .inl ⟨by simp [observedResults], (shrinks_evictStale directory now).buckets key⟩
  | reservedGb clusterId poolId now =>
    exact .inl ⟨by simp [observedResults], (shrinks_evictStale directory now).buckets key⟩
  | snapshot now => exact .inl ⟨by simp [observedResults], (shrinks_evictStale directory now).buckets key⟩
  | evictStale now => exact .inl ⟨by simp [observedResults], (shrinks_evictStale directory now).buckets key⟩

def locations (directory : KVCacheDirectory) (key : String) : List (String × String) :=
  (directory.bucket key).map CacheEntry.location

def Places (within locations : List (String × String)) : Prop := locations.Nodup ∧ locations ⊆ within

theorem Places.sublist {within locations kept : List (String × String)} (places : Places within locations)
    (sublist : kept.Sublist locations) : Places within kept :=
  ⟨places.1.sublist sublist, List.Subset.trans sublist.subset places.2⟩

theorem Places.merge {within : List (String × String)} {entries : List CacheEntry}
    (places : Places within (entries.map CacheEntry.location)) (few : within.length ≤ 4)
    {result : RequestResult} (inside : result.location ∈ within) (key : String) :
    Places within ((capBucket (mergeResult key result entries)).map CacheEntry.location) ∧
      result.location ∈ (capBucket (mergeResult key result entries)).map CacheEntry.location ∧
      entries.map CacheEntry.location ⊆ (capBucket (mergeResult key result entries)).map CacheEntry.location := by
  have merged : Places within ((mergeResult key result entries).map CacheEntry.location) := by
    refine ⟨nodup_locations_mergeResult places.1, ?_⟩
    rw [locations_mergeResult]
    split
    · exact places.2
    · intro location member
      rcases List.mem_append.mp member with held | new
      · exact places.2 held
      · rwa [List.mem_singleton.mp new]
  have length := (List.subperm_of_subset merged.1 merged.2).length_le
  rw [List.length_map] at length
  have uncapped : capBucket (mergeResult key result entries) = mergeResult key result entries :=
    if_neg (by omega)
  rw [uncapped]
  refine ⟨merged, ?_, ?_⟩
  · rw [locations_mergeResult]
    split
    · assumption
    · simp
  · rw [locations_mergeResult]
    split
    · exact List.Subset.refl _
    · exact List.subset_append_left _ _

end KVCacheDirectory

open KVCacheDirectory

/-- The client is configured and its calls get through. -/
structure RedisStore.Online (store : RedisStore) : Prop where
  enabled : store.enabled = true
  readable : store.hgetFault = none
  writable : store.hsetFault = none

inductive Plane where
  | first
  | second
  deriving DecidableEq

inductive SharedStep where
  | start (plane : Plane) (call : DirectoryCall)
  | finish (plane : Plane)

structure Party where
  directory : KVCacheDirectory
  pending : Option DirectoryCall

structure SharedDirectories where
  party : Plane → Party
  store : RedisStore
  observed : List RequestResult

namespace SharedDirectories

def create (ttlS : Plane → ℚ) (maxEntries : Plane → ℤ) (store : RedisStore) : SharedDirectories where
  party := fun plane => ⟨KVCacheDirectory.create (ttlS plane) (maxEntries plane) store, none⟩
  store
  observed := []

/-- Each party makes one call after the other. A step that does not fit the party's state changes
    nothing. -/
def step (shared : SharedDirectories) : SharedStep → SharedDirectories
  | .start plane call =>
    match (shared.party plane).pending with
    | some _ => shared
    | none => { shared with
        party := Function.update shared.party plane
          ⟨(shared.party plane).directory.start call, some call⟩ }
  | .finish plane =>
    match (shared.party plane).pending with
    | none => shared
    | some call =>
      let directory := ((shared.party plane).directory.withStore shared.store).finish call
      { party := Function.update shared.party plane ⟨directory, none⟩
        store := directory.redisStore
        observed := shared.observed ++ observedResults [call] }

def stored (shared : SharedDirectories) (key : String) : List (String × String) :=
  ((shared.store.storedEntries key).toOption.getD []).map CacheEntry.location

structure PartyHeld (key : String) (within : List (String × String)) (party : Party) : Prop where
  bucket : Places within (party.directory.locations key)
  pending : ∀ result ∈ observedResults party.pending.toList, cacheKey result.request = key →
    result.location ∈ party.directory.locations key

structure Held (key : String) (within : List (String × String)) (shared : SharedDirectories) : Prop where
  online : shared.store.Online
  parties : ∀ plane, PartyHeld key within (shared.party plane)
  stored : Places within (shared.stored key)
  kept : ∀ result ∈ shared.observed, cacheKey result.request = key → result.location ∈ shared.stored key

/-- An observe of the key, at the moment it writes to Redis, has in its own bucket every location
    that is stored under the key. -/
def Covers (key : String) (shared : SharedDirectories) : SharedStep → Prop
  | .start _ _ => True
  | .finish plane => ∀ result ∈ observedResults (shared.party plane).pending.toList,
      cacheKey result.request = key → shared.stored key ⊆ (shared.party plane).directory.locations key

instance (key : String) (shared : SharedDirectories) : ∀ step, Decidable (Covers key shared step)
  | .start _ _ => .isTrue True.intro
  | .finish _ => inferInstanceAs (Decidable (∀ result ∈ _, _ → ∀ location ∈ _, location ∈ _))

def observedAt (key : String) (steps : List SharedStep) : List (String × String) :=
  steps.flatMap (fun step => match step with
    | .start _ call => ((observedResults [call]).filter
        (fun result => cacheKey result.request = key)).map RequestResult.location
    | .finish _ => [])

theorem update_held {key : String} {within : List (String × String)} {party : Plane → Party}
    (parties : ∀ plane, PartyHeld key within (party plane)) {plane : Plane} {new : Party}
    (held : PartyHeld key within new) :
    ∀ other, PartyHeld key within (Function.update party plane new other) := by
  intro other
  by_cases same : other = plane
  · subst same
    rwa [Function.update_self]
  · rw [Function.update_of_ne same]
    exact parties other

theorem Held.start {key : String} {within : List (String × String)} {shared : SharedDirectories}
    (held : Held key within shared) (few : within.length ≤ 4) {plane : Plane} {call : DirectoryCall}
    (inside : ∀ result ∈ observedResults [call], cacheKey result.request = key → result.location ∈ within) :
    Held key within (shared.step (.start plane call)) := by
  simp only [step]
  cases idle : (shared.party plane).pending with
  | some earlier => exact held
  | none =>
    refine { held with parties := update_held held.parties ?_ }
    rcases start_cases (shared.party plane).directory call key with ⟨unobserved, shrinks⟩ |
      ⟨result, observed, same, merged⟩
    · exact {
        bucket := (held.parties plane).bucket.sublist (shrinks.map CacheEntry.location)
        pending := fun result member keyed => absurd keyed (unobserved result member) }
    · have new : result.location ∈ within := inside result (by simp [observed]) same
      obtain ⟨places, present, _⟩ := (held.parties plane).bucket.merge few new key
      rw [← merged] at places present
      refine ⟨places, ?_⟩
      intro other member _
      rw [Option.toList_some, observed] at member
      rwa [List.mem_singleton.mp member]

theorem stored_persisted {shared : SharedDirectories} (online : shared.store.Online) {written : String}
    {entries : List CacheEntry} {next : SharedDirectories}
    (stepped : next.store = shared.store.persisted written entries) (key : String) :
    next.stored key = if written = key then entries.map CacheEntry.location else shared.stored key := by
  rw [stored, stepped]
  split
  · rename_i same
    subst same
    rw [RedisStore.storedEntries_persisted_same online.enabled online.readable]
    change (entries.map _).map _ = _
    rw [List.map_map]
    rfl
  · rename_i differ
    rw [RedisStore.storedEntries_persisted_other shared.store differ]
    rfl

theorem step_finish {shared : SharedDirectories} {plane : Plane} {call : DirectoryCall}
    (busy : (shared.party plane).pending = some call) :
    shared.step (.finish plane) =
      { party := Function.update shared.party plane
          ⟨((shared.party plane).directory.withStore shared.store).finish call, none⟩
        store := (((shared.party plane).directory.withStore shared.store).finish call).redisStore
        observed := shared.observed ++ observedResults [call] } := by
  simp only [step, busy]

theorem partyHeld_idle {key : String} {within : List (String × String)} {directory : KVCacheDirectory}
    (bucket : Places within (directory.locations key)) : PartyHeld key within ⟨directory, none⟩ :=
  ⟨bucket, fun _ member => absurd member (by simp [observedResults])⟩

theorem Held.finish_unobserved {key : String} {within : List (String × String)} {shared : SharedDirectories}
    (held : Held key within shared) {plane : Plane} {call : DirectoryCall}
    (busy : (shared.party plane).pending = some call) (unobserved : observedResults [call] = []) :
    Held key within (shared.step (.finish plane)) := by
  obtain ⟨store, buckets⟩ := @finish_other ((shared.party plane).directory.withStore shared.store) call unobserved
  have party : PartyHeld key within
      ⟨((shared.party plane).directory.withStore shared.store).finish call, none⟩ := by
    apply partyHeld_idle
    rcases buckets key with kept | loaded
    · rw [locations, kept]
      exact (held.parties plane).bucket
    · have stored := held.stored
      change shared.store.storedEntries key = _ at loaded
      rwa [SharedDirectories.stored, loaded] at stored
  rw [step_finish busy, store, unobserved, List.append_nil]
  exact { held with parties := update_held held.parties party }

theorem Held.finish_observed {key : String} {within : List (String × String)} {shared : SharedDirectories}
    (held : Held key within shared) {plane : Plane} {result : RequestResult}
    (busy : (shared.party plane).pending = some (.observe result)) (admitted : result.admitted = true)
    (observed : observedResults [.observe result] = [result])
    (covers : cacheKey result.request = key → shared.stored key ⊆ (shared.party plane).directory.locations key) :
    Held key within (shared.step (.finish plane)) := by
  have own := held.parties plane
  have pending : cacheKey result.request = key →
      result.location ∈ (shared.party plane).directory.locations key := by
    apply own.pending result
    rw [busy, Option.toList_some, observed, List.mem_singleton]
  obtain ⟨store, buckets⟩ := @finish_observe ((shared.party plane).directory.withStore shared.store)
    result admitted held.online.enabled held.online.writable
  have party : PartyHeld key within
      ⟨((shared.party plane).directory.withStore shared.store).finish (.observe result), none⟩ :=
    partyHeld_idle (own.bucket.sublist ((buckets key).map CacheEntry.location))
  have written : (shared.step (.finish plane)).store = shared.store.persisted (cacheKey result.request)
      ((shared.party plane).directory.bucket (cacheKey result.request)) := by
    rw [step_finish busy]
    exact store
  have locations := stored_persisted held.online written key
  refine ⟨?_, ?_, ?_, ?_⟩
  · rw [written]
    exact ⟨held.online.enabled, held.online.readable, held.online.writable⟩
  · rw [step_finish busy]
    exact update_held held.parties party
  · rw [locations]
    split
    · rename_i same
      rw [same]
      exact own.bucket
    · exact held.stored
  · intro other member keyed
    rw [step_finish busy, observed] at member
    rw [locations]
    split
    · rename_i same
      rw [same]
      rcases List.mem_append.mp member with earlier | last
      · exact covers same (held.kept other earlier keyed)
      · rw [List.mem_singleton.mp last]
        exact pending same
    · rename_i differ
      rcases List.mem_append.mp member with earlier | last
      · exact held.kept other earlier keyed
      · rw [List.mem_singleton.mp last] at keyed
        exact absurd keyed differ

theorem Held.finish {key : String} {within : List (String × String)} {shared : SharedDirectories}
    (held : Held key within shared) {plane : Plane} (covers : Covers key shared (.finish plane)) :
    Held key within (shared.step (.finish plane)) := by
  cases busy : (shared.party plane).pending with
  | none =>
    have same : shared.step (.finish plane) = shared := by simp only [step, busy]
    rwa [same]
  | some call =>
    rw [Covers, busy, Option.toList_some] at covers
    rcases observed_cases call with unobserved | ⟨result, rfl, admitted, observed⟩
    · exact held.finish_unobserved busy unobserved
    · apply held.finish_observed busy admitted observed
      apply covers result
      rw [observed, List.mem_singleton]

theorem mem_observedAt {key : String} {steps : List SharedStep} {plane : Plane} {call : DirectoryCall}
    (member : SharedStep.start plane call ∈ steps) {result : RequestResult}
    (observed : result ∈ observedResults [call]) (same : cacheKey result.request = key) :
    result.location ∈ observedAt key steps := by
  apply List.mem_flatMap.mpr
  refine ⟨_, member, List.mem_map_of_mem ?_⟩
  exact List.mem_filter.mpr ⟨observed, decide_eq_true same⟩

end SharedDirectories

end NimbusMesh
