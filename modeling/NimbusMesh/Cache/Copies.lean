import NimbusMesh.Cache.Sharing

namespace NimbusMesh

open Foundation Foundation.Execution KVCacheDirectory

namespace DirectoryCall

def Writes (key : String) (call : DirectoryCall) : Prop :=
  ∃ result ∈ observedResults [call], cacheKey result.request = key

def Scores (key : String) : DirectoryCall → Prop
  | .score request _ _ _ => cacheKey request = key
  | _ => False

def evictionTs : DirectoryCall → Option ℚ
  | .observe _ => none
  | .score _ _ _ now => some now
  | .reservedGb _ _ now => some now
  | .snapshot now => some now
  | .evictStale now => some now

instance (key : String) (call : DirectoryCall) : Decidable (call.Writes key) :=
  inferInstanceAs (Decidable (∃ result ∈ observedResults [call], cacheKey result.request = key))

instance (key : String) : ∀ call : DirectoryCall, Decidable (call.Scores key)
  | .score request _ _ _ => inferInstanceAs (Decidable (cacheKey request = key))
  | .observe _ => .isFalse id
  | .reservedGb _ _ _ => .isFalse id
  | .snapshot _ => .isFalse id
  | .evictStale _ => .isFalse id

end DirectoryCall

namespace KVCacheDirectory

variable {directory : KVCacheDirectory} {key : String}

theorem start_fresh {call : DirectoryCall}
    (fresh : ∀ now ∈ call.evictionTs, ∀ entry ∈ directory.bucket key, directory.Fresh now entry)
    (unwritten : ¬ call.Writes key) : (directory.start call).bucket key = directory.bucket key := by
  have evicted : ∀ now ∈ call.evictionTs, (directory.evictStale now).bucket key = directory.bucket key := by
    intro now timed
    rw [bucket_evictStale, List.filter_eq_self]
    intro entry member
    exact decide_eq_true (fresh now timed entry member)
  cases call with
  | observe result =>
    cases admitted : result.admitted with
    | false => simp [start, admitted]
    | true =>
      have differ : cacheKey result.request ≠ key :=
        fun same => unwritten ⟨result, by simp [observedResults, admitted], same⟩
      simp only [start, admitted, if_true]
      rw [bucket_recorded, if_neg differ]
  | score request clusterId poolId now => exact evicted now rfl
  | reservedGb clusterId poolId now => exact evicted now rfl
  | snapshot now => exact evicted now rfl
  | evictStale now => exact evicted now rfl

theorem finish_unwritten {call : DirectoryCall} (unobserved : observedResults [call] = [])
    (unscored : ¬ call.Scores key) :
    (directory.finish call).bucket key = directory.bucket key := by
  cases call with
  | score request clusterId poolId now =>
    have differ : cacheKey request ≠ key := unscored
    simp only [finish, stateAfter, hydrateFromRedis]
    split
    · cases directory.redisStore.storedEntries (cacheKey request) with
      | error raised => rfl
      | ok entries =>
        cases entries with
        | nil => rfl
        | cons entry rest =>
          show (directory.setBucket (cacheKey request) (entry :: rest)).bucket key = directory.bucket key
          rw [bucket_setBucket, if_neg differ]
    · rfl
  | observe result =>
    cases admitted : result.admitted with
    | false => simp [finish, admitted]
    | true => simp [observedResults, admitted] at unobserved
  | reservedGb clusterId poolId now => rfl
  | snapshot now => rfl
  | evictStale now => rfl

theorem finish_loads {call : DirectoryCall} (scored : call.Scores key) (empty : directory.bucket key = []) :
    (directory.finish call).bucket key = (directory.redisStore.storedEntries key).toOption.getD [] := by
  cases call with
  | score request clusterId poolId now =>
    have same : cacheKey request = key := scored
    subst same
    simp only [finish, empty, if_true, stateAfter, hydrateFromRedis]
    cases directory.redisStore.storedEntries (cacheKey request) with
    | error raised => exact empty
    | ok entries =>
      cases entries with
      | nil => exact empty
      | cons entry rest =>
        show (directory.setBucket (cacheKey request) (entry :: rest)).bucket (cacheKey request) = entry :: rest
        rw [bucket_setBucket, if_pos rfl]
  | observe result => cases scored
  | reservedGb clusterId poolId now => cases scored
  | snapshot now => cases scored
  | evictStale now => cases scored

theorem finish_untrimmed {result : RequestResult} (online : directory.redisStore.Online)
    (within : (directory.totalEntries : ℤ) ≤ directory.maxEntries) :
    (directory.finish (.observe result)).bucket key = directory.bucket key := by
  cases admitted : result.admitted with
  | false => simp [finish, admitted]
  | true =>
    have persists : persistToRedis (cacheKey result.request) directory = .ok () (directory.withStore
        (directory.redisStore.persisted (cacheKey result.request) (directory.bucket (cacheKey result.request)))) := by
      simp [persistToRedis, RedisStore.writeCacheAffinity, online.enabled, online.writable, RedisStore.persisted,
        document, withStore]
    have untrimmed : stateAfter trim (directory.withStore (directory.redisStore.persisted (cacheKey result.request)
        (directory.bucket (cacheKey result.request)))) = directory.withStore (directory.redisStore.persisted
          (cacheKey result.request) (directory.bucket (cacheKey result.request))) := by
      apply stateAfter_ok
      exact if_pos within
    simp only [finish, admitted, if_true, persists, untrimmed]
    rfl

end KVCacheDirectory

/-- What the order of the calls alone tells of the copies of one key: the calls under way, whether something is
    stored, which parties have entries for the key, and which of them have written or loaded it since the other
    party last wrote it. -/
structure Copies where
  pending : Plane → Option DirectoryCall
  written : Bool
  held : Plane → Bool
  current : Plane → Bool

namespace Copies

def create (written : Bool) : Copies where
  pending := fun _ => none
  written
  held := fun _ => false
  current := fun _ => !written

def step (key : String) (copies : Copies) : SharedStep → Copies
  | .start plane call =>
    match copies.pending plane with
    | some _ => copies
    | none => { copies with
        pending := Function.update copies.pending plane (some call)
        held := if call.Writes key then Function.update copies.held plane true else copies.held }
  | .finish plane =>
    match copies.pending plane with
    | none => copies
    | some call =>
      let finished := { copies with pending := Function.update copies.pending plane none }
      if call.Writes key then { finished with written := true, current := fun other => other = plane }
      else if call.Scores key ∧ copies.held plane = false then { finished with
        held := Function.update copies.held plane copies.written
        current := Function.update copies.current plane true }
      else finished

def UpToDate (key : String) (copies : Copies) : SharedStep → Prop
  | .start _ _ => True
  | .finish plane => ∀ call ∈ copies.pending plane, call.Writes key → copies.current plane = true

instance (key : String) (copies : Copies) : ∀ step, Decidable (copies.UpToDate key step)
  | .start _ _ => .isTrue True.intro
  | .finish _ => inferInstanceAs (Decidable (∀ call ∈ _, _ → _))

end Copies

namespace SharedDirectories

/-- No entry of the key is stale when a call evicts, and no directory is over its limit when it writes. -/
def NothingDropped (key : String) (shared : SharedDirectories) : SharedStep → Prop
  | .start plane call => ∀ now ∈ call.evictionTs,
      ∀ entry ∈ (shared.party plane).directory.bucket key, (shared.party plane).directory.Fresh now entry
  | .finish plane =>
      ((shared.party plane).directory.totalEntries : ℤ) ≤ (shared.party plane).directory.maxEntries

instance (key : String) (shared : SharedDirectories) : ∀ step, Decidable (NothingDropped key shared step)
  | .start _ _ => inferInstanceAs (Decidable (∀ now ∈ _, ∀ entry ∈ _, _))
  | .finish _ => inferInstanceAs (Decidable (_ ≤ _))

structure Mirrors (key : String) (shared : SharedDirectories) (copies : Copies) : Prop where
  pending : ∀ plane, copies.pending plane = (shared.party plane).pending
  unwritten : copies.written = false → shared.stored key = []
  unheld : ∀ plane, copies.held plane = false → (shared.party plane).directory.bucket key = []
  current : ∀ plane, copies.current plane = true →
    shared.stored key ⊆ (shared.party plane).directory.locations key

section Mirroring

variable {key : String} {within : List (String × String)} {shared : SharedDirectories} {copies : Copies}

theorem writes_iff_of_observed {call : DirectoryCall} {result : RequestResult}
    (observed : observedResults [call] = [result]) : call.Writes key ↔ cacheKey result.request = key := by
  simp [DirectoryCall.Writes, observed]

theorem Mirrors.start (mirrors : Mirrors key shared copies) (held : Held key within shared)
    (few : within.length ≤ 4) {plane : Plane} {call : DirectoryCall}
    (inside : ∀ result ∈ observedResults [call], cacheKey result.request = key → result.location ∈ within)
    (kept : NothingDropped key shared (.start plane call)) :
    Mirrors key (shared.step (.start plane call)) (copies.step key (.start plane call)) := by
  have agrees := mirrors.pending plane
  cases idle : (shared.party plane).pending with
  | some earlier =>
    rw [idle] at agrees
    simp only [step, Copies.step, idle, agrees]
    exact mirrors
  | none =>
    rw [idle] at agrees
    simp only [step, Copies.step, idle, agrees]
    have grown : (shared.party plane).directory.locations key ⊆
        ((shared.party plane).directory.start call).locations key := by
      by_cases writes : call.Writes key
      · rcases start_cases (shared.party plane).directory call key with ⟨unobserved, _⟩ |
          ⟨result, observed, same, merged⟩
        · obtain ⟨result, member, same⟩ := writes
          exact absurd same (unobserved result member)
        · have new : result.location ∈ within := inside result (by simp [observed]) same
          obtain ⟨_, _, more⟩ := (held.parties plane).bucket.merge few new key
          rw [locations, locations, merged]
          exact more
      · rw [locations, locations, start_fresh kept writes]
        exact List.Subset.refl _
    refine ⟨?_, mirrors.unwritten, ?_, ?_⟩
    · intro other
      by_cases same : other = plane
      · subst same
        simp only [Function.update_self]
      · simp only [Function.update_of_ne same]
        exact mirrors.pending other
    · intro other unheld
      by_cases same : other = plane
      · subst same
        by_cases writes : call.Writes key
        · simp [writes] at unheld
        · rw [if_neg writes] at unheld
          simp only [Function.update_self]
          rw [start_fresh kept writes]
          exact mirrors.unheld other unheld
      · simp only [Function.update_of_ne same]
        apply mirrors.unheld other
        by_cases writes : call.Writes key
        · simpa [writes, same] using unheld
        · simpa [writes] using unheld
    · intro other current
      have before := mirrors.current other current
      by_cases same : other = plane
      · subst same
        simp only [Function.update_self]
        exact List.Subset.trans before grown
      · simp only [Function.update_of_ne same]
        exact before

theorem Mirrors.covers (mirrors : Mirrors key shared copies) {step : SharedStep}
    (upToDate : copies.UpToDate key step) : Covers key shared step := by
  cases step with
  | start plane call => exact True.intro
  | finish plane =>
    intro result member same
    obtain ⟨call, pending, observed⟩ : ∃ call, (shared.party plane).pending = some call ∧
        result ∈ observedResults [call] := by
      cases busy : (shared.party plane).pending with
      | none => simp [busy, observedResults] at member
      | some call =>
        rw [busy, Option.toList_some] at member
        exact ⟨call, rfl, member⟩
    apply mirrors.current plane
    exact upToDate call (by rw [mirrors.pending, pending]; rfl) ⟨result, observed, same⟩

theorem Mirrors.pending_finish (mirrors : Mirrors key shared copies) {plane : Plane} {call : DirectoryCall}
    (busy : (shared.party plane).pending = some call) (other : Plane) :
    Function.update copies.pending plane none other = ((shared.step (.finish plane)).party other).pending := by
  rw [step_finish busy]
  by_cases same : other = plane
  · subst same
    simp only [Function.update_self]
  · simp only [Function.update_of_ne same]
    exact mirrors.pending other

theorem others_finish {plane : Plane} {call : DirectoryCall} (busy : (shared.party plane).pending = some call)
    (other : Plane) (differ : other ≠ plane) :
    ((shared.step (.finish plane)).party other).directory = (shared.party other).directory := by
  rw [step_finish busy]
  simp only [Function.update_of_ne differ]

theorem own_finish {plane : Plane} {call : DirectoryCall} (busy : (shared.party plane).pending = some call) :
    ((shared.step (.finish plane)).party plane).directory =
      ((shared.party plane).directory.withStore shared.store).finish call := by
  rw [step_finish busy]
  simp only [Function.update_self]

section Unobserved

variable {plane : Plane} {call : DirectoryCall}

theorem not_writes_of_unobserved (unobserved : observedResults [call] = []) : ¬ call.Writes key := by
  rintro ⟨result, member, _⟩
  rw [unobserved] at member
  cases member

theorem stored_finish_unobserved (busy : (shared.party plane).pending = some call)
    (unobserved : observedResults [call] = []) : (shared.step (.finish plane)).stored key = shared.stored key := by
  obtain ⟨store, _⟩ := @finish_other ((shared.party plane).directory.withStore shared.store) call unobserved
  rw [step_finish busy, SharedDirectories.stored, store]
  rfl

theorem Mirrors.keeps_unobserved (mirrors : Mirrors key shared copies)
    (busy : (shared.party plane).pending = some call) (unobserved : observedResults [call] = [])
    (current : copies.current plane = true) :
    shared.stored key ⊆ ((shared.step (.finish plane)).party plane).directory.locations key := by
  obtain ⟨_, buckets⟩ := @finish_other ((shared.party plane).directory.withStore shared.store) call unobserved
  rw [own_finish busy, locations]
  rcases buckets key with kept | loaded
  · rw [kept]
    exact mirrors.current plane current
  · change shared.store.storedEntries key = _ at loaded
    rw [SharedDirectories.stored, loaded]
    exact List.Subset.refl _

theorem Mirrors.finish_loading (mirrors : Mirrors key shared copies)
    (busy : (shared.party plane).pending = some call) (unobserved : observedResults [call] = [])
    (loading : call.Scores key ∧ copies.held plane = false) :
    Mirrors key (shared.step (.finish plane)) (copies.step key (.finish plane)) := by
  have agrees := mirrors.pending plane
  rw [busy] at agrees
  have others := @others_finish shared plane call busy
  have loaded : ((shared.step (.finish plane)).party plane).directory.locations key = shared.stored key := by
    rw [own_finish busy, locations, @finish_loads ((shared.party plane).directory.withStore shared.store) key call
      loading.1 (mirrors.unheld plane loading.2)]
    rfl
  simp only [Copies.step, agrees, if_neg (not_writes_of_unobserved unobserved), if_pos loading]
  refine ⟨mirrors.pending_finish busy, ?_, ?_, ?_⟩
  · intro none
    rw [stored_finish_unobserved busy unobserved]
    exact mirrors.unwritten none
  · intro other unheld
    by_cases same : other = plane
    · subst same
      simp only [Function.update_self] at unheld
      rw [mirrors.unwritten unheld, locations, List.map_eq_nil_iff] at loaded
      exact loaded
    · simp only [Function.update_of_ne same] at unheld
      rw [others other same]
      exact mirrors.unheld other unheld
  · intro other current
    rw [stored_finish_unobserved busy unobserved]
    by_cases same : other = plane
    · subst same
      rw [loaded]
      exact List.Subset.refl _
    · simp only [Function.update_of_ne same] at current
      rw [others other same]
      exact mirrors.current other current

theorem Mirrors.finish_unobserved (mirrors : Mirrors key shared copies)
    (busy : (shared.party plane).pending = some call) (unobserved : observedResults [call] = []) :
    Mirrors key (shared.step (.finish plane)) (copies.step key (.finish plane)) := by
  have agrees := mirrors.pending plane
  rw [busy] at agrees
  have others := @others_finish shared plane call busy
  by_cases loading : call.Scores key ∧ copies.held plane = false
  · exact mirrors.finish_loading busy unobserved loading
  · simp only [Copies.step, agrees, if_neg (not_writes_of_unobserved unobserved), if_neg loading]
    refine ⟨mirrors.pending_finish busy, ?_, ?_, ?_⟩
    · intro none
      rw [stored_finish_unobserved busy unobserved]
      exact mirrors.unwritten none
    · intro other unheld
      by_cases same : other = plane
      · subst same
        have unscored : ¬ call.Scores key := fun scored => loading ⟨scored, unheld⟩
        rw [own_finish busy, finish_unwritten unobserved unscored]
        exact mirrors.unheld other unheld
      · rw [others other same]
        exact mirrors.unheld other unheld
    · intro other current
      rw [stored_finish_unobserved busy unobserved]
      by_cases same : other = plane
      · subst same
        exact mirrors.keeps_unobserved busy unobserved current
      · rw [others other same]
        exact mirrors.current other current

end Unobserved

theorem Mirrors.finish_observed (mirrors : Mirrors key shared copies) (online : shared.store.Online) {plane : Plane}
    {result : RequestResult} (busy : (shared.party plane).pending = some (.observe result))
    (admitted : result.admitted = true) (observed : observedResults [.observe result] = [result])
    (within : ((shared.party plane).directory.totalEntries : ℤ) ≤ (shared.party plane).directory.maxEntries) :
    Mirrors key (shared.step (.finish plane)) (copies.step key (.finish plane)) := by
  have agrees := mirrors.pending plane
  rw [busy] at agrees
  have pending := mirrors.pending_finish busy
  have others := @others_finish shared plane _ busy
  have own : ((shared.step (.finish plane)).party plane).directory.bucket key =
      (shared.party plane).directory.bucket key := by
    rw [own_finish busy]
    exact @finish_untrimmed ((shared.party plane).directory.withStore shared.store) key result online within
  have written : (shared.step (.finish plane)).store = shared.store.persisted (cacheKey result.request)
      ((shared.party plane).directory.bucket (cacheKey result.request)) := by
    rw [step_finish busy]
    exact (@finish_observe ((shared.party plane).directory.withStore shared.store) result admitted online.enabled
      online.writable).1
  have stored := stored_persisted online written key
  have empties : ∀ other, copies.held other = false →
      ((shared.step (.finish plane)).party other).directory.bucket key = [] := by
    intro other unheld
    by_cases same : other = plane
    · subst same
      rw [own]
      exact mirrors.unheld other unheld
    · rw [others other same]
      exact mirrors.unheld other unheld
  by_cases writes : cacheKey result.request = key
  · simp only [Copies.step, agrees, if_pos ((writes_iff_of_observed observed).mpr writes)]
    refine ⟨pending, ?_, empties, ?_⟩
    · intro none
      cases none
    · intro other current
      have same : other = plane := of_decide_eq_true current
      subst same
      rw [stored, if_pos writes, writes, locations, own]
      exact List.Subset.refl _
  · have unwritten := mt (writes_iff_of_observed observed).mp writes
    have unscored : ¬ (DirectoryCall.Scores key (.observe result) ∧ copies.held plane = false) :=
      fun scored => scored.1
    rw [if_neg writes] at stored
    simp only [Copies.step, agrees, if_neg unwritten, if_neg unscored]
    refine ⟨pending, ?_, empties, ?_⟩
    · intro none
      rw [stored]
      exact mirrors.unwritten none
    · intro other current
      rw [stored, locations]
      by_cases same : other = plane
      · subst same
        rw [own]
        exact mirrors.current other current
      · rw [others other same]
        exact mirrors.current other current

theorem Mirrors.finish (mirrors : Mirrors key shared copies) (online : shared.store.Online) {plane : Plane}
    (kept : NothingDropped key shared (.finish plane)) :
    Mirrors key (shared.step (.finish plane)) (copies.step key (.finish plane)) := by
  cases busy : (shared.party plane).pending with
  | none =>
    have agrees := mirrors.pending plane
    rw [busy] at agrees
    simp only [step, Copies.step, busy, agrees]
    exact mirrors
  | some call =>
    rcases observed_cases call with unobserved | ⟨result, rfl, admitted, observed⟩
    · exact mirrors.finish_unobserved busy unobserved
    · exact mirrors.finish_observed online busy admitted observed kept

end Mirroring

def noCopies (key : String) (store : RedisStore) : Copies :=
  Copies.create ((store.storedEntries key).toOption.getD [] ≠ [])

/-- When every party that writes a key has written or loaded it since the other party last wrote it, and no
    more than four locations come up for the key, no update of it is lost: whatever the order of the two
    parties' steps, the stored list has the location of every observed result. -/
theorem no_lost_update (ttlS : Plane → ℚ) (maxEntries : Plane → ℤ) (store : RedisStore)
    (online : store.Online) (key : String) (steps : List SharedStep)
    (distinct : ((create ttlS maxEntries store).stored key).Nodup)
    (few : ((create ttlS maxEntries store).stored key ++ observedAt key steps).dedup.length ≤ 4)
    (kept : Throughout step (fun _ => NothingDropped key) (create ttlS maxEntries store) steps)
    (upToDate : Throughout (Copies.step key) (fun _ => Copies.UpToDate key) (noCopies key store) steps) :
    ∀ result ∈ (steps.foldl step (create ttlS maxEntries store)).observed,
      cacheKey result.request = key →
        result.location ∈ (steps.foldl step (create ttlS maxEntries store)).stored key := by
  have initial : Held key ((create ttlS maxEntries store).stored key ++ observedAt key steps).dedup
      (create ttlS maxEntries store) := {
    online := online
    parties := by
      intro plane
      refine ⟨⟨List.nodup_nil, List.nil_subset _⟩, ?_⟩
      intro result member
      cases member
    stored := by
      refine ⟨distinct, ?_⟩
      intro location member
      exact List.mem_dedup.mpr (List.mem_append_left _ member)
    kept := by
      intro result member
      cases member }
  have mirrored : Mirrors key (create ttlS maxEntries store) (noCopies key store) := {
    pending := fun _ => rfl
    unwritten := by
      intro empty
      have none : (store.storedEntries key).toOption.getD [] = [] := by simpa [noCopies, Copies.create] using empty
      simp [SharedDirectories.stored, create, none]
    unheld := fun _ _ => rfl
    current := by
      intro plane empty
      have none : (store.storedEntries key).toOption.getD [] = [] := by simpa [noCopies, Copies.create] using empty
      simp [SharedDirectories.stored, create, none] }
  have meets : Throughout step (fun before shared i => NothingDropped key shared i ∧ i ∈ steps ∧
      (before.foldl (Copies.step key) (noCopies key store)).UpToDate key i) (create ttlS maxEntries store) steps :=
    fun before i after split => ⟨kept before i after split, by simp [split], upToDate before i after split⟩
  have final := foldl_invariant
    (fun before shared => Mirrors key shared (before.foldl (Copies.step key) (noCopies key store)) ∧
      Held key ((create ttlS maxEntries store).stored key ++ observedAt key steps).dedup shared)
    ⟨mirrored, initial⟩
    (by
      rintro before i shared ⟨mirrors, held⟩ ⟨undropped, member, current⟩
      rw [List.foldl_append, List.foldl_cons, List.foldl_nil]
      cases i with
      | start plane call =>
        have inside : ∀ result ∈ observedResults [call], cacheKey result.request = key →
            result.location ∈ ((create ttlS maxEntries store).stored key ++ observedAt key steps).dedup :=
          fun result observed same =>
            List.mem_dedup.mpr (List.mem_append_right _ (mem_observedAt member observed same))
        exact ⟨mirrors.start held few inside undropped, held.start few inside⟩
      | finish plane => exact ⟨mirrors.finish held.online undropped, held.finish (mirrors.covers current)⟩) meets
  exact final.2.kept

theorem no_lost_update_after_loading :
    let key := cacheKey (sessionRequest 1000)
    let steps : List SharedStep := [
      .start .first (.observe (sessionResult (sessionRequest 1000) "c1" "p1" 5)), .finish .first,
      .start .second (.score (sessionRequest 1000) "c1" "p2" 10), .finish .second,
      .start .second (.observe (sessionResult (sessionRequest 1000) "c1" "p2" 12)), .finish .second]
    let final := steps.foldl step (create (fun _ => 180) (fun _ => 20000) (emptyStore true))
    final.observed.map RequestResult.location = [("c1", "p1"), ("c1", "p2")] ∧
      ∀ result ∈ final.observed, cacheKey result.request = key → result.location ∈ final.stored key := by
  intro key steps final
  refine ⟨by decide +kernel, ?_⟩
  exact no_lost_update (fun _ => 180) (fun _ => 20000) (emptyStore true) ⟨rfl, rfl, rfl⟩ key steps
    (by decide +kernel) (by decide +kernel) (by decide +kernel) (by decide +kernel)

/-- The second party has loaded the key, then the first observes once more: the second writes its
    own copy of the bucket over that update. -/
theorem update_of_other_party_lost :
    let key := cacheKey (sessionRequest 1000)
    let steps : List SharedStep := [
      .start .first (.observe (sessionResult (sessionRequest 1000) "c1" "p1" 5)), .finish .first,
      .start .second (.score (sessionRequest 1000) "c1" "p2" 10), .finish .second,
      .start .first (.observe (sessionResult (sessionRequest 1000) "c1" "p2" 12)), .finish .first,
      .start .second (.observe (sessionResult (sessionRequest 1000) "c1" "p3" 14)), .finish .second]
    let final := steps.foldl step (create (fun _ => 180) (fun _ => 20000) (emptyStore true))
    (observedAt key steps).dedup.length ≤ 4 ∧
      Throughout step (fun _ => NothingDropped key) (create (fun _ => 180) (fun _ => 20000) (emptyStore true)) steps ∧
      final.observed.map RequestResult.location = [("c1", "p1"), ("c1", "p2"), ("c1", "p3")] ∧
      final.stored key = [("c1", "p1"), ("c1", "p3")] := by
  decide +kernel

end SharedDirectories

end NimbusMesh
