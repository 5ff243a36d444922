import NimbusMesh.Scheduler.Slots

namespace NimbusMesh

open Foundation Foundation.Execution Foundation.SlotQueue

def PoolCall.now : PoolCall → ℚ
  | .refresh now => now
  | .place call => call.now

/-- What a call adds to the requests placed on a pool: the completion time and the memory of its own. It is placed
    also when recording its result raises, and not when the pool has no slot. -/
def PoolCall.placement (scheduler : LocalClusterScheduler) : PoolCall → List (ℚ × ℚ)
  | .refresh _ => []
  | .place call => ((earliest scheduler.pool.slotAvailableAt).map (fun slotIndex =>
      (call.completionTs scheduler.pool slotIndex, call.memoryGb))).toList

structure PoolSession where
  scheduler : LocalClusterScheduler
  placed : List (ℚ × ℚ)

def PoolSession.after (session : PoolSession) (call : PoolCall) : PoolSession where
  scheduler := stateAfter call.perform session.scheduler
  placed := session.placed ++ call.placement session.scheduler

def PoolSession.afterAll (session : PoolSession) (calls : List PoolCall) : PoolSession :=
  calls.foldl PoolSession.after session

theorem pool_after_place (call : PlacementCall) (scheduler : LocalClusterScheduler) :
    (stateAfter (PoolCall.place call).perform scheduler).pool =
      match earliest scheduler.pool.slotAvailableAt with
      | none => scheduler.pool
      | some slotIndex => call.booked scheduler.pool slotIndex := by
  cases found : earliest scheduler.pool.slotAvailableAt with
  | none => simp [stateAfter, PoolCall.perform, placeRequest, found]
  | some slotIndex =>
    simp only [stateAfter, PoolCall.perform, placeRequest, found]
    cases KVCacheDirectory.observe (call.result scheduler.pool slotIndex) scheduler.cacheDirectory with
    | ok _ _ => rfl
    | error _ _ => rfl

/-- The two views a pool has of its backlog after some calls: its slots count the unfinished requests, up to their
    number, and its list holds them all, from the last of the calls on. -/
structure Bookkept (slots : ℕ) (calls : List PoolCall) (session : PoolSession) : Prop where
  length : session.scheduler.pool.slotAvailableAt.length = slots
  tracks : Tracks session.scheduler.pool.slotAvailableAt (session.placed.map Prod.fst)
  memory : session.scheduler.pool.activeMemoryGb = (session.scheduler.pool.inflightMemory.map Prod.snd).sum
  listed : ∀ t, (∀ call ∈ calls, call.now ≤ t) →
    session.scheduler.pool.inflightMemory.filter (fun item => t < item.1) =
      session.placed.filter (fun item => t < item.1)

section Calls

variable {slots : ℕ} {calls : List PoolCall} {session : PoolSession}

theorem Bookkept.refresh (kept : Bookkept slots calls session) (now : ℚ) :
    Bookkept slots (calls ++ [.refresh now]) (session.after (.refresh now)) where
  length := kept.length
  tracks := by
    show Tracks session.scheduler.pool.slotAvailableAt ((session.placed ++ []).map Prod.fst)
    rw [List.append_nil]
    exact kept.tracks
  memory := rfl
  listed := by
    intro t later
    have past : now ≤ t := later (.refresh now) (by simp)
    show (session.scheduler.pool.inflightMemory.filter (fun item => now < item.1)).filter (fun item => t < item.1) =
      (session.placed ++ []).filter (fun item => t < item.1)
    rw [List.append_nil, ← kept.listed t (fun call member => later call (by simp [member])), List.filter_filter]
    apply List.filter_congr
    intro item _
    by_cases unfinished : t < item.1
    · simp [unfinished, lt_of_le_of_lt past unfinished]
    · simp [unfinished]

theorem Bookkept.place (kept : Bookkept slots calls session) {call : PlacementCall}
    (lasting : call.NonnegLatency session.scheduler) :
    Bookkept slots (calls ++ [.place call]) (session.after (.place call)) := by
  have pool := pool_after_place call session.scheduler
  cases found : earliest session.scheduler.pool.slotAvailableAt with
  | none =>
    have placed : (session.after (.place call)).placed = session.placed := by
      simp [PoolSession.after, PoolCall.placement, found]
    have same : (session.after (.place call)).scheduler.pool = session.scheduler.pool := by
      rw [found] at pool
      exact pool
    refine ⟨by rw [same, kept.length], by rw [same, placed]; exact kept.tracks, by rw [same, kept.memory], ?_⟩
    intro t later
    rw [same, placed]
    exact kept.listed t (fun earlier member => later earlier (by simp [member]))
  | some slotIndex =>
    have placed : (session.after (.place call)).placed =
        session.placed ++ [(call.completionTs session.scheduler.pool slotIndex, call.memoryGb)] := by
      simp [PoolSession.after, PoolCall.placement, found]
    have booked : (session.after (.place call)).scheduler.pool = call.booked session.scheduler.pool slotIndex := by
      rw [found] at pool
      exact pool
    have later : session.scheduler.pool.slotAvailableAt.getD slotIndex 0 ≤
        call.completionTs session.scheduler.pool slotIndex :=
      (le_max_right _ _).trans (call.start_le_completion lasting slotIndex)
    constructor
    · rw [booked]
      simpa [PlacementCall.booked] using kept.length
    · rw [booked, placed, List.map_append]
      exact kept.tracks.book found later
    · rw [booked]
      simp [PlacementCall.booked, kept.memory]
    · intro t after
      have before := kept.listed t (fun earlier member => after earlier (by simp [member]))
      rw [booked, placed, List.filter_append, ← before, ← List.filter_append]
      rfl

theorem Bookkept.after (kept : Bookkept slots calls session) {call : PoolCall}
    (lasting : call.NonnegLatency session.scheduler) : Bookkept slots (calls ++ [call]) (session.after call) := by
  cases call with
  | refresh now => exact kept.refresh now
  | place call => exact kept.place lasting

end Calls

structure PoolRuntime.Idle (pool : PoolRuntime) : Prop where
  slots : pool.slotAvailableAt = List.replicate pool.parallelSlots.toNat 0
  listed : pool.inflightMemory = []
  memory : pool.activeMemoryGb = 0

theorem bookkept_initial {scheduler : LocalClusterScheduler} (idle : scheduler.pool.Idle) :
    Bookkept scheduler.pool.parallelSlots.toNat [] ⟨scheduler, []⟩ where
  length := by rw [idle.slots, List.length_replicate]
  tracks := by
    rw [idle.slots]
    exact tracks_initial _
  memory := by
    rw [idle.memory, idle.listed]
    rfl
  listed := fun t _ => by rw [idle.listed]

/-- A pool that starts idle accounts for its memory at all times, and at a refresh it lists exactly the placed
    requests that are not finished and counts them up to the number of its slots. -/
theorem pool_bookkeeping_consistent (scheduler : LocalClusterScheduler) (idle : scheduler.pool.Idle)
    (calls : List PoolCall) (ordered : calls.Pairwise (fun first second => first.now ≤ second.now))
    (nonneg : ∀ call ∈ calls, 0 ≤ call.now)
    (lasting : Throughout PoolSession.after (fun _ session call => call.NonnegLatency session.scheduler)
      ⟨scheduler, []⟩ calls) :
    ∀ before after, calls = before ++ after →
      let session := PoolSession.afterAll ⟨scheduler, []⟩ before
      session.scheduler.pool.activeMemoryGb = (session.scheduler.pool.inflightMemory.map Prod.snd).sum ∧
      ∀ earlier now, before = earlier ++ [.refresh now] →
        session.scheduler.pool.inflightMemory = session.placed.filter (fun item => now < item.1) ∧
        (session.scheduler.pool.inflightCount now : ℤ) =
          min (max 0 scheduler.pool.parallelSlots) session.scheduler.pool.inflightMemory.length := by
  rintro before after rfl session
  have kept : Bookkept scheduler.pool.parallelSlots.toNat before session :=
    foldl_invariant (fun calls session => Bookkept scheduler.pool.parallelSlots.toNat calls session)
      (bookkept_initial idle) (fun _ _ _ kept lasting => kept.after lasting) lasting.left
  refine ⟨kept.memory, ?_⟩
  rintro earlier now rfl
  have current : ∀ call ∈ earlier ++ [.refresh now], call.now ≤ now := by
    intro call member
    rcases List.mem_append.mp member with early | last
    · exact (List.pairwise_append.mp (List.pairwise_append.mp ordered).1).2.2 call early (.refresh now) (by simp)
    · rw [List.mem_singleton.mp last]
      exact le_refl now
  have listed := kept.listed now current
  have unfinished : session.scheduler.pool.inflightMemory.filter (fun item => now < item.1) =
      session.scheduler.pool.inflightMemory := by
    -- the refresh has already dropped what is finished
    have dropped : session.scheduler.pool =
        ((PoolSession.afterAll ⟨scheduler, []⟩ earlier).scheduler.pool).refresh now := by
      show (PoolSession.afterAll ⟨scheduler, []⟩ (earlier ++ [.refresh now])).scheduler.pool = _
      rw [PoolSession.afterAll, List.foldl_append]
      rfl
    rw [dropped]
    simp [PoolRuntime.refresh, List.filter_filter]
  rw [unfinished] at listed
  refine ⟨listed, ?_⟩
  have busy := kept.tracks now (nonneg (.refresh now) (by simp))
  have counted : SlotQueue.busy (session.placed.map Prod.fst) now =
      session.scheduler.pool.inflightMemory.length := by
    rw [listed, SlotQueue.busy, List.countP_map, List.countP_eq_length_filter]
    rfl
  rw [kept.length, counted] at busy
  show ((SlotQueue.busy session.scheduler.pool.slotAvailableAt now : ℕ) : ℤ) = _
  rw [busy]
  omega

def sessionCalls : List PoolCall :=
  [.place (sessionCall 0), .refresh 1, .place (sessionCall 1), .place (sessionCall 1), .refresh 2]

theorem pool_bookkeeping_consistent_two_slots :
    let session := PoolSession.afterAll ⟨sessionScheduler 2, []⟩ sessionCalls
    session.placed.map Prod.fst = [1.99, 2.99, 3.98] ∧
      session.scheduler.pool.inflightMemory = session.placed.filter (fun item => 2 < item.1) ∧
      (session.scheduler.pool.inflightCount 2 : ℤ) = min (2 : ℤ) session.scheduler.pool.inflightMemory.length := by
  intro session
  refine ⟨by decide +kernel, ?_⟩
  have consistent := pool_bookkeeping_consistent (sessionScheduler 2) ⟨rfl, rfl, rfl⟩ sessionCalls
    (by decide +kernel) (by decide +kernel) (by decide +kernel) sessionCalls [] (by simp)
  have slots : max 0 (sessionScheduler 2).pool.parallelSlots = 2 := by decide
  have refreshed := consistent.2 (sessionCalls.take 4) 2 rfl
  rwa [slots] at refreshed

/-- A pool of a negative number of slots has none and counts nothing, which is more than its number of slots. -/
theorem inflight_count_above_negative_slots :
    let session := PoolSession.afterAll ⟨sessionScheduler (-1), []⟩ [.refresh 0]
    (sessionScheduler (-1)).pool.Idle ∧ session.scheduler.pool.inflightCount 0 = 0 ∧
      ¬ (session.scheduler.pool.inflightCount 0 : ℤ) =
        min session.scheduler.pool.parallelSlots session.scheduler.pool.inflightMemory.length := by
  exact ⟨⟨rfl, rfl, rfl⟩, by decide +kernel, by decide +kernel⟩

end NimbusMesh
