import NimbusMesh.ControlPlane.NonnegativeCosts
import NimbusMesh.Foundation.Backlog

namespace NimbusMesh.ControlPlane

open Foundation Foundation.Execution Foundation.SlotQueue

variable {plane final : ControlPlane} {arrival : Arrival} {result : RequestResult} {clusterId poolId : String}

def executions (clusterId poolId : String) (log : List (Arrival × RequestResult)) : List (ℚ × ℚ) :=
  (log.filter (fun entry => AdmittedOn clusterId poolId entry.2)).map (fun entry =>
    (entry.2.actualStartTs, entry.2.completionTs))

theorem executions_snoc (log : List (Arrival × RequestResult)) (arrival : Arrival) (result : RequestResult) :
    executions clusterId poolId (log ++ [(arrival, result)]) = executions clusterId poolId log ++
      if AdmittedOn clusterId poolId result then [(result.actualStartTs, result.completionTs)] else [] := by
  unfold executions
  rw [List.filter_append, List.map_append]
  by_cases here : AdmittedOn clusterId poolId result
  · simp [here]
  · simp [here]

theorem serve_forward (costs : NonnegativeCosts plane) (returned : serve arrival plane = .ok result final)
    (admitted : result.admitted = true) : result.actualStartTs ≤ result.completionTs := by
  obtain ⟨_, pool, _, _, call, slotIndex, placed⟩ := execute_admitted returned admitted
  obtain ⟨prefill, decode, _⟩ := (costs.refresh arrival.now).nonnegLatency placed
  rw [placed.result]
  exact @PlacementCall.start_le_completion call ⟨pool, plane.cacheDirectory⟩ ⟨prefill, decode⟩ slotIndex

/-- The slots of a pool are taken for the work of the requests admitted to it, and no request waited for longer than
    its share of the work it found. -/
structure WorkHeld (clusterId poolId : String) (slots : ℕ) (pool : PoolRuntime) (log : List (Arrival × RequestResult)) :
    Prop where
  length : pool.slotAvailableAt.length = slots
  conserves : ∀ now, 0 ≤ now → (∀ entry ∈ log, entry.1.now ≤ now) →
    Conserves pool.slotAvailableAt (executions clusterId poolId log) now
  shared : Stepwise (fun before arrival result => AdmittedOn clusterId poolId result →
    slots * (result.actualStartTs - arrival.now) ≤ backlog (executions clusterId poolId before) arrival.now) log

theorem WorkHeld.serve {slots : ℕ} {pool : PoolRuntime} {log : List (Arrival × RequestResult)}
    (found : plane.poolIn clusterId poolId = some pool) (held : WorkHeld clusterId poolId slots pool log)
    (costs : NonnegativeCosts plane) (earlier : ∀ entry ∈ log, entry.1.now ≤ arrival.now) (nonneg : 0 ≤ arrival.now)
    (returned : ControlPlane.serve arrival plane = .ok result final) :
    ∃ after, final.poolIn clusterId poolId = some after ∧
      WorkHeld clusterId poolId slots after (log ++ [(arrival, result)]) := by
  have before := held.conserves arrival.now nonneg earlier
  obtain ⟨cluster, _, ⟨elsewhere, same⟩ | ⟨here, call, slotIndex, admission, booked⟩⟩ := serve_pools returned found
  · refine ⟨_, same, held.length, ?_, held.shared.snoc (fun here => absurd here elsewhere)⟩
    intro now start past
    rw [executions_snoc, if_neg elsewhere, List.append_nil]
    exact held.conserves now start (fun entry member => past entry (by simp [member]))
  · have slot : earliest pool.slotAvailableAt = some slotIndex := admission.slot
    have starts : result.actualStartTs = max arrival.now (pool.slotAvailableAt.getD slotIndex 0) := by
      rw [admission.result, ← admission.now]
      rfl
    have forward := serve_forward costs returned here.1
    have slotsAfter : (servedPool call (refreshedPool arrival.now
        (plane.cacheDirectory.evictStale arrival.now) cluster pool) slotIndex).slotAvailableAt =
        pool.slotAvailableAt.set slotIndex result.completionTs := admission.slotAvailableAt
    refine ⟨_, booked, ?_, ?_, held.shared.snoc ?_⟩
    · rw [slotsAfter, List.length_set, held.length]
    · intro now start past
      have arrived : arrival.now ≤ now := past (arrival, result) (by simp)
      rw [slotsAfter, executions_snoc, if_pos here, starts]
      rw [starts] at forward
      exact (before.book (earliest_lt slot) forward).later arrived
    · intro _
      have wait := before.wait_le slot
      rw [nsmul_eq_mul, held.length] at wait
      rw [starts]
      exact wait

/-- Work is conserved on every pool of every run without negative costs: once the last request has arrived, the slots
    are taken for exactly as long as the admitted requests still have to run, and no request waits longer for a slot
    than the work it found on the pool would take all slots together. -/
theorem work_conserved (config : ExperimentConfig) (environment : Environment) (plane final : ControlPlane)
    (created : create config environment = .ok plane) (nonneg : config.Nonneg) (arrivals : List Arrival)
    (ordered : arrivals.Pairwise (fun first second => first.now ≤ second.now))
    (started : ∀ arrival ∈ arrivals, 0 ≤ arrival.now) (results : List RequestResult)
    (returned : run arrivals plane = .ok results final) (clusterId poolId : String) (pool : PoolRuntime)
    (found : plane.poolIn clusterId poolId = some pool) :
    (∃ reached, final.poolIn clusterId poolId = some reached ∧
      ∀ t, 0 ≤ t → (∀ arrival ∈ arrivals, arrival.now ≤ t) →
        committed reached.slotAvailableAt t = backlog (executions clusterId poolId (arrivals.zip results)) t) ∧
    Stepwise (fun before arrival result => AdmittedOn clusterId poolId result →
      pool.parallelSlots.toNat * (result.actualStartTs - arrival.now) ≤
        backlog (executions clusterId poolId before) arrival.now) (arrivals.zip results) := by
  obtain ⟨cluster, spec, rfl⟩ := poolIn_create created found
  have initial : WorkHeld clusterId poolId spec.parallelSlots.toNat (buildPool cluster spec) [] := by
    refine ⟨List.length_replicate, ?_, stepwise_nil _⟩
    intro now start _
    exact (conserves_initial spec.parallelSlots.toNat).later start
  obtain ⟨_, reached, at_pool, held⟩ := run_invariant
    (fun state log => NonnegativeCosts state ∧ ∃ after, state.poolIn clusterId poolId = some after ∧
      WorkHeld clusterId poolId spec.parallelSlots.toNat after log)
    (by
      rintro state log arrival result next ⟨costs, before, at_pool, held⟩ earlier start stepped
      exact ⟨(costs.refresh arrival.now).execute stepped, held.serve at_pool costs earlier start.1 stepped⟩)
    ⟨nonnegativeCosts_create nonneg created, _, found, initial⟩ (by simp) ordered
    ((along_true _ _ _).and_inputs started) returned
  refine ⟨⟨reached, at_pool, ?_⟩, held.shared⟩
  intro t start past
  apply held.conserves t start _ t (le_refl t)
  intro entry member
  exact past entry.1 (List.of_mem_zip member).1

theorem work_conserved_two_slots :
    let arrivals : List Arrival := List.replicate 3 ⟨sessionRequest 1000, 0⟩
    ∃ plane results final reached,
      create (sessionConfig 2 8 80) (sessionEnvironment (emptyStore false)) = .ok plane ∧
      run arrivals plane = .ok results final ∧ final.poolIn "c1" "p1" = some reached ∧
      results.map RequestResult.actualStartTs = [0, 0, 1.9980253] ∧
      committed reached.slotAvailableAt 0 = backlog (executions "c1" "p1" (arrivals.zip results)) 0 := by
  intro arrivals
  have ran : (resultsOf (sessionConfig 2 8 80) (sessionEnvironment (emptyStore false)) arrivals).map
      (fun results => results.map RequestResult.actualStartTs) = some [0, 0, 1.9980253] := by
    decide +kernel
  obtain ⟨results, value, starts⟩ := Option.map_eq_some_iff.mp ran
  obtain ⟨plane, final, created, returned⟩ := resultsOf_eq_some value
  obtain ⟨pool, found, _⟩ := poolIn_session created
  obtain ⟨⟨reached, at_pool, conserved⟩, _⟩ := work_conserved (sessionConfig 2 8 80)
    (sessionEnvironment (emptyStore false)) plane final created (nonneg_sessionConfig 2 8 80) arrivals
    (by decide +kernel) (by decide +kernel) results returned "c1" "p1" pool found
  exact ⟨plane, results, final, reached, created, returned, at_pool, starts,
    conserved 0 (le_refl 0) (by decide +kernel)⟩

end NimbusMesh.ControlPlane
