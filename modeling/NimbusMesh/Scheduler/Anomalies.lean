import NimbusMesh.Foundation.Simulation
import NimbusMesh.Scheduler.Slots

namespace NimbusMesh

open Foundation Foundation.Decimal Foundation.Execution Foundation.SlotQueue

/-- A placement books the slot that is free first, also when recording the result raises; with no slot
    it raises and books nothing. -/
theorem stateAfter_placeRequest (call : PlacementCall) (scheduler : LocalClusterScheduler) :
    (stateAfter (placeRequest call) scheduler).pool =
      match earliest scheduler.pool.slotAvailableAt with
      | none => scheduler.pool
      | some slotIndex => call.booked scheduler.pool slotIndex := by
  unfold stateAfter placeRequest
  cases earliest scheduler.pool.slotAvailableAt with
  | none => rfl
  | some slotIndex =>
    dsimp only
    cases KVCacheDirectory.observe (call.result scheduler.pool slotIndex) scheduler.cacheDirectory with
    | error raised cacheDirectory => rfl
    | ok done cacheDirectory => rfl

def outcomes : List PlacementCall → LocalClusterScheduler → List (Except PyError RequestResult)
  | [], _ => []
  | call :: rest, scheduler =>
    outcome (placeRequest call scheduler) :: outcomes rest (stateAfter (placeRequest call) scheduler)

def PlacementCall.durationMs (call : PlacementCall) (scheduler : LocalClusterScheduler) : ℚ :=
  (call.latency scheduler.pool).1 + (call.latency scheduler.pool).2

def PlacementCall.Shortens (shorter : PlacementCall) (light : LocalClusterScheduler) (call : PlacementCall)
    (heavy : LocalClusterScheduler) : Prop :=
  shorter.now = call.now ∧ shorter.durationMs light ≤ call.durationMs heavy

instance (shorter call : PlacementCall) (light heavy : LocalClusterScheduler) :
    Decidable (shorter.Shortens light call heavy) :=
  inferInstanceAs (Decidable (_ ∧ _))

/-- A run and what became of each of its calls in another one: it was deleted, or it stands there with a
    latency that was shortened or left as it is. Latencies are those the backends give in the two runs. -/
def Relieved : List (PlacementCall × Option PlacementCall) → LocalClusterScheduler → LocalClusterScheduler → Prop
  | [], _, _ => True
  | (call, none) :: rest, light, heavy =>
    call.NonnegLatency heavy ∧ Relieved rest light (stateAfter (placeRequest call) heavy)
  | (call, some shorter) :: rest, light, heavy =>
    call.NonnegLatency heavy ∧ shorter.NonnegLatency light ∧ shorter.Shortens light call heavy ∧
      Relieved rest (stateAfter (placeRequest shorter) light) (stateAfter (placeRequest call) heavy)

instance decidableRelieved : ∀ (edits : List (PlacementCall × Option PlacementCall))
    (light heavy : LocalClusterScheduler), Decidable (Relieved edits light heavy)
  | [], _, _ => .isTrue True.intro
  | (_, none) :: rest, light, _ =>
    have := decidableRelieved rest light
    inferInstanceAs (Decidable (_ ∧ _))
  | (_, some _) :: rest, _, _ =>
    have := decidableRelieved rest
    inferInstanceAs (Decidable (_ ∧ _ ∧ _ ∧ _))

def remaining (edits : List (PlacementCall × Option PlacementCall)) (scheduler : LocalClusterScheduler) :
    List (Except PyError RequestResult) :=
  ((edits.zip (outcomes (edits.map Prod.fst) scheduler)).filter (fun entry => entry.1.2.isSome)).map Prod.snd

def NoLater (second first : Except PyError RequestResult) : Prop :=
  ∀ light heavy, second = .ok light → first = .ok heavy →
    light.actualStartTs ≤ heavy.actualStartTs ∧ light.queueDelayMs ≤ heavy.queueDelayMs ∧
      light.completionTs ≤ heavy.completionTs

theorem PlacementCall.startTs_le {shorter call : PlacementCall} {light heavy : LocalClusterScheduler}
    (shortens : shorter.Shortens light call heavy)
    (lighter : Lighter light.pool.slotAvailableAt heavy.pool.slotAvailableAt) {i j : ℕ}
    (found : earliest light.pool.slotAvailableAt = some i) (other : earliest heavy.pool.slotAvailableAt = some j) :
    shorter.startTs light.pool i ≤ call.startTs heavy.pool j := by
  unfold PlacementCall.startTs
  rw [shortens.1]
  exact max_le_max_left _ (lighter.earliest_le found other)

theorem PlacementCall.completionTs_le {shorter call : PlacementCall} {light heavy : LocalClusterScheduler}
    (shortens : shorter.Shortens light call heavy)
    (lighter : Lighter light.pool.slotAvailableAt heavy.pool.slotAvailableAt) {i j : ℕ}
    (found : earliest light.pool.slotAvailableAt = some i) (other : earliest heavy.pool.slotAvailableAt = some j) :
    shorter.completionTs light.pool i ≤ call.completionTs heavy.pool j := by
  have start := startTs_le shortens lighter found other
  have duration : shorter.durationMs light / 1000.0 ≤ call.durationMs heavy / 1000.0 :=
    div_le_div_of_nonneg_right shortens.2 (by norm_num)
  exact add_le_add start duration

theorem noLater_outcome {shorter call : PlacementCall} {light heavy : LocalClusterScheduler}
    (shortens : shorter.Shortens light call heavy)
    (lighter : Lighter light.pool.slotAvailableAt heavy.pool.slotAvailableAt) :
    NoLater (outcome (placeRequest shorter light)) (outcome (placeRequest call heavy)) := by
  intro second first returned returnedToo
  cases placed : placeRequest shorter light with
  | error raised final =>
    rw [placed] at returned
    cases returned
  | ok result final =>
    cases placedToo : placeRequest call heavy with
    | error raised other =>
      rw [placedToo] at returnedToo
      cases returnedToo
    | ok resultToo other =>
      rw [placed] at returned
      rw [placedToo] at returnedToo
      cases returned
      cases returnedToo
      obtain ⟨i, found, rfl, _, _⟩ := placeRequest_eq_ok placed
      obtain ⟨j, foundToo, rfl, _, _⟩ := placeRequest_eq_ok placedToo
      have start := PlacementCall.startTs_le shortens lighter found foundToo
      have wait : max 0 (shorter.startTs light.pool i - shorter.now) * 1000.0 ≤
          max 0 (call.startTs heavy.pool j - call.now) * 1000.0 := by
        rw [shortens.1]
        exact mul_le_mul_of_nonneg_right (max_le_max_left _ (sub_le_sub_right start _)) (by norm_num)
      exact ⟨start, roundTo_mono 4 wait, PlacementCall.completionTs_le shortens lighter found foundToo⟩

theorem lighter_deleted {call : PlacementCall} {light heavy : LocalClusterScheduler}
    (lasting : call.NonnegLatency heavy)
    (lighter : Lighter light.pool.slotAvailableAt heavy.pool.slotAvailableAt) :
    Lighter light.pool.slotAvailableAt (stateAfter (placeRequest call) heavy).pool.slotAvailableAt := by
  rw [stateAfter_placeRequest]
  cases other : earliest heavy.pool.slotAvailableAt with
  | none => exact lighter
  | some j =>
    have later : heavy.pool.slotAvailableAt.getD j 0 ≤ call.completionTs heavy.pool j :=
      (le_max_right _ _).trans (call.start_le_completion lasting j)
    exact lighter.book_heavy other later

theorem lighter_shortened {shorter call : PlacementCall} {light heavy : LocalClusterScheduler}
    (lasting : call.NonnegLatency heavy) (shortens : shorter.Shortens light call heavy)
    (lighter : Lighter light.pool.slotAvailableAt heavy.pool.slotAvailableAt) :
    Lighter (stateAfter (placeRequest shorter) light).pool.slotAvailableAt
      (stateAfter (placeRequest call) heavy).pool.slotAvailableAt := by
  rw [stateAfter_placeRequest, stateAfter_placeRequest]
  cases found : earliest light.pool.slotAvailableAt with
  | none =>
    have empty : light.pool.slotAvailableAt = [] := by
      by_contra nonempty
      obtain ⟨i, some⟩ := earliest_of_ne_nil nonempty
      rw [found] at some
      cases some
    have emptyToo : heavy.pool.slotAvailableAt = [] := by
      rw [← List.length_eq_zero_iff, ← lighter.length, empty]
      rfl
    have none : earliest heavy.pool.slotAvailableAt = none := by
      rw [emptyToo]
      rfl
    rw [none]
    exact lighter
  | some i =>
    have nonempty : heavy.pool.slotAvailableAt ≠ [] := by
      have bound := earliest_lt found
      rw [lighter.length] at bound
      exact List.ne_nil_of_length_pos (by omega)
    obtain ⟨j, other⟩ := earliest_of_ne_nil nonempty
    rw [other]
    have later : heavy.pool.slotAvailableAt.getD j 0 ≤ call.completionTs heavy.pool j :=
      (le_max_right _ _).trans (call.start_le_completion lasting j)
    exact lighter.book found other later (PlacementCall.completionTs_le shortens lighter found other)

theorem relieved_noLater {edits : List (PlacementCall × Option PlacementCall)}
    {light heavy : LocalClusterScheduler} (relieved : Relieved edits light heavy)
    (lighter : Lighter light.pool.slotAvailableAt heavy.pool.slotAvailableAt) :
    List.Forall₂ NoLater (outcomes (edits.filterMap Prod.snd) light) (remaining edits heavy) := by
  induction edits generalizing light heavy with
  | nil => exact List.Forall₂.nil
  | cons edit rest ih =>
    obtain ⟨call, kept⟩ := edit
    cases kept with
    | none =>
      obtain ⟨lasting, later⟩ := relieved
      exact ih later (lighter_deleted lasting lighter)
    | some shorter =>
      obtain ⟨lasting, _, shortens, later⟩ := relieved
      exact List.Forall₂.cons (noLater_outcome shortens lighter)
        (ih later (lighter_shortened lasting shortens lighter))

/-- No scheduling anomalies within a pool: when calls are deleted or their latencies shortened, every call
    that remains starts no later, waits no longer and completes no later, on whichever slots it then runs. -/
theorem no_scheduling_anomalies (scheduler : LocalClusterScheduler)
    (edits : List (PlacementCall × Option PlacementCall)) (relieved : Relieved edits scheduler scheduler) :
    List.Forall₂ NoLater (outcomes (edits.filterMap Prod.snd) scheduler) (remaining edits scheduler) :=
  relieved_noLater relieved (Lighter.refl _)

theorem no_scheduling_anomalies_deleted_first :
    let edits := [(sessionCall 0, none), (sessionCall 0, some (sessionCall 0)), (sessionCall 1, some (sessionCall 1))]
    (remaining edits (sessionScheduler 2)).map (fun outcome => outcome.toOption.map RequestResult.actualStartTs) =
      [some 0, some 1.99] ∧
    (outcomes (edits.filterMap Prod.snd) (sessionScheduler 2)).map
      (fun outcome => outcome.toOption.map RequestResult.actualStartTs) = [some 0, some 1] ∧
    List.Forall₂ NoLater (outcomes (edits.filterMap Prod.snd) (sessionScheduler 2))
      (remaining edits (sessionScheduler 2)) := by
  intro edits
  have first : (remaining edits (sessionScheduler 2)).map
      (fun outcome => outcome.toOption.map RequestResult.actualStartTs) = [some 0, some 1.99] := by
    decide +kernel
  have second : (outcomes (edits.filterMap Prod.snd) (sessionScheduler 2)).map
      (fun outcome => outcome.toOption.map RequestResult.actualStartTs) = [some 0, some 1] := by
    decide +kernel
  exact ⟨first, second, no_scheduling_anomalies (sessionScheduler 2) edits (by decide +kernel)⟩

end NimbusMesh
