import NimbusMesh.Cache.Calls
import NimbusMesh.Scheduler.Local
import Mathlib.Algebra.Order.Ring.Rat
import Mathlib.Data.List.ReduceOption
import Mathlib.Order.CompletePartialOrder
import Mathlib.Order.Interval.Set.Disjoint
import Mathlib.Tactic.Positivity

namespace NimbusMesh

open Foundation Foundation.Execution Foundation.SlotQueue

theorem placeRequest_eq_ok {call : PlacementCall} {scheduler final : LocalClusterScheduler}
    {result : RequestResult} (returned : placeRequest call scheduler = .ok result final) :
    ∃ slotIndex, earliest scheduler.pool.slotAvailableAt = some slotIndex ∧
      result = call.result scheduler.pool slotIndex ∧ final.pool = call.booked scheduler.pool slotIndex ∧
      KVCacheDirectory.observe result scheduler.cacheDirectory = .ok () final.cacheDirectory := by
  unfold placeRequest at returned
  split at returned
  · cases returned
  · rename_i slotIndex found
    simp only at returned
    split at returned
    · cases returned
    · rename_i observed
      cases returned
      exact ⟨slotIndex, found, rfl, rfl, observed⟩

def PlacementCall.NonnegLatency (call : PlacementCall) (scheduler : LocalClusterScheduler) : Prop :=
  0 ≤ (call.latency scheduler.pool).1 ∧ 0 ≤ (call.latency scheduler.pool).2

instance (call : PlacementCall) (scheduler : LocalClusterScheduler) :
    Decidable (call.NonnegLatency scheduler) :=
  inferInstanceAs (Decidable (_ ∧ _))

theorem PlacementCall.start_le_completion {call : PlacementCall} {scheduler : LocalClusterScheduler}
    (lasting : call.NonnegLatency scheduler) (slotIndex : ℕ) :
    call.startTs scheduler.pool slotIndex ≤ call.completionTs scheduler.pool slotIndex := by
  obtain ⟨prefill, decode⟩ := lasting
  have duration : 0 ≤ ((call.latency scheduler.pool).1 + (call.latency scheduler.pool).2) / 1000.0 := by
    positivity
  unfold PlacementCall.completionTs
  linarith

def unfinished (placed : List (PlacementCall × RequestResult)) (t : ℚ) : ℕ :=
  busy (placed.map (fun entry => entry.2.completionTs)) t

/-- A request is served first come, first served: calls before it were made no later, and it
    starts at the first instant from now on at which one of the servers is free. -/
def ServedBy (servers : ℕ) (before : List (PlacementCall × RequestResult)) (call : PlacementCall)
    (result : RequestResult) : Prop :=
  (∀ entry ∈ before, entry.1.now ≤ call.now) ∧
    IsLeast {t | call.now ≤ t ∧ unfinished before t < servers} result.actualStartTs

theorem ServedBy.start_eq_now_iff {servers : ℕ} {before : List (PlacementCall × RequestResult)}
    {call : PlacementCall} {result : RequestResult} (served : ServedBy servers before call result) :
    result.actualStartTs = call.now ↔ unfinished before call.now < servers := by
  obtain ⟨_, ⟨after, free⟩, least⟩ := served
  constructor
  · intro same
    rwa [same] at free
  · intro idle
    exact le_antisymm (least ⟨le_refl _, idle⟩) after

theorem ServedBy.no_overtaking {servers : ℕ} {before between : List (PlacementCall × RequestResult)}
    {first second : PlacementCall} {early late : RequestResult}
    (served : ServedBy servers before first early)
    (next : ServedBy servers (before ++ (first, early) :: between) second late) :
    early.actualStartTs ≤ late.actualStartTs := by
  obtain ⟨earlier, ⟨after, free⟩, _⟩ := next
  have arrived : first.now ≤ second.now := earlier (first, early) (by simp)
  have fewer : unfinished before late.actualStartTs ≤
      unfinished (before ++ (first, early) :: between) late.actualStartTs :=
    List.Sublist.countP_le ((List.sublist_append_left _ _).map _)
  exact served.2.2 ⟨arrived.trans after, lt_of_le_of_lt fewer free⟩

structure QueueInvariant (servers : ℕ) (scheduler : LocalClusterScheduler)
    (log : List (PlacementCall × RequestResult)) : Prop where
  slots : scheduler.pool.slotAvailableAt.length = servers
  tracks : Tracks scheduler.pool.slotAvailableAt (log.map (fun entry => entry.2.completionTs))
  served : Stepwise (ServedBy servers) log

theorem QueueInvariant.place {servers : ℕ} {scheduler final : LocalClusterScheduler}
    {log : List (PlacementCall × RequestResult)} (queue : QueueInvariant servers scheduler log)
    {call : PlacementCall} {result : RequestResult} (earlier : ∀ entry ∈ log, entry.1.now ≤ call.now)
    (nonneg : 0 ≤ call.now) (lasting : call.NonnegLatency scheduler)
    (returned : placeRequest call scheduler = .ok result final) :
    QueueInvariant servers final (log ++ [(call, result)]) := by
  obtain ⟨slotIndex, found, rfl, pool, _⟩ := placeRequest_eq_ok returned
  have later : scheduler.pool.slotAvailableAt.getD slotIndex 0 ≤
      call.completionTs scheduler.pool slotIndex :=
    (le_max_right _ _).trans (call.start_le_completion lasting slotIndex)
  have start := queue.tracks.start_least found nonneg
  rw [queue.slots] at start
  refine ⟨?_, ?_, queue.served.snoc ⟨earlier, start⟩⟩
  · rw [pool]
    simpa [PlacementCall.booked] using queue.slots
  · rw [pool, List.map_append]
    exact queue.tracks.book found later

/-- A pool with nothing placed on it yet is a first-come-first-served queue with as many servers
    as it has slots. -/
theorem placeRequest_fcfs (scheduler final : LocalClusterScheduler)
    (idle : scheduler.pool.slotAvailableAt = List.replicate scheduler.pool.parallelSlots.toNat 0)
    (calls : List PlacementCall)
    (ordered : calls.Pairwise (fun first second => first.now ≤ second.now))
    (nonneg : ∀ call ∈ calls, 0 ≤ call.now)
    (lasting : Along PlacementCall.NonnegLatency placeRequest calls scheduler)
    (results : List RequestResult)
    (returned : (calls.mapM placeRequest) scheduler = .ok results final) :
    results.length = calls.length ∧
      Stepwise (fun before call result =>
        IsLeast {t | call.now ≤ t ∧ unfinished before t < scheduler.pool.parallelSlots.toNat}
          result.actualStartTs ∧
        (result.actualStartTs = call.now ↔
          unfinished before call.now < scheduler.pool.parallelSlots.toNat)) (calls.zip results) ∧
      results.Pairwise (fun early late => early.actualStartTs ≤ late.actualStartTs) := by
  have same := mapM_length returned
  have initial : QueueInvariant scheduler.pool.parallelSlots.toNat scheduler [] :=
    ⟨by simp [idle], by rw [idle]; exact tracks_initial _, stepwise_nil _⟩
  have queue := run_invariant (QueueInvariant scheduler.pool.parallelSlots.toNat)
    (fun _ _ _ _ _ queue earlier meets stepped => queue.place earlier meets.1 meets.2 stepped)
    initial (by simp) ordered (lasting.and_inputs nonneg) returned
  have starts : (calls.zip results).Pairwise
      (fun early late => early.2.actualStartTs ≤ late.2.actualStartTs) :=
    queue.served.pairwise (fun _ _ _ _ _ _ served next => served.no_overtaking next)
  refine ⟨same, ?_, ?_⟩
  · intro before call result after split
    have served := queue.served before call result after split
    exact ⟨served.2, served.start_eq_now_iff⟩
  · have second : (calls.zip results).map Prod.snd = results := List.map_snd_zip (by omega)
    rw [← second]
    exact List.pairwise_map.mpr starts

def sessionPool (parallelSlots : ℤ) : PoolRuntime where
  clusterId := "c1"
  zone := "zone-a"
  poolId := "p1"
  backendName := "mock"
  acceleratorType := "a100"
  supportedModels := []
  prefillTps := 1000
  decodeTps := 512
  memoryGb := 80
  gpuCount := parallelSlots
  parallelSlots
  costPer1mTokens := 1
  energyProxy := 1
  topologyTier := "pcie-fabric"

def sessionCall (now : ℚ) : PlacementCall where
  request := sessionRequest 1000
  candidate := {
    clusterId := "c1", poolId := "p1", backendName := "mock", acceleratorType := "a100"
    queueDelayMs := 0, projectedPrefillMs := 1000, projectedDecodeMs := 1000
    expectedCacheHitRatio := 0, expectedCacheSavedTokens := 0, topologyAffinity := 0.5, networkCost := 0
    congestionScore := 0, memoryHeadroomGb := 80, acceleratorCostPer1mTokens := 1, fairnessPenalty := 0
    premium := false, available := true, rejectionReason := none
    scoreBreakdown := (sessionResult (sessionRequest 1000) "c1" "p1" 0).decision.scoreBreakdown }
  decision := (sessionResult (sessionRequest 1000) "c1" "p1" 0).decision
  backend := mockBackend
  now

def sessionScheduler (parallelSlots : ℤ) : LocalClusterScheduler where
  pool := sessionPool parallelSlots
  cacheDirectory := KVCacheDirectory.create 180 20000 (emptyStore false)

theorem placeRequest_fcfs_two_slots :
    ∃ results final,
      ([sessionCall 0, sessionCall 1, sessionCall 1].mapM placeRequest) (sessionScheduler 2) =
        .ok results final ∧
      results.map RequestResult.actualStartTs = [0, 1, 1.99] ∧
      results.Pairwise (fun early late => early.actualStartTs ≤ late.actualStartTs) := by
  have returned : ((valueOf (([sessionCall 0, sessionCall 1, sessionCall 1].mapM placeRequest)
      (sessionScheduler 2))).map (fun results => results.map RequestResult.actualStartTs)) =
        some [0, 1, 1.99] := by
    decide +kernel
  obtain ⟨results, value, starts⟩ := Option.map_eq_some_iff.mp returned
  obtain ⟨final, ran⟩ := valueOf_eq_some.mp value
  have fcfs := placeRequest_fcfs (sessionScheduler 2) final rfl
    [sessionCall 0, sessionCall 1, sessionCall 1] (by decide +kernel) (by decide +kernel)
    (by decide +kernel) results ran
  exact ⟨results, final, ran, starts, fcfs.2.2⟩

inductive PoolCall where
  | refresh (now : ℚ)
  | place (call : PlacementCall)

def PoolCall.perform : PoolCall → EStateM PyError LocalClusterScheduler (Option (ℕ × RequestResult))
  | .refresh now, scheduler => .ok none { scheduler with pool := scheduler.pool.refresh now }
  | .place call, scheduler =>
    match placeRequest call scheduler with
    | .error raised final => .error raised final
    | .ok result final =>
      .ok ((earliest scheduler.pool.slotAvailableAt).map (fun slotIndex => (slotIndex, result))) final

def PoolCall.NonnegLatency : PoolCall → LocalClusterScheduler → Prop
  | .refresh _, _ => True
  | .place call, scheduler => call.NonnegLatency scheduler

instance : ∀ (call : PoolCall) (scheduler : LocalClusterScheduler),
    Decidable (call.NonnegLatency scheduler)
  | .refresh _, _ => .isTrue True.intro
  | .place call, scheduler => inferInstanceAs (Decidable (call.NonnegLatency scheduler))

def execution (placed : ℕ × RequestResult) : Booking ℚ :=
  ⟨placed.1, placed.2.actualStartTs, placed.2.completionTs⟩

def executions (outputs : List (Option (ℕ × RequestResult))) : List (Booking ℚ) :=
  outputs.reduceOption.map execution

def SlotInvariant (slots : ℕ) (scheduler : LocalClusterScheduler)
    (log : List (PoolCall × Option (ℕ × RequestResult))) : Prop :=
  scheduler.pool.slotAvailableAt.length = slots ∧
    Booked scheduler.pool.slotAvailableAt (executions (log.map Prod.snd))

theorem SlotInvariant.perform {slots : ℕ} {scheduler final : LocalClusterScheduler}
    {log : List (PoolCall × Option (ℕ × RequestResult))} (kept : SlotInvariant slots scheduler log)
    {call : PoolCall} {output : Option (ℕ × RequestResult)} (lasting : call.NonnegLatency scheduler)
    (returned : call.perform scheduler = .ok output final) :
    SlotInvariant slots final (log ++ [(call, output)]) := by
  obtain ⟨length, booked⟩ := kept
  have extended : executions ((log ++ [(call, output)]).map Prod.snd) =
      executions (log.map Prod.snd) ++ executions [output] := by
    simp [executions, List.reduceOption_append]
  cases call with
  | refresh now =>
    cases returned
    refine ⟨length, ?_⟩
    rw [extended, show executions [none] = [] from rfl, List.append_nil]
    exact booked
  | place call =>
    simp only [PoolCall.perform] at returned
    split at returned
    · cases returned
    · rename_i result final placed
      obtain ⟨slotIndex, found, rfl, pool, _⟩ := placeRequest_eq_ok placed
      cases returned
      have taken := booked.book (earliest_lt found) (le_max_right call.now _)
        (call.start_le_completion lasting slotIndex)
      refine ⟨by rw [pool]; simpa [PlacementCall.booked] using length, ?_⟩
      rw [extended, pool, found]
      exact taken

/-- Slots are never double-booked, in whatever order of time the calls come. -/
theorem slots_never_double_booked (scheduler final : LocalClusterScheduler)
    (slots : scheduler.pool.slotAvailableAt.length = scheduler.pool.parallelSlots.toNat)
    (calls : List PoolCall) (outputs : List (Option (ℕ × RequestResult)))
    (lasting : Along PoolCall.NonnegLatency PoolCall.perform calls scheduler)
    (returned : (calls.mapM PoolCall.perform) scheduler = .ok outputs final) :
    final.pool.slotAvailableAt.length = scheduler.pool.parallelSlots.toNat ∧
      outputs.reduceOption.Pairwise (fun first second => first.1 = second.1 →
        Disjoint (Set.Ico first.2.actualStartTs first.2.completionTs)
          (Set.Ico second.2.actualStartTs second.2.completionTs)) ∧
      ∀ t, outputs.reduceOption.countP
          (fun placed => placed.2.actualStartTs ≤ t ∧ t < placed.2.completionTs) ≤
        scheduler.pool.parallelSlots.toNat := by
  have initial : SlotInvariant scheduler.pool.parallelSlots.toNat scheduler [] :=
    ⟨slots, ⟨by simp [executions], by simp [executions]⟩⟩
  have anyOrder : calls.Pairwise (fun _ _ => True) := List.pairwise_of_forall (fun _ _ => True.intro)
  obtain ⟨length, booked⟩ := run_invariant (SlotInvariant scheduler.pool.parallelSlots.toNat)
    (fun _ _ _ _ _ kept _ lasting returned => kept.perform lasting returned)
    initial (by simp) anyOrder lasting returned
  have second : (calls.zip outputs).map Prod.snd = outputs :=
    List.map_snd_zip (by rw [mapM_length returned])
  rw [List.nil_append, second] at booked
  refine ⟨length, ?_, ?_⟩
  · refine (List.pairwise_map.mp booked.apart).imp ?_
    intro first second apart same
    rw [Set.Ico_disjoint_Ico]
    exact (min_le_left _ _).trans ((apart same).trans (le_max_right _ _))
  · intro t
    have covering := booked.covering_le t
    rw [length, executions, ← List.countP_eq_length_filter, List.countP_map] at covering
    exact covering

theorem slots_never_double_booked_out_of_order :
    ∃ outputs final,
      ([.place (sessionCall 5), .refresh 0, .place (sessionCall 0)].mapM PoolCall.perform)
        (sessionScheduler 1) = .ok outputs final ∧
      outputs.reduceOption.map (fun placed => (placed.1, placed.2.actualStartTs)) = [(0, 5), (0, 6.99)] ∧
      final.pool.slotAvailableAt.length = 1 := by
  have returned : ((valueOf (([.place (sessionCall 5), .refresh 0, .place (sessionCall 0)].mapM
      PoolCall.perform) (sessionScheduler 1))).map (fun outputs => outputs.reduceOption.map
        (fun placed => (placed.1, placed.2.actualStartTs)))) = some [(0, 5), (0, 6.99)] := by
    decide +kernel
  obtain ⟨outputs, value, starts⟩ := Option.map_eq_some_iff.mp returned
  obtain ⟨final, ran⟩ := valueOf_eq_some.mp value
  have kept := slots_never_double_booked (sessionScheduler 1) final rfl _ outputs
    (by decide +kernel) ran
  exact ⟨outputs, final, ran, starts, kept.1⟩

end NimbusMesh
