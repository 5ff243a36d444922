import NimbusMesh.ControlPlane.Steps

namespace NimbusMesh.ControlPlane

open Foundation Foundation.Execution Foundation.SlotQueue

/-- How many requests admitted to a pool have arrived by an instant and are not finished then,
    whether they run or wait for a slot. -/
def outstanding (log : List (Arrival × RequestResult)) (clusterId poolId : String) (t : ℚ) : ℕ :=
  log.countP (fun entry =>
    AdmittedOn clusterId poolId entry.2 ∧ entry.1.now ≤ t ∧ t < entry.2.completionTs)

theorem outstanding_snoc (log : List (Arrival × RequestResult)) (arrival : Arrival)
    (result : RequestResult) (clusterId poolId : String) (t : ℚ) :
    outstanding (log ++ [(arrival, result)]) clusterId poolId t = outstanding log clusterId poolId t +
      if AdmittedOn clusterId poolId result ∧ arrival.now ≤ t ∧ t < result.completionTs then 1 else 0 := by
  simp [outstanding, List.countP_append, List.countP_cons]

def unfinished (pool : PoolRuntime) (now : ℚ) : ℕ := (pool.refresh now).inflightMemory.length

theorem unfinished_eq_busy (pool : PoolRuntime) (now : ℚ) :
    unfinished pool now = busy (pool.inflightMemory.map Prod.fst) now := by
  rw [unfinished, PoolRuntime.refresh, ← List.countP_eq_length_filter, busy, List.countP_map]
  rfl

/-- If a step places its request on the pool, the pool has fewer unfinished requests than its queue limit. -/
def RoomInQueue (clusterId poolId : String) (arrival : Arrival) (plane : ControlPlane) : Prop :=
  ∀ choice ∈ destination arrival plane, choice.clusterId = clusterId → choice.poolId = poolId →
    ∀ pool ∈ plane.poolIn clusterId poolId, (unfinished pool arrival.now : ℤ) < pool.queueLimit

instance (clusterId poolId : String) (arrival : Arrival) (plane : ControlPlane) :
    Decidable (RoomInQueue clusterId poolId arrival plane) :=
  inferInstanceAs (Decidable (∀ choice ∈ destination arrival plane, _ → _ → ∀ pool ∈ _, _ < _))

def QueueTracked (clusterId poolId : String) (limit : ℤ) (plane : ControlPlane)
    (log : List (Arrival × RequestResult)) : Prop :=
  ∃ pool, plane.poolIn clusterId poolId = some pool ∧ pool.queueLimit = limit ∧
    ∀ t, (∀ entry ∈ log, entry.1.now ≤ t) → outstanding log clusterId poolId t = unfinished pool t

theorem unfinished_refreshedPool (now : ℚ) (directory : KVCacheDirectory) (cluster : ClusterRuntime)
    (pool : PoolRuntime) {t : ℚ} (later : now ≤ t) :
    unfinished (refreshedPool now directory cluster pool) t = unfinished pool t := by
  simp only [unfinished, refreshedPool, PoolRuntime.refresh, List.filter_filter]
  congr 1
  apply List.filter_congr
  intro item _
  by_cases finishes : t < item.1
  · simp [finishes, lt_of_le_of_lt later finishes]
  · simp [finishes]

theorem Admission.unfinished {pool : PoolRuntime} {arrival : Arrival} {result : RequestResult}
    {call : PlacementCall} {slotIndex : ℕ} (admission : Admission pool arrival result call slotIndex) (t : ℚ) :
    ControlPlane.unfinished (servedPool call pool slotIndex) t =
      ControlPlane.unfinished pool t + if t < result.completionTs then 1 else 0 := by
  rw [unfinished_eq_busy, unfinished_eq_busy, admission.inflightMemory, List.map_append]
  exact busy_snoc _ _ _

theorem QueueTracked.serve {clusterId poolId : String} {limit : ℤ} {plane final : ControlPlane}
    {log : List (Arrival × RequestResult)} (tracked : QueueTracked clusterId poolId limit plane log)
    {arrival : Arrival} {result : RequestResult} (returned : ControlPlane.serve arrival plane = .ok result final) :
    QueueTracked clusterId poolId limit final (log ++ [(arrival, result)]) := by
  obtain ⟨pool, at_pool, configured, counted⟩ := tracked
  obtain ⟨cluster, _, ⟨elsewhere, same⟩ | ⟨here, call, slotIndex, admission, booked⟩⟩ := serve_pools returned at_pool
  · refine ⟨_, same, configured, ?_⟩
    intro t past
    have arrived : arrival.now ≤ t := past (arrival, result) (by simp)
    rw [outstanding_snoc, if_neg (fun counted => elsewhere counted.1), add_zero,
      unfinished_refreshedPool _ _ _ _ arrived]
    exact counted t (fun entry member => past entry (by simp [member]))
  · refine ⟨_, booked, (servedPool_queueLimit _ _ _).trans configured, ?_⟩
    intro t past
    have arrived : arrival.now ≤ t := past (arrival, result) (by simp)
    rw [outstanding_snoc, admission.unfinished, unfinished_refreshedPool _ _ _ _ arrived,
      counted t (fun entry member => past entry (by simp [member]))]
    simp only [here, arrived, true_and]

theorem outstanding_antitone {log : List (Arrival × RequestResult)} {clusterId poolId : String} {now t : ℚ}
    (arrived : ∀ entry ∈ log, entry.1.now ≤ now) (later : now ≤ t) :
    outstanding log clusterId poolId t ≤ outstanding log clusterId poolId now := by
  apply List.countP_mono_left
  intro entry member running
  simp only [decide_eq_true_eq] at running ⊢
  exact ⟨running.1, arrived entry member, lt_of_le_of_lt later running.2.2⟩

theorem QueueTracked.bounded {clusterId poolId : String} {limit : ℤ} {plane final : ControlPlane}
    {log : List (Arrival × RequestResult)} (tracked : QueueTracked clusterId poolId limit plane log)
    (bounded : ∀ t, (outstanding log clusterId poolId t : ℤ) ≤ limit) {arrival : Arrival} {result : RequestResult}
    (earlier : ∀ entry ∈ log, entry.1.now ≤ arrival.now) (room : RoomInQueue clusterId poolId arrival plane)
    (returned : ControlPlane.serve arrival plane = .ok result final) (t : ℚ) :
    (outstanding (log ++ [(arrival, result)]) clusterId poolId t : ℤ) ≤ limit := by
  rw [outstanding_snoc]
  split
  · rename_i running
    obtain ⟨here, arrived, _⟩ := running
    obtain ⟨choice, chosen, sameCluster, samePool⟩ := (admittedOn_iff_destination returned clusterId poolId).mp here
    obtain ⟨pool, at_pool, configured, counted⟩ := tracked
    have fits := room choice chosen sameCluster samePool pool at_pool
    rw [configured, ← counted arrival.now earlier] at fits
    have fewer : outstanding log clusterId poolId t ≤ outstanding log clusterId poolId arrival.now :=
      outstanding_antitone earlier arrived
    push_cast
    omega
  · simpa using bounded t

theorem QueueTracked.room {clusterId poolId : String} {limit : ℤ} {plane final : ControlPlane}
    {log : List (Arrival × RequestResult)} (tracked : QueueTracked clusterId poolId limit plane log)
    {arrival : Arrival} {result : RequestResult} (earlier : ∀ entry ∈ log, entry.1.now ≤ arrival.now)
    (returned : ControlPlane.serve arrival plane = .ok result final)
    (lasting : AdmittedOn clusterId poolId result → arrival.now < result.completionTs)
    (bounded : ∀ t, (outstanding (log ++ [(arrival, result)]) clusterId poolId t : ℤ) ≤ limit) :
    RoomInQueue clusterId poolId arrival plane := by
  intro choice chosen sameCluster samePool pool at_pool
  have here := (admittedOn_iff_destination returned clusterId poolId).mpr ⟨choice, chosen, sameCluster, samePool⟩
  obtain ⟨held, found, configured, counted⟩ := tracked
  have same : held = pool := Option.some.inj (found.symm.trans at_pool)
  subst same
  have within := bounded arrival.now
  rw [outstanding_snoc, if_pos ⟨here, le_refl _, lasting here⟩, counted arrival.now earlier] at within
  rw [configured]
  push_cast at within
  omega

/-- The requests outstanding on a pool never exceed its queue limit along a run whose steps all have room
    in the queue where they place their request. Where every placed request takes time, only along those. -/
theorem outstanding_le_queueLimit (config : ExperimentConfig) (environment : Environment)
    (plane final : ControlPlane) (created : create config environment = .ok plane)
    (arrivals : List Arrival) (ordered : arrivals.Pairwise (fun first second => first.now ≤ second.now))
    (results : List RequestResult) (returned : run arrivals plane = .ok results final)
    (clusterId poolId : String) (pool : PoolRuntime) (found : plane.poolIn clusterId poolId = some pool) :
    (0 ≤ pool.queueLimit → Along (RoomInQueue clusterId poolId) serve arrivals plane →
      ∀ t, (outstanding (arrivals.zip results) clusterId poolId t : ℤ) ≤ pool.queueLimit) ∧
    ((∀ entry ∈ arrivals.zip results, AdmittedOn clusterId poolId entry.2 → entry.1.now < entry.2.completionTs) →
      (∀ t, (outstanding (arrivals.zip results) clusterId poolId t : ℤ) ≤ pool.queueLimit) →
      0 ≤ pool.queueLimit ∧ Along (RoomInQueue clusterId poolId) serve arrivals plane) := by
  obtain ⟨cluster, spec, rfl⟩ := poolIn_create created found
  have initial : QueueTracked clusterId poolId (buildPool cluster spec).queueLimit plane [] :=
    ⟨_, found, rfl, fun _ _ => rfl⟩
  constructor
  · intro nonneg room
    exact (run_invariant
      (fun state log => QueueTracked clusterId poolId (buildPool cluster spec).queueLimit state log ∧
        ∀ t, (outstanding log clusterId poolId t : ℤ) ≤ (buildPool cluster spec).queueLimit)
      (fun _ _ _ _ _ held earlier room stepped =>
        ⟨held.1.serve stepped, held.1.bounded held.2 earlier room stepped⟩)
      ⟨initial, fun _ => nonneg⟩ (by simp) ordered room returned).2
  · intro lasting bounded
    refine ⟨le_trans (Int.natCast_nonneg _) (bounded 0), ?_⟩
    apply along_of_run (QueueTracked clusterId poolId (buildPool cluster spec).queueLimit)
      (fun log => (∀ entry ∈ log, AdmittedOn clusterId poolId entry.2 → entry.1.now < entry.2.completionTs) ∧
        ∀ t, (outstanding log clusterId poolId t : ℤ) ≤ (buildPool cluster spec).queueLimit)
      ?_ (fun _ _ _ _ _ tracked _ stepped => tracked.serve stepped) ?_ initial (by simp) ordered returned
      ⟨lasting, bounded⟩
    · rintro log later ⟨lasting, bounded⟩
      refine ⟨fun entry member => lasting entry (by simp [member]), fun t => le_trans ?_ (bounded t)⟩
      simp [outstanding, List.countP_append]
    · rintro state log arrival result next tracked earlier stepped ⟨lasting, bounded⟩
      exact tracked.room earlier stepped (lasting (arrival, result) (by simp)) bounded

theorem outstanding_le_queueLimit_two_slots :
    let arrivals : List Arrival := List.replicate 3 ⟨sessionRequest 1000, 0⟩
    ∃ plane results final pool,
      create (sessionConfig 2 3 80) (sessionEnvironment (emptyStore false)) = .ok plane ∧
      run arrivals plane = .ok results final ∧ plane.poolIn "c1" "p1" = some pool ∧
      results.map RequestResult.admitted = [true, true, true] ∧
      ∀ t, (outstanding (arrivals.zip results) "c1" "p1" t : ℤ) ≤ pool.queueLimit := by
  intro arrivals
  have ran : (resultsOf (sessionConfig 2 3 80) (sessionEnvironment (emptyStore false)) arrivals).map
      (fun results => results.map RequestResult.admitted) = some [true, true, true] := by
    decide +kernel
  obtain ⟨results, value, admitted⟩ := Option.map_eq_some_iff.mp ran
  obtain ⟨plane, final, created, returned⟩ := resultsOf_eq_some value
  cases created
  refine ⟨_, results, final, _, rfl, returned, rfl, admitted, ?_⟩
  exact (outstanding_le_queueLimit (sessionConfig 2 3 80) (sessionEnvironment (emptyStore false)) _ final rfl
    arrivals (by decide +kernel) results returned "c1" "p1" _ rfl).1 (by decide) (by decide +kernel)

/-- Three requests at once on one slot with a queue limit of two: all are admitted and outstanding. -/
theorem outstanding_exceeds_queueLimit :
    let arrivals : List Arrival := List.replicate 3 ⟨sessionRequest 1000, 0⟩
    ∃ plane results final pool,
      create (sessionConfig 1 2 80) (sessionEnvironment (emptyStore false)) = .ok plane ∧
      arrivals.Pairwise (fun first second => first.now ≤ second.now) ∧
      run arrivals plane = .ok results final ∧ plane.poolIn "c1" "p1" = some pool ∧
      ¬ (outstanding (arrivals.zip results) "c1" "p1" 0 : ℤ) ≤ pool.queueLimit := by
  intro arrivals
  have ran : (resultsOf (sessionConfig 1 2 80) (sessionEnvironment (emptyStore false)) arrivals).map
      (fun results => outstanding (arrivals.zip results) "c1" "p1" 0) = some 3 := by
    decide +kernel
  obtain ⟨results, value, count⟩ := Option.map_eq_some_iff.mp ran
  obtain ⟨plane, final, created, returned⟩ := resultsOf_eq_some value
  obtain ⟨pool, found, _, limit, _⟩ := poolIn_session created
  refine ⟨plane, results, final, pool, created, by decide +kernel, returned, found, ?_⟩
  rw [count, limit]
  decide

end NimbusMesh.ControlPlane
