import NimbusMesh.ControlPlane.Availability

namespace NimbusMesh.ControlPlane

open Foundation Foundation.Execution

def windowsOf (plane : ControlPlane) (clusterId : String) : Option (List (ℚ × ℚ)) :=
  (plane.clusters.get? clusterId).map ClusterRuntime.failureWindows

theorem windowsOf_refresh (plane : ControlPlane) (now : ℚ) (clusterId : String) :
    (plane.refresh now).windowsOf clusterId = plane.windowsOf clusterId := by
  obtain ⟨_, _, refreshed⟩ := refresh_eq plane now
  rw [refreshed]
  simp only [windowsOf, KeyedList.get?_map, Option.map_map]
  rfl

theorem windowsOf_setPool {plane : ControlPlane} {cluster : ClusterRuntime}
    (found : plane.clusters.get? cluster.clusterId = some cluster) (pool : PoolRuntime) (clusterId : String) :
    (plane.setPool cluster pool).windowsOf clusterId = plane.windowsOf clusterId := by
  simp only [windowsOf, setPool, KeyedList.get?_insert]
  split
  · rename_i same
    rw [← same, found]
    rfl
  · rfl

theorem windowsOf_serve {arrival : Arrival} {plane final : ControlPlane} {result : RequestResult}
    (returned : serve arrival plane = .ok result final) (clusterId : String) :
    final.windowsOf clusterId = plane.windowsOf clusterId := by
  obtain ⟨_, _, choice, cluster, pool, policy, _, _, chosen, outcome⟩ := execute_eq_ok returned
  rw [← windowsOf_refresh plane arrival.now clusterId]
  rcases outcome with ⟨_, _, rfl⟩ | ⟨_, call, scheduler, _, _, _, _, _, _, rfl⟩
  · rfl
  · have owner := (poolAt_eq_some chosen.found).1
    rw [← chosen.clusterId] at owner
    exact windowsOf_setPool owner _ clusterId

theorem execute_starts {request : InferenceRequest} {now : ℚ} {plane final : ControlPlane}
    {result : RequestResult} (returned : execute request now plane = .ok result final)
    (admitted : result.admitted = true) : now ≤ result.actualStartTs := by
  obtain ⟨_, _, choice, cluster, pool, policy, _, _, chosen, outcome⟩ := execute_eq_ok returned
  rcases outcome with ⟨_, rejected, _⟩ | ⟨_, call, scheduler, _, _, rfl, _, _, placing, _⟩
  · rw [rejected] at admitted
    cases admitted
  · obtain ⟨slotIndex, _, rfl, _, _⟩ := placeRequest_eq_ok placing
    exact le_max_left _ _

/-- A request is admitted outside the outages of its cluster, and an outage its execution starts
    in began after it arrived. -/
def ClearOf (windows : List (ℚ × ℚ)) (arrival : Arrival) (result : RequestResult) : Prop :=
  ∀ window ∈ windows, ¬ (window.1 ≤ arrival.now ∧ arrival.now ≤ window.2) ∧
    (window.1 ≤ result.actualStartTs ∧ result.actualStartTs ≤ window.2 →
      arrival.now < window.1 ∧ arrival.now < result.actualStartTs)

theorem serve_clear {arrival : Arrival} {plane final : ControlPlane} {result : RequestResult}
    (returned : serve arrival plane = .ok result final) (admitted : result.admitted = true) :
    ∃ windows, plane.windowsOf result.decision.clusterId = some windows ∧ ClearOf windows arrival result := by
  obtain ⟨cluster, pool, located, fits⟩ := execute_admits_fitting returned admitted
  have starts := execute_starts returned admitted
  refine ⟨cluster.failureWindows, ?_, ?_⟩
  · rw [← windowsOf_refresh plane arrival.now, windowsOf, (poolAt_eq_some located).1]
    rfl
  · intro window member
    have up := fits.up window member
    refine ⟨up, ?_⟩
    rintro ⟨opened, open_⟩
    have later : arrival.now < window.1 := by
      by_contra early
      exact up ⟨le_of_not_gt early, starts.trans open_⟩
    exact ⟨later, later.trans_le opened⟩

theorem windowsOf_create {config : ExperimentConfig} {environment : Environment} {plane : ControlPlane}
    (created : create config environment = .ok plane) {clusterId : String} {windows : List (ℚ × ℚ)}
    (found : plane.windowsOf clusterId = some windows) :
    ∃ spec ∈ config.clusters, spec.clusterId = clusterId ∧ spec.failureWindows = windows := by
  obtain ⟨policy, _, built⟩ := except_bind_eq_ok.mp created
  cases built
  obtain ⟨cluster, at_cluster, rfl⟩ := Option.map_eq_some_iff.mp found
  obtain ⟨inClusters, named⟩ := KeyedList.get?_eq_some.mp at_cluster
  rcases KeyedList.mem_foldl_insert buildCluster _ _ inClusters with empty | ⟨spec, member, rfl⟩
  · cases empty
  · exact ⟨spec, member, named, rfl⟩

/-- In every run an admitted request arrives outside the failure windows of its cluster, and its
    execution starts inside one only after waiting for a slot, when the window opened after the
    arrival. -/
theorem outages_begin_after_arrival (config : ExperimentConfig) (environment : Environment)
    (plane final : ControlPlane) (created : create config environment = .ok plane)
    (arrivals : List Arrival) (results : List RequestResult)
    (returned : run arrivals plane = .ok results final) :
    ∀ entry ∈ arrivals.zip results, entry.2.admitted = true →
      ∃ spec ∈ config.clusters, spec.clusterId = entry.2.decision.clusterId ∧
        ∀ window ∈ spec.failureWindows,
          ¬ (window.1 ≤ entry.1.now ∧ entry.1.now ≤ window.2) ∧
          (window.1 ≤ entry.2.actualStartTs ∧ entry.2.actualStartTs ≤ window.2 →
            entry.1.now < window.1 ∧ entry.1.now < entry.2.actualStartTs) := by
  obtain ⟨_, clear⟩ := mapM_entries
    (fun state => ∀ clusterId, state.windowsOf clusterId = plane.windowsOf clusterId)
    (fun arrival result => result.admitted = true → ∃ windows,
      plane.windowsOf result.decision.clusterId = some windows ∧ ClearOf windows arrival result)
    (by
      intro arrival state result next (_ : True) same stepped
      refine ⟨fun clusterId => (windowsOf_serve stepped clusterId).trans (same clusterId), ?_⟩
      intro admitted
      rw [← same]
      exact serve_clear stepped admitted)
    (fun _ _ => True.intro) (fun _ => rfl) returned
  intro entry member admitted
  obtain ⟨windows, found, outside⟩ := clear entry member admitted
  obtain ⟨spec, configured, named, rfl⟩ := windowsOf_create created found
  exact ⟨spec, configured, named, outside⟩

def outageConfig : ExperimentConfig :=
  { sessionConfig 1 8 80 with
    clusters := (sessionConfig 1 8 80).clusters.map (fun cluster =>
      { cluster with failureWindows := [(1.5, 10)] }) }

theorem outages_begin_after_arrival_one_slot :
    let arrivals : List Arrival := [⟨sessionRequest 1000, 0⟩, ⟨sessionRequest 1000, 0⟩, ⟨sessionRequest 1000, 2⟩]
    ∃ plane results final, create outageConfig (sessionEnvironment (emptyStore false)) = .ok plane ∧
      run arrivals plane = .ok results final ∧
      results.map RequestResult.admitted = [true, true, false] ∧
      ∀ entry ∈ arrivals.zip results, entry.2.admitted = true →
        ∃ spec ∈ outageConfig.clusters, spec.clusterId = entry.2.decision.clusterId ∧
          ∀ window ∈ spec.failureWindows, ¬ (window.1 ≤ entry.1.now ∧ entry.1.now ≤ window.2) := by
  intro arrivals
  have ran : (resultsOf outageConfig (sessionEnvironment (emptyStore false)) arrivals).map
      (fun results => results.map RequestResult.admitted) = some [true, true, false] := by
    decide +kernel
  obtain ⟨results, value, admitted⟩ := Option.map_eq_some_iff.mp ran
  obtain ⟨plane, final, created, returned⟩ := resultsOf_eq_some value
  refine ⟨plane, results, final, created, returned, admitted, ?_⟩
  intro entry member accepted
  obtain ⟨spec, configured, named, clear⟩ := outages_begin_after_arrival outageConfig
    (sessionEnvironment (emptyStore false)) plane final created arrivals results returned entry member accepted
  exact ⟨spec, configured, named, fun window inside => (clear window inside).1⟩

/-- Two requests at once on one slot: the cluster is up when the second arrives and down when its
    turn comes. -/
theorem execution_starts_in_outage :
    let arrivals : List Arrival := [⟨sessionRequest 1000, 0⟩, ⟨sessionRequest 1000, 0⟩]
    ∃ plane results final, create outageConfig (sessionEnvironment (emptyStore false)) = .ok plane ∧
      arrivals.Pairwise (fun first second => first.now ≤ second.now) ∧
      run arrivals plane = .ok results final ∧
      ∃ result ∈ results, result.admitted = true ∧ result.decision.clusterId = "c1" ∧
        plane.windowsOf "c1" = some [(1.5, 10)] ∧
        1.5 ≤ result.actualStartTs ∧ result.actualStartTs ≤ 10 := by
  intro arrivals
  have ran : (resultsOf outageConfig (sessionEnvironment (emptyStore false)) arrivals).map
      (fun results => results.any (fun result => result.admitted = true ∧
        result.decision.clusterId = "c1" ∧ 1.5 ≤ result.actualStartTs ∧ result.actualStartTs ≤ 10)) =
      some true := by decide +kernel
  obtain ⟨results, value, started⟩ := Option.map_eq_some_iff.mp ran
  obtain ⟨plane, final, created, returned⟩ := resultsOf_eq_some value
  obtain ⟨result, member, facts⟩ := List.any_eq_true.mp started
  obtain ⟨admitted, placed, opened, inside⟩ := of_decide_eq_true facts
  cases created
  exact ⟨_, results, final, rfl, by decide +kernel, returned, result, member, admitted, placed,
    by decide +kernel, opened, inside⟩

end NimbusMesh.ControlPlane
