import NimbusMesh.ControlPlane.Steps

namespace NimbusMesh.ControlPlane

open Foundation Foundation.Execution

inductive PlaneCall where
  | refresh (now : ℚ)
  | route (request : InferenceRequest) (now : ℚ)
  | execute (request : InferenceRequest) (now : ℚ)

/-- A session goes on with the state a call leaves, also when it raises, and keeps the results that were
    returned. -/
def attempt (session : ControlPlane × List RequestResult) : PlaneCall → ControlPlane × List RequestResult
  | .refresh now => (session.1.refresh now, session.2)
  | .route request now => (stateAfter (route request now) session.1, session.2)
  | .execute request now =>
    (stateAfter (execute request now) session.1, session.2 ++ (valueOf (execute request now session.1)).toList)

section Directory

/-- What the calls of a plane do to its cache directory does not destroy the property, also when they raise. -/
structure Sustained (invariant : KVCacheDirectory → Prop) : Prop where
  evicts : ∀ directory now, invariant directory → invariant (directory.evictStale now)
  scores : ∀ request clusterId poolId now,
    Keeps invariant (KVCacheDirectory.score request clusterId poolId now)
  observes : ∀ result, Keeps invariant (KVCacheDirectory.observe result)

variable {invariant : KVCacheDirectory → Prop}

theorem keeps_candidatesFor (sustained : Sustained invariant) (plane : ControlPlane) (request : InferenceRequest)
    (now : ℚ) (pools : List (ClusterRuntime × PoolRuntime)) :
    Keeps invariant (plane.candidatesFor request now pools) := by
  induction pools with
  | nil => exact fun _ holds => holds
  | cons placement rest ih =>
    intro directory holds
    have scored := sustained.scores request placement.1.clusterId placement.2.poolId now directory holds
    simp only [stateAfter, candidatesFor] at scored ⊢
    cases asked : KVCacheDirectory.score request placement.1.clusterId placement.2.poolId now directory with
    | error raised next =>
      rw [asked] at scored
      exact scored
    | ok cache next =>
      rw [asked] at scored
      dsimp only
      cases built : plane.assemble request now placement.1 placement.2 cache with
      | error raised =>
        dsimp only
        exact scored
      | ok candidate =>
        have later := ih next scored
        simp only [stateAfter] at later
        dsimp only
        cases continued : plane.candidatesFor request now rest next with
        | error raised final =>
          rw [continued] at later
          exact later
        | ok candidates final =>
          rw [continued] at later
          exact later

theorem keeps_directory_route (sustained : Sustained invariant) (request : InferenceRequest) (now : ℚ) :
    Keeps (fun plane : ControlPlane => invariant plane.cacheDirectory) (route request now) := by
  apply keeps_route_of
  · intro plane holds
    rw [stateAfter_buildCandidates]
    exact keeps_candidatesFor sustained plane request now plane.placements plane.cacheDirectory holds
  · intro candidates plane holds
    obtain ⟨policy, chosen⟩ := stateAfter_chooseCandidate request candidates plane
    rw [chosen]
    exact holds

theorem keeps_directory_place (sustained : Sustained invariant) (call : PlacementCall) (cluster : ClusterRuntime)
    (pool : PoolRuntime) :
    Keeps (fun plane : ControlPlane => invariant plane.cacheDirectory) (place call cluster pool) := by
  intro plane holds
  simp only [stateAfter, place, placeRequest]
  cases SlotQueue.earliest pool.slotAvailableAt with
  | none => exact holds
  | some slotIndex =>
    have observed := sustained.observes (call.result pool slotIndex) plane.cacheDirectory holds
    simp only [stateAfter] at observed
    dsimp only
    cases outcome : KVCacheDirectory.observe (call.result pool slotIndex) plane.cacheDirectory with
    | error raised directory =>
      rw [outcome] at observed
      exact observed
    | ok done directory =>
      rw [outcome] at observed
      exact observed

theorem keeps_directory_execute (sustained : Sustained invariant) (request : InferenceRequest) (now : ℚ) :
    Keeps (fun plane : ControlPlane => invariant plane.cacheDirectory) (execute request now) := by
  apply keeps_execute_of (keeps_directory_route sustained request now)
  intro plane candidate decision cluster pool backend _ _ holds
  exact keeps_directory_place sustained _ cluster pool plane holds

theorem Sustained.session (sustained : Sustained invariant) {plane : ControlPlane}
    (initial : invariant plane.cacheDirectory) (calls : List PlaneCall) :
    invariant (calls.foldl attempt (plane, [])).1.cacheDirectory := by
  apply List.foldlRecOn (motive := fun session : ControlPlane × List RequestResult =>
    invariant session.1.cacheDirectory) calls attempt initial
  intro session holds call _
  cases call with
  | refresh now =>
    obtain ⟨directory, evicted, refreshed⟩ := refresh_eq session.1 now
    change invariant (session.1.refresh now).cacheDirectory
    rw [refreshed]
    rcases evicted with same | stale
    · rw [same]
      exact holds
    · rw [stale]
      exact sustained.evicts _ now holds
  | route request now => exact keeps_directory_route sustained request now session.1 holds
  | execute request now => exact keeps_directory_execute sustained request now session.1 holds

end Directory

end NimbusMesh.ControlPlane
