import NimbusMesh.Cache.Agreement
import NimbusMesh.ControlPlane.Service

namespace NimbusMesh

open Foundation Foundation.Execution

variable {keys : List String}

theorem respects_placeRequest (call : PlacementCall) :
    Respects (fun first second : LocalClusterScheduler => second.pool = first.pool ∧
      KVCacheDirectory.Agree keys first.cacheDirectory second.cacheDirectory) (placeRequest call) := by
  rintro ⟨_, first⟩ ⟨pool, second⟩ ⟨rfl, agree⟩
  simp only [placeRequest]
  cases SlotQueue.earliest pool.slotAvailableAt with
  | none => exact .error ⟨rfl, agree⟩
  | some slotIndex =>
    rcases (KVCacheDirectory.respects_observe (call.result pool slotIndex) first second agree).cases with
      ⟨raised, _, _, left, right, related⟩ | ⟨_, _, _, left, right, related⟩
    · simp only [left, right]
      exact .error ⟨rfl, related⟩
    · simp only [left, right]
      exact .ok ⟨rfl, related⟩

namespace ControlPlane

section Congruence

/-- A relation between planes that choose and locate candidates in the same way, and that stay related
    when the policy moves on. -/
structure Congruent (relation : ControlPlane → ControlPlane → Prop) : Prop where
  chosenBy : ∀ first second, relation first second → second.grpcClient = first.grpcClient ∧
    second.cppCore = first.cppCore ∧ second.policy = first.policy ∧ second.clusters = first.clusters
  updated : ∀ first second policy, relation first second →
    relation { first with policy } { second with policy }

variable {relation : ControlPlane → ControlPlane → Prop}

theorem Congruent.chooseCandidate (congruent : Congruent relation) (request : InferenceRequest)
    (candidates : List CandidatePlacement) : Respects relation (chooseCandidate request candidates) := by
  intro first second related
  obtain ⟨clients, cores, policies, _⟩ := congruent.chosenBy first second related
  simp only [ControlPlane.chooseCandidate, clients, cores, policies]
  cases first.grpcClient.choose request candidates with
  | error raised => exact .error related
  | ok grpcIndex =>
    dsimp only
    cases (grpcIndex.orElse fun _ => first.cppCore.choose request candidates).bind
      (fun index => candidates[index]?) with
    | some choice => exact .ok related
    | none =>
      dsimp only
      cases first.policy.choose request candidates with
      | error raised => exact .error related
      | ok chosen =>
        have moved := congruent.updated first second chosen.2 related
        rw [clients, cores] at moved
        exact .ok moved

theorem Congruent.route (congruent : Congruent relation) {request : InferenceRequest} {now : ℚ}
    (builds : Respects relation (buildCandidates request now)) : Respects relation (route request now) := by
  apply builds.bind
  intro candidates
  apply (congruent.chooseCandidate request candidates).bind
  intro choice first second related
  obtain ⟨_, _, policies, _⟩ := congruent.chosenBy first second related
  have decisions : second.decisionFor request choice = first.decisionFor request choice := by
    simp only [decisionFor, policies]
  change Related relation (.ok (choice, first.decisionFor request choice) first)
    (.ok (choice, second.decisionFor request choice) second)
  rw [decisions]
  exact .ok related

theorem Congruent.execute (congruent : Congruent relation) {request : InferenceRequest} {now : ℚ}
    (builds : Respects relation (buildCandidates request now))
    (places : ∀ call cluster pool, Respects relation (place call cluster pool)) :
    Respects relation (execute request now) := by
  apply (congruent.route builds).bind
  rintro ⟨candidate, decision⟩
  apply respects_get_bind
  intro first second related
  obtain ⟨_, _, _, clusters⟩ := congruent.chosenBy first second related
  have samePool : second.poolAt candidate.clusterId candidate.poolId =
      first.poolAt candidate.clusterId candidate.poolId := by
    simp only [poolAt, clusters]
  rw [samePool]
  cases first.poolAt candidate.clusterId candidate.poolId with
  | none => exact respects_throw _ first second related
  | some placement =>
    cases backendNamed candidate.backendName with
    | error raised => exact respects_throw raised first second related
    | ok backend =>
      dsimp only
      split
      · exact places _ placement.1 placement.2 first second related
      · exact respects_pure _ first second related

end Congruence

def withDirectory (plane : ControlPlane) (cacheDirectory : KVCacheDirectory) : ControlPlane :=
  { plane with cacheDirectory }

def Agree (keys : List String) (first second : ControlPlane) : Prop :=
  ∃ directory, second = first.withDirectory directory ∧
    KVCacheDirectory.Agree keys first.cacheDirectory directory

theorem candidatesFor_withDirectory (plane : ControlPlane) (directory : KVCacheDirectory)
    (request : InferenceRequest) (now : ℚ) (placements : List (ClusterRuntime × PoolRuntime)) :
    (plane.withDirectory directory).candidatesFor request now placements =
      plane.candidatesFor request now placements := by
  induction placements with
  | nil => rfl
  | cons placement rest ih =>
    obtain ⟨cluster, pool⟩ := placement
    funext start
    have assembled : (plane.withDirectory directory).assemble request now cluster pool =
        plane.assemble request now cluster pool := rfl
    simp only [candidatesFor, assembled, ih]

theorem respects_candidatesFor (plane : ControlPlane) {request : InferenceRequest}
    (member : cacheKey request ∈ keys) (now : ℚ) (placements : List (ClusterRuntime × PoolRuntime)) :
    Respects (KVCacheDirectory.Agree keys) (plane.candidatesFor request now placements) := by
  induction placements with
  | nil => exact fun _ _ agree => .ok agree
  | cons placement rest ih =>
    obtain ⟨cluster, pool⟩ := placement
    intro first second agree
    simp only [candidatesFor]
    rcases (KVCacheDirectory.respects_score member cluster.clusterId pool.poolId now first second agree).cases with
      ⟨raised, _, _, left, right, related⟩ | ⟨cache, scored, scoredToo, left, right, related⟩
    · simp only [left, right]
      exact .error related
    · simp only [left, right]
      cases plane.assemble request now cluster pool cache with
      | error raised => exact .error related
      | ok candidate =>
        rcases (ih scored scoredToo related).cases with
          ⟨raised, _, _, left, right, reached⟩ | ⟨candidates, _, _, left, right, reached⟩
        · simp only [left, right]
          exact .error reached
        · simp only [left, right]
          exact .ok reached

theorem respects_buildCandidates {request : InferenceRequest} (member : cacheKey request ∈ keys) (now : ℚ) :
    Respects (Agree keys) (buildCandidates request now) := by
  rintro first _ ⟨directory, rfl, agree⟩
  have samePlacements : (first.withDirectory directory).placements = first.placements := rfl
  have itsDirectory : (first.withDirectory directory).cacheDirectory = directory := rfl
  simp only [buildCandidates, candidatesFor_withDirectory, samePlacements, itsDirectory]
  rcases (respects_candidatesFor first member now first.placements _ _ agree).cases with
    ⟨raised, _, _, left, right, related⟩ | ⟨candidates, _, _, left, right, related⟩
  · simp only [left, right]
    exact .error ⟨_, rfl, related⟩
  · simp only [left, right]
    exact .ok ⟨_, rfl, related⟩

theorem respects_place (call : PlacementCall) (cluster : ClusterRuntime) (pool : PoolRuntime) :
    Respects (Agree keys) (place call cluster pool) := by
  rintro first _ ⟨directory, rfl, agree⟩
  have itsDirectory : (first.withDirectory directory).cacheDirectory = directory := rfl
  simp only [place, itsDirectory]
  rcases (respects_placeRequest call ⟨pool, first.cacheDirectory⟩ ⟨pool, directory⟩ ⟨rfl, agree⟩).cases with
    ⟨raised, scheduler, other, left, right, samePool, related⟩ |
      ⟨result, scheduler, other, left, right, samePool, related⟩
  · simp only [left, right, samePool]
    exact .error ⟨_, rfl, related⟩
  · simp only [left, right, samePool]
    exact .ok ⟨_, rfl, related⟩

theorem congruent_agree : Congruent (Agree keys) where
  chosenBy := by
    rintro first _ ⟨directory, rfl, _⟩
    exact ⟨rfl, rfl, rfl, rfl⟩
  updated := by
    rintro first _ policy ⟨directory, rfl, agree⟩
    exact ⟨directory, rfl, agree⟩

theorem respects_execute {request : InferenceRequest} (member : cacheKey request ∈ keys) (now : ℚ) :
    Respects (Agree keys) (execute request now) :=
  congruent_agree.execute (respects_buildCandidates member now) respects_place

theorem refreshCluster_withStore (now : ℚ) (directory : KVCacheDirectory) (store : RedisStore)
    (cluster : ClusterRuntime) :
    refreshCluster now (directory.withStore store) cluster =
      ((refreshCluster now directory cluster).1.withStore store, (refreshCluster now directory cluster).2) := by
  have visited := cluster.pools.mapAccum_commutes (f := refreshPool cluster now) (fun _ _ => rfl)
    (fun visited => visited.withStore store) (fun _ _ => rfl) directory
  simp only [refreshCluster, visited]

theorem refresh_withStore (plane : ControlPlane) (store : RedisStore) (now : ℚ) :
    (plane.withDirectory (plane.cacheDirectory.withStore store)).refresh now =
      (plane.refresh now).withDirectory ((plane.refresh now).cacheDirectory.withStore store) := by
  have visited := plane.clusters.mapAccum_commutes (f := refreshCluster now) (fun _ _ => rfl)
    (fun visited => visited.withStore store)
    (fun directory cluster => refreshCluster_withStore now directory store cluster) plane.cacheDirectory
  change { plane with
    cacheDirectory := (plane.clusters.mapAccum (refreshCluster now) _ (plane.cacheDirectory.withStore store)).1
    clusters := (plane.clusters.mapAccum (refreshCluster now) _ (plane.cacheDirectory.withStore store)).2 } = _
  rw [visited]
  rfl

theorem refresh_redisStore (plane : ControlPlane) (now : ℚ) :
    (plane.refresh now).cacheDirectory.redisStore = plane.cacheDirectory.redisStore := by
  -- a directory with its own store put into it is the directory it was
  have own : plane.refresh now = (plane.refresh now).withDirectory
      ((plane.refresh now).cacheDirectory.withStore plane.cacheDirectory.redisStore) :=
    refresh_withStore plane plane.cacheDirectory.redisStore now
  rw [own]
  rfl

theorem Agree.refresh {first second : ControlPlane} (agree : Agree keys first second) (now : ℚ) :
    Agree keys (first.refresh now) (second.refresh now) := by
  obtain ⟨_, rfl, store, rfl, same⟩ := agree
  rw [refresh_withStore]
  refine ⟨_, rfl, store, rfl, ?_⟩
  rwa [refresh_redisStore]

end ControlPlane

end NimbusMesh
