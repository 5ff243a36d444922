import NimbusMesh.Cache.Scoring
import NimbusMesh.ControlPlane.Attribution
import NimbusMesh.ControlPlane.Estimates
import NimbusMesh.ControlPlane.Sessions

namespace NimbusMesh

open Foundation Foundation.Decimal Foundation.Execution

namespace KVCacheDirectory

def consulted (directory : KVCacheDirectory) (request : InferenceRequest) (now : ℚ) : List CacheEntry :=
  (stateAfter (prepareScore request now) directory).bucket (cacheKey request)

theorem score_credited {directory final : KVCacheDirectory} {request : InferenceRequest} {clusterId poolId : String}
    {now : ℚ} {cache : ℚ × ℤ} (scored : score request clusterId poolId now directory = .ok cache final) :
    let best := hitOf directory.ttlS clusterId poolId request.promptTokens now
      (credited directory.ttlS clusterId poolId now (directory.consulted request now))
    cache = (roundTo 4 best.1, best.2) := by
  have ttl : (stateAfter (prepareScore request now) directory).ttlS = directory.ttlS := by
    rcases prepareScore_cases directory request now with ⟨raised, outcome⟩ | outcome | ⟨first, rest, _, _, outcome⟩
    all_goals rw [stateAfter, outcome]; rfl
  simp only [score] at scored
  unfold consulted
  rw [← ttl]
  simp only [stateAfter]
  split at scored
  · cases scored
  · rename_i prepared outcome
    rw [outcome]
    split at scored
    · cases scored
    · rename_i best returned
      cases scored
      rw [bestHit_credited returned]

end KVCacheDirectory

namespace ControlPlane

theorem placements_nodup (plane : ControlPlane) :
    (plane.placements.map (fun place => (place.1.clusterId, place.2.poolId))).Nodup := by
  unfold placements
  rw [List.map_flatMap]
  apply List.nodup_flatMap.mpr
  constructor
  · intro cluster _
    rw [List.map_map]
    apply List.Nodup.of_map Prod.snd
    rw [List.map_map]
    exact cluster.pools.nodup
  · apply (List.pairwise_map.mp plane.clusters.nodup).imp
    intro first second differ named left right
    obtain ⟨_, inFirst, rfl⟩ := List.mem_map.mp left
    obtain ⟨_, _, rfl⟩ := List.mem_map.mp inFirst
    obtain ⟨_, inSecond, same⟩ := List.mem_map.mp right
    obtain ⟨_, _, rfl⟩ := List.mem_map.mp inSecond
    exact differ (Prod.mk.inj same).1.symm

/-- The cache directory when the turn of a pool comes in the loop of `build_candidates`. -/
def directoryAt (plane : ControlPlane) (request : InferenceRequest) (now : ℚ) (clusterId poolId : String) :
    KVCacheDirectory :=
  stateAfter (plane.candidatesFor request now (plane.placements.takeWhile (fun place =>
    ¬ (place.1.clusterId = clusterId ∧ place.2.poolId = poolId)))) plane.cacheDirectory

theorem assemble_hitRatio {plane : ControlPlane} {request : InferenceRequest} {now : ℚ} {cluster : ClusterRuntime}
    {pool : PoolRuntime} {cache : ℚ × ℤ} {candidate : CandidatePlacement}
    (returned : plane.assemble request now cluster pool cache = .ok candidate) :
    candidate.expectedCacheHitRatio = cache.1 := by
  obtain ⟨affinity, _, returned⟩ := except_bind_eq_ok.mp returned
  obtain ⟨routeCost, _, returned⟩ := except_bind_eq_ok.mp returned
  obtain ⟨backend, _, returned⟩ := except_bind_eq_ok.mp returned
  obtain ⟨delay, _, returned⟩ := except_bind_eq_ok.mp returned
  cases returned
  rfl

theorem buildCandidates_scored {plane final : ControlPlane} {request : InferenceRequest} {now : ℚ}
    {candidates : List CandidatePlacement} (built : buildCandidates request now plane = .ok candidates final)
    {candidate : CandidatePlacement} (member : candidate ∈ candidates) :
    ∃ scored, KVCacheDirectory.score request candidate.clusterId candidate.poolId now
      (plane.directoryAt request now candidate.clusterId candidate.poolId) =
        .ok (candidate.expectedCacheHitRatio, candidate.expectedCacheSavedTokens) scored := by
  obtain ⟨assembled, directory, asked, rfl, _⟩ := buildCandidates_eq_ok built
  obtain ⟨plain, inside, rfl⟩ := List.mem_map.mp member
  obtain ⟨cluster, pool, cache, answers, assembling⟩ := candidatesFor_mem asked inside
  obtain ⟨before, after, earlier, reached, scored, split, walked, answer⟩ := answers
  obtain ⟨clusterId, poolId, _, saved, _⟩ := assemble_eq_ok assembling
  have ratio := assemble_hitRatio assembling
  have turn : plane.directoryAt request now cluster.clusterId pool.poolId = reached := by
    have others : ∀ place ∈ before, ¬ (place.1.clusterId = cluster.clusterId ∧ place.2.poolId = pool.poolId) := by
      intro place early same
      have distinct := plane.placements_nodup
      rw [split, List.map_append, List.map_cons] at distinct
      have apart := List.disjoint_of_nodup_append distinct
      have named : (place.1.clusterId, place.2.poolId) = (cluster.clusterId, pool.poolId) := Prod.ext same.1 same.2
      apply apart (List.mem_map_of_mem early)
      rw [named]
      exact List.mem_cons_self
    have walkedTo : plane.placements.takeWhile (fun place =>
        ¬ (place.1.clusterId = cluster.clusterId ∧ place.2.poolId = pool.poolId)) = before := by
      rw [split, List.takeWhile_append_of_pos (fun place early => decide_eq_true (others place early))]
      simp
    rw [directoryAt, walkedTo, stateAfter_ok walked]
  refine ⟨scored, ?_⟩
  change KVCacheDirectory.score request plain.clusterId plain.poolId now
    (plane.directoryAt request now plain.clusterId plain.poolId) =
      .ok (plain.expectedCacheHitRatio, plain.expectedCacheSavedTokens) scored
  rw [clusterId, poolId, turn, ratio, saved]
  exact answer

theorem sustained_carries {property : CacheEntry → Prop} (recordable : KVCacheDirectory.Recordable property) :
    Sustained (KVCacheDirectory.Carries property) where
  evicts := fun _ now carries => carries.evictStale now
  scores := fun request clusterId poolId now _ carries => carries.score request clusterId poolId now
  observes := fun result _ carries => carries.observe recordable result

theorem weighed_session {config : ExperimentConfig} {environment : Environment} {plane : ControlPlane}
    (created : create config environment = .ok plane)
    (stored : ∀ key entries, environment.redisStore.storedEntries key = .ok entries →
      ∀ entry ∈ entries, 0 ≤ entry.sizeTokens) (calls : List PlaneCall) :
    KVCacheDirectory.Carries KVCacheDirectory.Weighed (calls.foldl attempt (plane, [])).1.cacheDirectory := by
  apply (sustained_carries KVCacheDirectory.recordable_weighed).session
  rw [cacheDirectory_create created]
  exact ⟨fun _ _ member => absurd member List.not_mem_nil, stored⟩

end ControlPlane

end NimbusMesh
