import NimbusMesh.Cache.Recording
import NimbusMesh.Cache.Residency
import NimbusMesh.ControlPlane.Availability
import NimbusMesh.ControlPlane.Counterpart
import NimbusMesh.Topology.Coverage

namespace NimbusMesh

open Foundation Foundation.Execution

namespace KVCacheDirectory

variable {directory : KVCacheDirectory} {result : RequestResult}

theorem score_returns (disabled : directory.redisStore.enabled = false) (expires : directory.ttlS ≠ 0)
    (request : InferenceRequest) (clusterId poolId : String) (now : ℚ) :
    ∃ cache, score request clusterId poolId now directory = .ok cache (directory.evictStale now) := by
  have prepared := prepareScore_disabled directory request now disabled
  obtain ⟨best, found⟩ := @bestHit_returns _ clusterId poolId request.promptTokens now expires
    ((directory.evictStale now).bucket (cacheKey request)) (0, 0)
  have settings : (directory.evictStale now).ttlS = directory.ttlS := rfl
  simp only [score, prepared, settings, found]
  exact ⟨_, rfl⟩

theorem totalEntries_recorded_le (directory : KVCacheDirectory) (result : RequestResult) :
    (directory.recorded result).totalEntries ≤ directory.totalEntries + 1 := by
  have sum := KeyedList.sum_insert (fun slot : String × List CacheEntry => slot.2.length) directory.entries
    (cacheKey result.request, capBucket (mergeResult (cacheKey result.request) result
      (directory.bucket (cacheKey result.request))))
  rw [length_lookup] at sum
  obtain ⟨_, _, capped, _⟩ := capBucket_split (mergeResult (cacheKey result.request) result
    (directory.bucket (cacheKey result.request)))
  have merged : (mergeResult (cacheKey result.request) result (directory.bucket (cacheKey result.request))).length ≤
      (directory.bucket (cacheKey result.request)).length + 1 := by
    rw [length_mergeResult]
    split <;> omega
  rw [totalEntries_eq, totalEntries_eq, entryCount_eq, entryCount_eq]
  change _ + (directory.bucket (cacheKey result.request)).length = _ at sum
  change (List.map _ (KeyedList.insert directory.entries _).toList).sum ≤ _
  dsimp only at sum ⊢
  omega

theorem observe_with_room (disabled : directory.redisStore.enabled = false) (admitted : result.admitted = true)
    (room : (directory.totalEntries : ℤ) < directory.maxEntries) :
    observe result directory = .ok () (directory.recorded result) := by
  have grown := totalEntries_recorded_le directory result
  have limit : (directory.recorded result).maxEntries = directory.maxEntries := rfl
  have within : ((directory.recorded result).totalEntries : ℤ) ≤ (directory.recorded result).maxEntries := by omega
  rw [observe_disabled disabled admitted, trim, if_pos within]

end KVCacheDirectory

namespace ControlPlane

variable {plane final : ControlPlane} {request : InferenceRequest} {now : ℚ} {result : RequestResult}

structure Ready (topology : TopologyService) (clusterId : String) (pool : PoolRuntime) : Prop where
  slots : pool.slotAvailableAt ≠ []
  backend : ∃ backend, backendNamed pool.backendName = .ok backend
  affinity : ∀ promptTokens, ∃ affinity, topology.poolAffinity clusterId pool.poolId promptTokens = .ok affinity
  route : ∃ cost, topology.routeCost clusterId pool.poolId = .ok cost

structure Operable (plane : ControlPlane) : Prop where
  placeable : ∃ clusterId poolId pool, plane.poolIn clusterId poolId = some pool
  ready : ∀ clusterId poolId pool, plane.poolIn clusterId poolId = some pool → Ready plane.topology clusterId pool
  servicer : ServedByRepository plane.grpcClient
  disabled : plane.cacheDirectory.redisStore.enabled = false
  expires : plane.cacheDirectory.ttlS ≠ 0

theorem assemble_returns {cluster : ClusterRuntime} {pool : PoolRuntime}
    (ready : Ready plane.topology cluster.clusterId pool) (request : InferenceRequest) (now : ℚ) (cache : ℚ × ℤ) :
    ∃ candidate, plane.assemble request now cluster pool cache = .ok candidate := by
  obtain ⟨affinity, measured⟩ := ready.affinity request.promptTokens
  obtain ⟨cost, routed⟩ := ready.route
  obtain ⟨backend, named⟩ := ready.backend
  obtain ⟨slot, earliest⟩ := SlotQueue.earliest_of_ne_nil ready.slots
  have delay : pool.queueDelayMs now =
      .ok (max 0 (pool.slotAvailableAt.getD slot 0 - now) * 1000.0) := by
    rw [PoolRuntime.queueDelayMs, SlotQueue.earliest_min? earliest]
  exact ⟨_, except_bind_eq_ok.mpr ⟨affinity, measured, except_bind_eq_ok.mpr ⟨cost, routed,
    except_bind_eq_ok.mpr ⟨backend, named, except_bind_eq_ok.mpr ⟨_, delay, rfl⟩⟩⟩⟩⟩

theorem candidatesFor_returns {pools : List (ClusterRuntime × PoolRuntime)}
    (ready : ∀ placement ∈ pools, Ready plane.topology placement.1.clusterId placement.2) {directory : KVCacheDirectory}
    (disabled : directory.redisStore.enabled = false) (expires : directory.ttlS ≠ 0) (request : InferenceRequest)
    (now : ℚ) :
    ∃ candidates reached, plane.candidatesFor request now pools directory = .ok candidates reached := by
  induction pools generalizing directory with
  | nil => exact ⟨[], directory, rfl⟩
  | cons placement rest ih =>
    rw [List.forall_mem_cons] at ready
    obtain ⟨cache, scored⟩ := KVCacheDirectory.score_returns disabled expires request placement.1.clusterId
      placement.2.poolId now
    obtain ⟨candidate, assembled⟩ := assemble_returns ready.1 request now cache
    obtain ⟨others, reached, continued⟩ := @ih ready.2 (directory.evictStale now) disabled expires
    refine ⟨candidate :: others, reached, ?_⟩
    simp only [candidatesFor, scored, assembled, continued]

theorem ready_of_mem_placements (operable : Operable plane) :
    ∀ placement ∈ plane.placements, Ready plane.topology placement.1.clusterId placement.2 := by
  intro placement member
  exact operable.ready _ _ _ (poolIn_of_poolAt (poolAt_of_mem_placements member))

theorem Operable.placements_ne_nil (operable : Operable plane) : plane.placements ≠ [] := by
  obtain ⟨clusterId, poolId, pool, found⟩ := operable.placeable
  obtain ⟨cluster, at_cluster, at_pool⟩ := Option.bind_eq_some_iff.mp found
  apply List.ne_nil_of_mem (a := (cluster, pool))
  exact List.mem_flatMap.mpr ⟨cluster, (KeyedList.get?_eq_some.mp at_cluster).1,
    List.mem_map.mpr ⟨pool, (KeyedList.get?_eq_some.mp at_pool).1, rfl⟩⟩

theorem execute_places {built routed : ControlPlane} {candidates : List CandidatePlacement} {choice : CandidatePlacement}
    {cluster : ClusterRuntime} {pool : PoolRuntime} {backend : Backend} {scheduler : LocalClusterScheduler}
    (building : buildCandidates request now plane = .ok candidates built)
    (choosing : chooseCandidate request candidates built = .ok choice routed)
    (located : routed.poolAt choice.clusterId choice.poolId = some (cluster, pool))
    (named : backendNamed choice.backendName = .ok backend) (available : choice.available = true)
    (placing : placeRequest ⟨request, choice, routed.decisionFor request choice, backend, now⟩
      ⟨pool, routed.cacheDirectory⟩ = .ok result scheduler) :
    execute request now plane = .ok result
      ({ routed with cacheDirectory := scheduler.cacheDirectory }.completed cluster scheduler.pool result) := by
  have routing : route request now plane = .ok (choice, routed.decisionFor request choice) routed :=
    bind_eq_ok.mpr ⟨candidates, built, building, bind_eq_ok.mpr ⟨choice, routed, choosing, rfl⟩⟩
  refine bind_eq_ok.mpr ⟨_, routed, routing, bind_eq_ok.mpr ⟨routed, routed, rfl, ?_⟩⟩
  simp only [located, named, available, if_true, place, placing]

theorem placeRequest_returns {call : PlacementCall} {scheduler : LocalClusterScheduler}
    (slots : scheduler.pool.slotAvailableAt ≠ []) (disabled : scheduler.cacheDirectory.redisStore.enabled = false)
    (room : (scheduler.cacheDirectory.totalEntries : ℤ) < scheduler.cacheDirectory.maxEntries) :
    ∃ result placed, placeRequest call scheduler = .ok result placed := by
  obtain ⟨slotIndex, earliest⟩ := SlotQueue.earliest_of_ne_nil slots
  have recorded := @KVCacheDirectory.observe_with_room _ (call.result scheduler.pool slotIndex) disabled rfl room
  simp only [placeRequest, earliest, recorded]
  exact ⟨_, _, rfl⟩

theorem Operable.execute_returns (operable : Operable plane)
    (room : (plane.cacheDirectory.totalEntries : ℤ) < plane.cacheDirectory.maxEntries) (request : InferenceRequest)
    (now : ℚ) : ∃ result final, execute request now plane = .ok result final := by
  obtain ⟨raw, directory, asked⟩ := candidatesFor_returns (ready_of_mem_placements operable) operable.disabled
    operable.expires request now
  have evicted := candidatesFor_disabled operable.placements_ne_nil operable.disabled asked
  have building : buildCandidates request now plane =
      .ok (plane.cudaEngine.enrichCandidates raw) { plane with cacheDirectory := directory } := by
    simp only [buildCandidates, asked]
  obtain ⟨choice, policy, choosing, selected⟩ := chooseCandidate_selects { plane with cacheDirectory := directory }
    request (candidates_ne_nil operable.placements_ne_nil asked) operable.servicer
  obtain ⟨cluster, pool, chosen⟩ := chosen_of_mem asked selected.1
  obtain ⟨backend, named⟩ := chosen.named
  have located : ({ plane with cacheDirectory := directory, policy } : ControlPlane).poolAt choice.clusterId
      choice.poolId = some (cluster, pool) := chosen.found
  cases available : choice.available with
  | false => exact ⟨_, _, execute_rejects building choosing located named available⟩
  | true =>
    have held := poolIn_of_poolAt chosen.found
    have fewer := KVCacheDirectory.totalEntries_evictStale plane.cacheDirectory now
    have roomy : (directory.totalEntries : ℤ) < directory.maxEntries := by
      rw [evicted]
      change ((plane.cacheDirectory.evictStale now).totalEntries : ℤ) < plane.cacheDirectory.maxEntries
      omega
    have off : directory.redisStore.enabled = false := by
      rw [evicted]
      exact operable.disabled
    obtain ⟨result, placed, placing⟩ := @placeRequest_returns
      ⟨request, choice, decisionFor { plane with cacheDirectory := directory, policy } request choice, backend, now⟩
      ⟨pool, directory⟩ (operable.ready _ _ _ held).slots off roomy
    exact ⟨result, _, execute_places building choosing located named available placing⟩

section Footing

/-- What answering a request needs of a pool. No step changes it. -/
def footing (pool : PoolRuntime) : String × String × ℕ :=
  (pool.poolId, pool.backendName, pool.slotAvailableAt.length)

theorem Ready.of_footing {topology : TopologyService} {clusterId : String} {pool changed : PoolRuntime}
    (ready : Ready topology clusterId pool) (same : footing changed = footing pool) :
    Ready topology clusterId changed := by
  simp only [footing, Prod.mk.injEq] at same
  obtain ⟨named, backend, slots⟩ := same
  have some_slot := List.length_pos_of_ne_nil ready.slots
  rw [← slots] at some_slot
  refine ⟨List.ne_nil_of_length_pos some_slot, ?_, ?_, ?_⟩
  · rw [backend]
    exact ready.backend
  · rw [named]
    exact ready.affinity
  · rw [named]
    exact ready.route

structure SameFooting (plane final : ControlPlane) : Prop where
  topology : final.topology = plane.topology
  grpcClient : final.grpcClient = plane.grpcClient
  redisStore : final.cacheDirectory.redisStore = plane.cacheDirectory.redisStore
  ttlS : final.cacheDirectory.ttlS = plane.cacheDirectory.ttlS
  maxEntries : final.cacheDirectory.maxEntries = plane.cacheDirectory.maxEntries
  pools : ∀ clusterId poolId,
    (final.poolIn clusterId poolId).map footing = (plane.poolIn clusterId poolId).map footing

theorem Operable.of_footing (operable : Operable plane) (same : SameFooting plane final) : Operable final := by
  have placeable : ∃ clusterId poolId pool, final.poolIn clusterId poolId = some pool := by
    obtain ⟨clusterId, poolId, pool, found⟩ := operable.placeable
    have held := same.pools clusterId poolId
    rw [found] at held
    obtain ⟨kept, foundToo, _⟩ := Option.map_eq_some_iff.mp held
    exact ⟨clusterId, poolId, kept, foundToo⟩
  have ready : ∀ clusterId poolId pool, final.poolIn clusterId poolId = some pool →
      Ready final.topology clusterId pool := by
    intro clusterId poolId pool found
    have held := same.pools clusterId poolId
    rw [found] at held
    obtain ⟨original, foundToo, alike⟩ := Option.map_eq_some_iff.mp held.symm
    rw [same.topology]
    exact (operable.ready _ _ _ foundToo).of_footing alike.symm
  exact ⟨placeable, ready, same.grpcClient ▸ operable.servicer, same.redisStore ▸ operable.disabled,
    same.ttlS ▸ operable.expires⟩

theorem sameFooting_refresh (plane : ControlPlane) (now : ℚ) : SameFooting plane (plane.refresh now) := by
  have pools : ∀ clusterId poolId,
      ((plane.refresh now).poolIn clusterId poolId).map footing = (plane.poolIn clusterId poolId).map footing := by
    intro clusterId poolId
    cases found : plane.poolIn clusterId poolId with
    | none =>
      have absent := poolIn_refresh_isSome plane now clusterId poolId
      rw [found, Option.isSome_none, Option.isSome_eq_false_iff, Option.isNone_iff_eq_none] at absent
      rw [absent]
    | some pool =>
      obtain ⟨cluster, _, refreshed⟩ := poolIn_refresh now found
      rw [refreshed]
      rfl
  obtain ⟨directory, evicted, refreshed⟩ := refresh_eq plane now
  have settings : (plane.refresh now).cacheDirectory = directory := by rw [refreshed]
  rcases evicted with same | same
  · rw [same] at settings
    exact ⟨rfl, rfl, by rw [settings], by rw [settings], by rw [settings], pools⟩
  · rw [same] at settings
    exact ⟨rfl, rfl, by rw [settings]; rfl, by rw [settings]; rfl, by rw [settings]; rfl, pools⟩

theorem totalEntries_refresh (plane : ControlPlane) (now : ℚ) :
    (plane.refresh now).cacheDirectory.totalEntries ≤ plane.cacheDirectory.totalEntries := by
  obtain ⟨directory, evicted, refreshed⟩ := refresh_eq plane now
  rw [refreshed]
  rcases evicted with rfl | rfl
  · exact le_refl _
  · exact KVCacheDirectory.totalEntries_evictStale plane.cacheDirectory now

theorem SameFooting.trans {middle : ControlPlane} (first : SameFooting plane middle)
    (second : SameFooting middle final) : SameFooting plane final where
  topology := second.topology.trans first.topology
  grpcClient := second.grpcClient.trans first.grpcClient
  redisStore := second.redisStore.trans first.redisStore
  ttlS := second.ttlS.trans first.ttlS
  maxEntries := second.maxEntries.trans first.maxEntries
  pools := fun clusterId poolId => (second.pools clusterId poolId).trans (first.pools clusterId poolId)

theorem Operable.execute_keeps (operable : Operable plane)
    (room : (plane.cacheDirectory.totalEntries : ℤ) < plane.cacheDirectory.maxEntries)
    (returned : execute request now plane = .ok result final) :
    SameFooting plane final ∧ final.cacheDirectory.totalEntries ≤ plane.cacheDirectory.totalEntries + 1 := by
  obtain ⟨candidates, directory, choice, cluster, pool, policy, asked, _, chosen, outcome⟩ := execute_eq_ok returned
  have evicted := candidatesFor_disabled operable.placements_ne_nil operable.disabled asked
  have fewer := KVCacheDirectory.totalEntries_evictStale plane.cacheDirectory now
  rw [← evicted] at fewer
  have redisStore : directory.redisStore = plane.cacheDirectory.redisStore := by
    rw [evicted]
    rfl
  have ttlS : directory.ttlS = plane.cacheDirectory.ttlS := by
    rw [evicted]
    rfl
  have maxEntries : directory.maxEntries = plane.cacheDirectory.maxEntries := by
    rw [evicted]
    rfl
  rcases outcome with ⟨_, _, rfl⟩ | ⟨_, call, scheduler, _, _, _, _, _, placing, rfl⟩
  · exact ⟨⟨rfl, rfl, redisStore, ttlS, maxEntries, fun _ _ => rfl⟩, by dsimp only; omega⟩
  · obtain ⟨slotIndex, _, rfl, booked, recording⟩ := placeRequest_eq_ok placing
    have observed := @KVCacheDirectory.observe_with_room directory (call.result pool slotIndex)
      (redisStore ▸ operable.disabled) rfl (by rw [maxEntries]; omega)
    have recorded : scheduler.cacheDirectory = directory.recorded (call.result pool slotIndex) := by
      have both := recording.symm.trans observed
      injection both
    have owner := (poolAt_eq_some chosen.found).1
    rw [← chosen.clusterId] at owner
    constructor
    · refine ⟨rfl, rfl, ?_, ?_, ?_, ?_⟩
      · change scheduler.cacheDirectory.redisStore = _
        rw [recorded]
        exact redisStore
      · change scheduler.cacheDirectory.ttlS = _
        rw [recorded]
        exact ttlS
      · change scheduler.cacheDirectory.maxEntries = _
        rw [recorded]
        exact maxEntries
      · intro clusterId poolId
        have replaced : (plane.setPool cluster (servedPool call pool slotIndex)).poolIn clusterId poolId =
            if cluster.clusterId = clusterId ∧ pool.poolId = poolId then some (servedPool call pool slotIndex)
            else plane.poolIn clusterId poolId := poolIn_setPool owner _ clusterId poolId
        rw [booked]
        change Option.map footing ((plane.setPool cluster (servedPool call pool slotIndex)).poolIn clusterId poolId) = _
        rw [replaced]
        split
        · rename_i here
          have located := poolIn_of_poolAt chosen.found
          rw [← chosen.clusterId, ← chosen.poolId, here.1, here.2] at located
          rw [located]
          simp [footing, servedPool, PlacementCall.booked]
        · rfl
    · change scheduler.cacheDirectory.totalEntries ≤ _
      have grown := KVCacheDirectory.totalEntries_recorded_le directory (call.result pool slotIndex)
      rw [recorded]
      omega

theorem execute_decides (returned : execute request now plane = .ok result final) :
    ∃ pool, plane.poolIn result.decision.clusterId result.decision.poolId = some pool := by
  obtain ⟨_, _, choice, cluster, pool, _, backend, _, _, chosen, _, outcome⟩ := execute_returned returned
  have held := poolIn_of_poolAt chosen.found
  rcases outcome with ⟨_, rfl, _⟩ | ⟨_, scheduler, placing, _⟩
  · exact ⟨pool, held⟩
  · obtain ⟨_, _, rfl, _, _⟩ := placeRequest_eq_ok placing
    exact ⟨pool, held⟩

end Footing

end ControlPlane

end NimbusMesh
