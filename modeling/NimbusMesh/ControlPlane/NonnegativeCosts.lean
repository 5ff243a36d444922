import NimbusMesh.Backends.Latency
import NimbusMesh.ControlPlane.Estimates
import NimbusMesh.Topology.Routes
import NimbusMesh.Topology.ShortestPath

namespace NimbusMesh

open Foundation Foundation.Decimal Foundation.Execution

structure ClusterSpec.Nonneg (cluster : ClusterSpec) : Prop where
  ingressCost : 0 ≤ cluster.ingressCost
  networkCosts : ∀ link ∈ cluster.networkCosts.toList, 0 ≤ link.2
  baseCongestion : 0 ≤ cluster.baseCongestion
  congestionWindows : ∀ window ∈ cluster.congestionWindows, 0 ≤ window.2.2

def ExperimentConfig.Nonneg (config : ExperimentConfig) : Prop := ∀ cluster ∈ config.clusters, cluster.Nonneg

namespace TopologyService

variable {topology : TopologyService}

structure Nonneg (topology : TopologyService) : Prop where
  costs : ∀ nodeId, ∀ edge ∈ topology.links nodeId, 0 ≤ edge.cost
  factors : ∀ clusterId factor, Dict.lookup topology.clusterProbeCostFactor clusterId = some factor → 0 ≤ factor

theorem Nonneg.addEdge (nonneg : Nonneg topology) (source target : String) (bandwidthGbps latencyUs : ℚ) {cost : ℚ}
    (positive : 0 ≤ cost) : Nonneg (topology.addEdge source target bandwidthGbps latencyUs cost) := by
  refine ⟨?_, nonneg.factors⟩
  intro nodeId edge member
  rcases mem_links_addEdge.mp member with held | ⟨_, rfl⟩
  · exact nonneg.costs nodeId edge held
  · exact positive

theorem Nonneg.addPool (nonneg : Nonneg topology) (cluster : ClusterSpec) (pool : PoolSpec) :
    Nonneg (addPool cluster topology pool) := by
  have internal : (0 : ℚ) ≤ max 0.05 (1.2 - tierScore pool.topologyTier) := le_trans (by norm_num) (le_max_left _ _)
  apply Nonneg.addEdge _ _ _ _ _ internal
  apply Nonneg.addEdge _ _ _ _ _ internal
  exact ⟨nonneg.costs, nonneg.factors⟩

theorem averageCost_nonneg (snapshot : GpuTopologySnapshot) : 0 ≤ snapshot.averageCost := by
  unfold GpuTopologySnapshot.averageCost
  dsimp only
  split
  · norm_num
  · apply roundTo_nonneg
    apply div_nonneg _ (Nat.cast_nonneg _)
    apply List.sum_nonneg
    intro value member
    obtain ⟨row, _, kept⟩ := List.mem_flatMap.mp member
    have positive := (List.mem_filter.mp kept).2
    exact (of_decide_eq_true positive).le

theorem Nonneg.addCluster (nonneg : Nonneg topology) (cluster : ClusterSpec) :
    Nonneg (TopologyService.addCluster topology cluster) := by
  have pooled : Nonneg (cluster.pools.foldl (TopologyService.addPool cluster) (topology.withGateway cluster)) := by
    refine List.foldlRecOn (motive := Nonneg) cluster.pools (TopologyService.addPool cluster)
      ⟨nonneg.costs, nonneg.factors⟩ ?_
    intro _ held pool _
    exact held.addPool cluster pool
  refine ⟨?_, ?_⟩
  · intro nodeId edge member
    rw [addCluster_eq, (links_withProbe _ cluster).1] at member
    exact pooled.costs nodeId edge member
  · intro clusterId factor found
    rw [probeCostFactor_addCluster] at found
    split at found
    · cases parsed : cluster.gpuTopologyFile with
      | none =>
        rw [parsed] at found
        exact nonneg.factors clusterId factor found
      | some snapshot =>
        rw [parsed] at found
        cases found
        exact averageCost_nonneg snapshot
    · exact nonneg.factors clusterId factor found

theorem Nonneg.addNetworkCost (nonneg : Nonneg topology) (cluster : ClusterSpec) {link : String × ℚ}
    (positive : 0 ≤ link.2) : Nonneg (TopologyService.addNetworkCost cluster topology link) := by
  unfold TopologyService.addNetworkCost
  split
  · exact nonneg
  · split
    · exact nonneg
    · exact nonneg.addEdge _ _ _ _ positive

theorem nonneg_buildFromConfig {config : ExperimentConfig} (nonneg : config.Nonneg) :
    Nonneg (buildFromConfig config) := by
  have connected : Nonneg (config.clusters.foldl TopologyService.addCluster {}) := by
    refine List.foldlRecOn (motive := Nonneg) config.clusters TopologyService.addCluster ⟨?_, ?_⟩ ?_
    · intro _ edge member
      cases member
    · intro _ _ found
      cases found
    · intro _ held cluster _
      exact held.addCluster cluster
  refine List.foldlRecOn (motive := Nonneg) config.clusters _ connected ?_
  intro reached held cluster known
  refine List.foldlRecOn (motive := Nonneg) cluster.networkCosts.toList (TopologyService.addNetworkCost cluster) held ?_
  intro _ kept link listed
  exact kept.addNetworkCost cluster ((nonneg cluster known).networkCosts link listed)

theorem Nonneg.shortestPathCost (nonneg : Nonneg topology) {source target : String} {cost : ℚ}
    (found : topology.shortestPathCost source target = some cost) : 0 ≤ cost := by
  have finishes := topology.shortestPathCost_finishes target source
  have answers := finishes.answers nonneg.costs (explored_start topology source) List.not_mem_nil
  rw [found] at answers
  apply answers.1.nonneg
  rintro u _ _ ⟨edge, member, _, rfl⟩
  exact nonneg.costs u edge member

theorem Nonneg.routeCost (nonneg : Nonneg topology) {clusterId poolId : String} {cost : ℚ}
    (routed : topology.routeCost clusterId poolId = .ok cost) : 0 ≤ cost := by
  unfold TopologyService.routeCost at routed
  split at routed
  · cases routed
  · split at routed
    · cases routed
    · rename_i base found
      cases routed
      apply roundTo_nonneg
      apply mul_nonneg (nonneg.shortestPathCost found)
      cases known : Dict.lookup topology.clusterProbeCostFactor clusterId with
      | none => norm_num
      | some factor => exact nonneg.factors clusterId factor known

end TopologyService

namespace ControlPlane

structure NonnegativeCosts (plane : ControlPlane) : Prop where
  topology : plane.topology.Nonneg
  ingress : ∀ cluster ∈ plane.clusters.toList, 0 ≤ cluster.ingressCost
  congestion : ∀ cluster ∈ plane.clusters.toList, ∀ now, 0 ≤ cluster.effectiveCongestion now
  scores : ∀ cluster ∈ plane.clusters.toList, ∀ pool ∈ cluster.pools.toList, 0 ≤ pool.congestionScore

variable {plane final : ControlPlane}

theorem effectiveCongestion_nonneg {cluster : ClusterRuntime} (base : 0 ≤ cluster.baseCongestion)
    (windows : ∀ window ∈ cluster.congestionWindows, 0 ≤ window.2.2) (now : ℚ) :
    0 ≤ cluster.effectiveCongestion now := by
  refine List.foldlRecOn (motive := fun congestion : ℚ => 0 ≤ congestion) cluster.congestionWindows _ base ?_
  intro congestion nonneg window listed
  split
  · exact mul_nonneg nonneg (windows window listed)
  · exact nonneg

theorem nonnegativeCosts_create {config : ExperimentConfig} {environment : Environment} (nonneg : config.Nonneg)
    (created : create config environment = .ok plane) : NonnegativeCosts plane := by
  obtain ⟨policy, _, built⟩ := except_bind_eq_ok.mp created
  cases built
  have specs : ∀ cluster ∈ (buildRuntimeClusters config).toList,
      ∃ spec ∈ config.clusters, cluster = buildCluster spec := by
    intro cluster held
    rcases KeyedList.mem_foldl_insert buildCluster _ _ held with empty | ⟨spec, known, same⟩
    · cases empty
    · exact ⟨spec, known, same⟩
  refine ⟨TopologyService.nonneg_buildFromConfig nonneg, ?_, ?_, ?_⟩
  · intro cluster held
    obtain ⟨spec, known, rfl⟩ := specs cluster held
    exact (nonneg spec known).ingressCost
  · intro cluster held
    obtain ⟨spec, known, rfl⟩ := specs cluster held
    exact effectiveCongestion_nonneg (nonneg spec known).baseCongestion (nonneg spec known).congestionWindows
  · intro cluster held pool owned
    obtain ⟨spec, _, rfl⟩ := specs cluster held
    rcases KeyedList.mem_foldl_insert (buildPool spec) _ _ owned with empty | ⟨poolSpec, _, rfl⟩
    · cases empty
    · exact le_refl 0

theorem nonneg_sessionConfig (parallelSlots queueLimit : ℤ) (memoryGb : ℚ) :
    (sessionConfig parallelSlots queueLimit memoryGb).Nonneg := by
  intro cluster known
  cases List.mem_singleton.mp known
  exact ⟨by norm_num, by simp [KeyedList.empty], le_refl 0, by simp⟩

theorem NonnegativeCosts.refresh (costs : NonnegativeCosts plane) (now : ℚ) : NonnegativeCosts (plane.refresh now) := by
  obtain ⟨_, _, refreshed⟩ := refresh_eq plane now
  rw [refreshed]
  refine ⟨costs.topology, ?_, ?_, ?_⟩
  · intro cluster held
    obtain ⟨before, inside, rfl⟩ := List.mem_map.mp held
    exact costs.ingress before inside
  · intro cluster held
    obtain ⟨before, inside, rfl⟩ := List.mem_map.mp held
    exact costs.congestion before inside
  · intro cluster held pool owned
    obtain ⟨before, inside, rfl⟩ := List.mem_map.mp held
    obtain ⟨old, _, rfl⟩ := List.mem_map.mp owned
    exact costs.congestion before inside now

theorem NonnegativeCosts.setPool (costs : NonnegativeCosts plane) {cluster : ClusterRuntime}
    (held : cluster ∈ plane.clusters.toList) {pool : PoolRuntime} (score : 0 ≤ pool.congestionScore) :
    NonnegativeCosts (plane.setPool cluster pool) := by
  refine ⟨costs.topology, ?_, ?_, ?_⟩
  · intro other member
    rcases KeyedList.mem_insert.mp member with rfl | ⟨old, _⟩
    · exact costs.ingress cluster held
    · exact costs.ingress other old
  · intro other member
    rcases KeyedList.mem_insert.mp member with rfl | ⟨old, _⟩
    · exact costs.congestion cluster held
    · exact costs.congestion other old
  · intro other member target owned
    rcases KeyedList.mem_insert.mp member with rfl | ⟨old, _⟩
    · rcases KeyedList.mem_insert.mp owned with rfl | ⟨kept, _⟩
      · exact score
      · exact costs.scores cluster held target kept
    · exact costs.scores other old target owned

theorem NonnegativeCosts.execute (costs : NonnegativeCosts plane) {request : InferenceRequest} {now : ℚ}
    {result : RequestResult} (returned : execute request now plane = .ok result final) : NonnegativeCosts final := by
  obtain ⟨_, _, choice, cluster, pool, _, _, _, chosen, outcome⟩ := execute_eq_ok returned
  rcases outcome with ⟨_, _, rfl⟩ | ⟨_, call, scheduler, _, _, _, _, _, placing, rfl⟩
  · exact ⟨costs.topology, costs.ingress, costs.congestion, costs.scores⟩
  · obtain ⟨slotIndex, _, rfl, booked, _⟩ := placeRequest_eq_ok placing
    obtain ⟨atCluster, atPool⟩ := poolAt_eq_some chosen.found
    have held := (KeyedList.get?_eq_some.mp atCluster).1
    have owned := (KeyedList.get?_eq_some.mp atPool).1
    have placed := @NonnegativeCosts.setPool plane costs cluster held (servedPool call pool slotIndex)
      (costs.scores cluster held pool owned)
    rw [booked]
    exact ⟨placed.topology, placed.ingress, placed.congestion, placed.scores⟩

theorem latency_nonneg {name : String} {backend : Backend} (named : backendNamed name = .ok backend)
    (request : InferenceRequest) (pool : PoolRuntime) (cacheHitRatio topologyAffinity : ℚ)
    {networkCost congestionScore : ℚ} (network : 0 ≤ networkCost) (congestion : 0 ≤ congestionScore) :
    let latency := backend request pool cacheHitRatio topologyAffinity networkCost congestionScore
    0 ≤ latency.1 ∧ 0 ≤ latency.2 := by
  unfold backendNamed at named
  split at named
  · rename_i found registered
    cases named
    obtain ⟨before, after, split, _⟩ := List.lookup_eq_some_iff.mp registered
    have member : (name, backend) ∈ backends := by simp [split]
    simp only [backends, List.mem_cons, List.not_mem_nil, or_false, Prod.mk.injEq] at member
    have adapter : ∀ constants : AdapterConstants, constants.Sound →
        0 ≤ (adapterBackend constants request pool cacheHitRatio topologyAffinity networkCost congestionScore).1 ∧
        0 ≤ (adapterBackend constants request pool cacheHitRatio topologyAffinity networkCost congestionScore).2 := by
      intro constants sound
      have factor := mul_nonneg (congested_nonneg congestion sound.congestion)
        (distant_nonneg sound.least constants.baseMultiplier topologyAffinity constants.affinityWeight)
      exact ⟨roundTo_nonneg 4 (add_nonneg (mul_nonneg (serving_nonneg (charged_nonneg _ _ _) _) factor)
        (mul_nonneg network sound.network)),
        roundTo_nonneg 4 (mul_nonneg (serving_nonneg (generation_nonneg request) _) factor)⟩
    rcases member with ⟨_, rfl⟩ | ⟨_, rfl⟩ | ⟨_, rfl⟩
    · have congested := congested_nonneg congestion (show (0 : ℚ) ≤ 0.35 by norm_num)
      have distant := distant_nonneg (show (0 : ℚ) ≤ 0.72 by norm_num) 1.10 topologyAffinity 0.22
      exact ⟨roundTo_nonneg 4 (add_nonneg (mul_nonneg (mul_nonneg (serving_nonneg (charged_nonneg _ _ _) _) distant)
        congested) (transfer_nonneg network request)),
        roundTo_nonneg 4 (mul_nonneg (serving_nonneg (generation_nonneg request) _) congested)⟩
    · exact adapter _ (by constructor <;> norm_num)
    · exact adapter _ (by constructor <;> norm_num)
  · cases named

theorem assemble_networkCost {request : InferenceRequest} {now : ℚ} {cluster : ClusterRuntime} {pool : PoolRuntime}
    {cache : ℚ × ℤ} {candidate : CandidatePlacement}
    (built : plane.assemble request now cluster pool cache = .ok candidate) :
    ∃ routeCost, plane.topology.routeCost cluster.clusterId pool.poolId = .ok routeCost ∧
      candidate.networkCost = roundTo 4 (cluster.ingressCost + routeCost) ∧
      candidate.congestionScore = roundTo 4 pool.congestionScore := by
  obtain ⟨affinity, _, built⟩ := except_bind_eq_ok.mp built
  obtain ⟨routeCost, routed, built⟩ := except_bind_eq_ok.mp built
  obtain ⟨backend, _, built⟩ := except_bind_eq_ok.mp built
  obtain ⟨delay, _, built⟩ := except_bind_eq_ok.mp built
  cases built
  exact ⟨routeCost, routed, rfl, rfl⟩

theorem NonnegativeCosts.nonnegLatency (costs : NonnegativeCosts plane) {request : InferenceRequest} {now : ℚ}
    {result : RequestResult} {cluster : ClusterRuntime} {pool : PoolRuntime} {cache : ℚ × ℤ}
    {candidate : CandidatePlacement} {call : PlacementCall} {slotIndex : ℕ}
    (placed : Placed plane request now result final cluster pool cache candidate call slotIndex) :
    0 ≤ (call.latency pool).1 ∧ 0 ≤ (call.latency pool).2 ∧ 0 ≤ call.candidate.networkCost := by
  obtain ⟨held, owned⟩ := mem_of_mem_placements placed.answers.mem
  obtain ⟨routeCost, routed, network, congestion⟩ := assemble_networkCost placed.assembled
  have networks : call.candidate.networkCost = candidate.networkCost := by
    rw [placed.enriched]
    rfl
  have congestions : call.candidate.congestionScore = candidate.congestionScore := by
    rw [placed.enriched]
    rfl
  have cost : 0 ≤ call.candidate.networkCost := by
    rw [networks, network]
    exact roundTo_nonneg 4 (add_nonneg (costs.ingress cluster held) (costs.topology.routeCost routed))
  have score : 0 ≤ call.candidate.congestionScore := by
    rw [congestions, congestion]
    exact roundTo_nonneg 4 (costs.scores cluster held pool owned)
  obtain ⟨prefill, decode⟩ := latency_nonneg placed.named call.request pool call.candidate.expectedCacheHitRatio
    call.candidate.topologyAffinity cost score
  exact ⟨prefill, decode, cost⟩

end ControlPlane

end NimbusMesh
