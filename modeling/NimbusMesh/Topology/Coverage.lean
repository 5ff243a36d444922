import NimbusMesh.Topology.ShortestPath

namespace NimbusMesh.TopologyService

open Foundation Foundation.Execution

section Search

variable {topology : TopologyService} {source target nodeId : String} {search : Search} {cost : ℚ}
  {rest : List (ℚ × String)}

def Labelled (nodeId : String) (search : Search) : Prop := ∃ known, Dict.lookup search.distances nodeId = some known

/-- A node that is labelled waits on the frontier as long as it has not been visited. -/
def Queued (nodeId : String) (search : Search) : Prop :=
  nodeId ∉ search.visited → Labelled nodeId search → ∃ waiting, (waiting, nodeId) ∈ search.frontier

theorem labelled_relax (labelled : Labelled nodeId search) (edge : TopologyLink) :
    Labelled nodeId (relax cost search edge) := by
  obtain ⟨known, held⟩ := labelled
  obtain ⟨lower, kept, _⟩ := relax_lowers cost search edge ⟨known, held, le_refl known⟩
  exact ⟨lower, kept⟩

theorem queued_relax (queued : Queued nodeId search) (edge : TopologyLink) : Queued nodeId (relax cost search edge) := by
  rcases relax_cases cost search edge with same | same
  · rw [same]
    exact queued
  · rw [same]
    intro unvisited labelled
    by_cases aimed : edge.target = nodeId
    · exact ⟨cost + edge.cost, by simp [offered, aimed]⟩
    · rw [Labelled, offered, Dict.lookup_set, if_neg aimed] at labelled
      obtain ⟨waiting, member⟩ := queued unvisited labelled
      exact ⟨waiting, List.mem_append_left _ member⟩

theorem queued_popped {visited : List String} (queued : Queued nodeId search) {least : ℚ × String}
    (popped : popLeast search.frontier = some (least, rest)) (other : least.2 ≠ nodeId)
    (kept : nodeId ∉ visited → nodeId ∉ search.visited) :
    Queued nodeId { search with frontier := rest, visited } := by
  intro unvisited labelled
  obtain ⟨waiting, member⟩ := queued (kept unvisited) labelled
  obtain ⟨_, rfl⟩ := popLeast_eq_some popped
  refine ⟨waiting, (List.mem_erase_of_ne ?_).mpr member⟩
  rintro rfl
  exact other rfl

theorem labelled_expand {next : String} (labelled : Labelled nodeId search) :
    Labelled nodeId (search.expand topology cost next rest) := by
  have kept : Labelled nodeId { search with frontier := rest, visited := next :: search.visited } := labelled
  unfold Search.expand
  exact List.foldlRecOn _ (relax cost) kept (fun _ held edge _ => labelled_relax held edge)

theorem queued_expand {next : String} (queued : Queued nodeId search)
    (popped : popLeast search.frontier = some ((cost, next), rest)) (other : next ≠ nodeId) :
    Queued nodeId (search.expand topology cost next rest) := by
  have waiting : Queued nodeId { search with frontier := rest, visited := next :: search.visited } :=
    queued_popped queued popped other (fun unvisited seen => unvisited (List.mem_cons_of_mem _ seen))
  unfold Search.expand
  exact List.foldlRecOn _ (relax cost) waiting (fun _ held edge _ => queued_relax held edge)

theorem expand_visited : (search.expand topology cost nodeId rest).visited = nodeId :: search.visited := by
  rw [Search.expand, foldl_relax_visited]

/-- Until the target is visited, the source waits or a link from it has labelled the target, which waits. -/
structure Covers (source target : String) (search : Search) : Prop where
  unvisited : target ∉ search.visited
  begins : Labelled source search
  fromSource : Queued source search
  toTarget : Queued target search
  linked : source ∈ search.visited → Labelled target search

theorem Covers.expand (linked : ∃ edge ∈ topology.links source, edge.target = target)
    (covers : Covers source target search) (popped : popLeast search.frontier = some ((cost, nodeId), rest))
    (other : nodeId ≠ target) : Covers source target (search.expand topology cost nodeId rest) := by
  constructor
  · rw [expand_visited, List.mem_cons, not_or]
    exact ⟨other.symm, covers.unvisited⟩
  · exact labelled_expand covers.begins
  · by_cases here : nodeId = source
    · intro unvisited
      rw [expand_visited, here] at unvisited
      exact absurd List.mem_cons_self unvisited
    · exact queued_expand covers.fromSource popped here
  · exact queued_expand covers.toTarget popped other
  · intro seen
    rw [expand_visited] at seen
    rcases List.mem_cons.mp seen with here | earlier
    · obtain ⟨edge, member, aimed⟩ := linked
      rw [here] at member
      obtain ⟨known, held, _⟩ := @expand_reaches cost search edge topology nodeId rest member
      rw [aimed] at held
      exact ⟨known, held⟩
    · exact labelled_expand (covers.linked earlier)

theorem Finishes.found_of_link (linked : ∃ edge ∈ topology.links source, edge.target = target) {result : Option ℚ}
    (finishes : Finishes topology target search result) (covers : Covers source target search) :
    ∃ cost, result = some cost := by
  induction finishes with
  | @empty search popped =>
    exfalso
    have waits : ∃ waiting nodeId, (waiting, nodeId) ∈ search.frontier := by
      by_cases seen : source ∈ search.visited
      · obtain ⟨waiting, member⟩ := covers.toTarget covers.unvisited (covers.linked seen)
        exact ⟨waiting, target, member⟩
      · obtain ⟨waiting, member⟩ := covers.fromSource seen covers.begins
        exact ⟨waiting, source, member⟩
    obtain ⟨waiting, nodeId, member⟩ := waits
    rw [popLeast_eq_none.mp popped] at member
    cases member
  | @stale search cost nodeId rest result popped seen _ ih =>
    apply ih
    have other : nodeId ≠ target := fun same => covers.unvisited (same ▸ seen)
    refine ⟨covers.unvisited, covers.begins, ?_, queued_popped covers.toTarget popped other id, covers.linked⟩
    by_cases here : nodeId = source
    · intro unvisited
      exact absurd (here ▸ seen) unvisited
    · exact queued_popped covers.fromSource popped here id
  | @found search cost nodeId rest popped unseen here => exact ⟨cost, rfl⟩
  | @expand search cost nodeId rest result popped unseen other _ ih => exact ih (covers.expand linked popped other)

theorem shortestPathCost_of_link (linked : ∃ edge ∈ topology.links source, edge.target = target) :
    ∃ cost, topology.shortestPathCost source target = some cost := by
  apply (shortestPathCost_finishes topology target source).found_of_link linked
  have labelled : Labelled source (.start source) := ⟨0, by rw [Search.start, Dict.lookup_set, if_pos rfl]⟩
  refine ⟨List.not_mem_nil, labelled, fun _ _ => ⟨0, List.mem_singleton.mpr rfl⟩, ?_, fun seen => ?_⟩
  · intro _ target_labelled
    obtain ⟨known, held⟩ := target_labelled
    rw [Search.start, Dict.lookup_set] at held
    split at held
    · rename_i same
      exact ⟨0, by rw [same]; exact List.mem_singleton.mpr rfl⟩
    · cases held
  · cases seen

end Search

section Pools

variable {topology : TopologyService}

def Tiered (topology : TopologyService) (nodeId : String) : Prop :=
  ∃ node tier, Dict.lookup topology.nodes nodeId = some node ∧ node.topologyTier = some tier

theorem poolNodeId_ne_gatewayNodeId (clusterId poolId other : String) :
    gatewayNodeId other ≠ poolNodeId clusterId poolId := by
  intro same
  have letters := congrArg String.toList same
  simp [gatewayNodeId, poolNodeId] at letters

theorem nodes_addPool (cluster : ClusterSpec) (topology : TopologyService) (pool : PoolSpec) :
    ∃ node, node.topologyTier = some pool.topologyTier ∧
      (addPool cluster topology pool).nodes =
        Dict.set topology.nodes (poolNodeId cluster.clusterId pool.poolId) node :=
  ⟨_, rfl, rfl⟩

theorem tiered_addPool (cluster : ClusterSpec) (pool : PoolSpec) (topology : TopologyService) :
    Tiered (addPool cluster topology pool) (poolNodeId cluster.clusterId pool.poolId) := by
  obtain ⟨node, tier, nodes⟩ := nodes_addPool cluster topology pool
  exact ⟨node, pool.topologyTier, by rw [nodes, Dict.lookup_set, if_pos rfl], tier⟩

theorem Tiered.addPool {nodeId : String} (tiered : Tiered topology nodeId) (cluster : ClusterSpec) (pool : PoolSpec) :
    Tiered (addPool cluster topology pool) nodeId := by
  obtain ⟨node, tier, nodes⟩ := nodes_addPool cluster topology pool
  by_cases same : poolNodeId cluster.clusterId pool.poolId = nodeId
  · exact ⟨node, pool.topologyTier, by rw [nodes, Dict.lookup_set, if_pos same], tier⟩
  · obtain ⟨held, known, found, tiered⟩ := tiered
    exact ⟨held, known, by rw [nodes, Dict.lookup_set, if_neg same, found], tiered⟩

theorem nodes_withProbe (topology : TopologyService) (cluster : ClusterSpec) :
    (topology.withProbe cluster).nodes = topology.nodes := by
  unfold withProbe
  split <;> rfl

theorem Tiered.addCluster {clusterId poolId : String} (tiered : Tiered topology (poolNodeId clusterId poolId))
    (cluster : ClusterSpec) : Tiered (addCluster topology cluster) (poolNodeId clusterId poolId) := by
  rw [addCluster_eq]
  have gated : Tiered (topology.withGateway cluster) (poolNodeId clusterId poolId) := by
    obtain ⟨held, known, found, tier⟩ := tiered
    refine ⟨held, known, ?_, tier⟩
    rw [withGateway, Dict.lookup_set, if_neg (poolNodeId_ne_gatewayNodeId clusterId poolId cluster.clusterId), found]
  have pooled : Tiered (cluster.pools.foldl (TopologyService.addPool cluster) (topology.withGateway cluster))
      (poolNodeId clusterId poolId) := by
    refine List.foldlRecOn (motive := fun reached => Tiered reached (poolNodeId clusterId poolId)) cluster.pools
      (TopologyService.addPool cluster) gated ?_
    intro _ held pool _
    exact Tiered.addPool held cluster pool
  unfold Tiered
  rw [nodes_withProbe]
  exact pooled

theorem tiered_addCluster {cluster : ClusterSpec} {pool : PoolSpec} (owned : pool ∈ cluster.pools)
    (topology : TopologyService) :
    Tiered (TopologyService.addCluster topology cluster) (poolNodeId cluster.clusterId pool.poolId) := by
  rw [addCluster_eq]
  have pooled := foldl_establishes (fun (pool : PoolSpec) (topology : TopologyService) =>
    Tiered topology (poolNodeId cluster.clusterId pool.poolId)) (tiered_addPool cluster)
    (fun pool topology other held => Tiered.addPool held cluster other) (topology.withGateway cluster) owned
  unfold Tiered
  rw [nodes_withProbe]
  exact pooled

variable {config : ExperimentConfig}

theorem tiered_buildFromConfig {cluster : ClusterSpec} (known : cluster ∈ config.clusters) {pool : PoolSpec}
    (owned : pool ∈ cluster.pools) :
    Tiered (buildFromConfig config) (poolNodeId cluster.clusterId pool.poolId) := by
  obtain ⟨adjacency, same⟩ := buildFromConfig_eq config
  have connected := foldl_establishes (fun (cluster : ClusterSpec) (topology : TopologyService) =>
      ∀ pool ∈ cluster.pools, Tiered topology (poolNodeId cluster.clusterId pool.poolId))
    (fun cluster topology pool owned => tiered_addCluster owned topology)
    (fun cluster topology other held pool owned => (held pool owned).addCluster other) {} known
  rw [same]
  exact connected pool owned

theorem pool_measured {cluster : ClusterSpec} (known : cluster ∈ config.clusters) {pool : PoolSpec}
    (owned : pool ∈ cluster.pools) :
    (∀ promptTokens, ∃ affinity, (buildFromConfig config).poolAffinity cluster.clusterId pool.poolId promptTokens =
        .ok affinity) ∧
      ∃ cost, (buildFromConfig config).routeCost cluster.clusterId pool.poolId = .ok cost := by
  constructor
  · intro promptTokens
    obtain ⟨node, tier, found, tiered⟩ := tiered_buildFromConfig known owned
    unfold poolAffinity
    rw [found]
    dsimp only
    rw [tiered]
    exact ⟨_, rfl⟩
  · obtain ⟨gateway, linked⟩ := reaches_buildFromConfig config known
    obtain ⟨cost, found⟩ := shortestPathCost_of_link (linked pool owned)
    unfold routeCost
    rw [gateway]
    dsimp only
    rw [found]
    exact ⟨_, rfl⟩

end Pools

end NimbusMesh.TopologyService
