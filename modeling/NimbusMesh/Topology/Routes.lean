import NimbusMesh.Foundation.Execution
import NimbusMesh.Topology.Graph

namespace NimbusMesh

open Foundation Foundation.Decimal Foundation.Execution

namespace TopologyService

section Fuel

theorem popLeast_eq_none {frontier : List (ℚ × String)} : popLeast frontier = none ↔ frontier = [] := by
  simp [popLeast, List.argmin_eq_none]

theorem popLeast_eq_some {frontier rest : List (ℚ × String)} {least : ℚ × String}
    (popped : popLeast frontier = some (least, rest)) : least ∈ frontier ∧ rest = frontier.erase least := by
  obtain ⟨found, chosen, same⟩ := Option.map_eq_some_iff.mp popped
  cases same
  exact ⟨List.argmin_mem chosen, rfl⟩

def pending (topology : TopologyService) (visited : List String) : ℕ :=
  (topology.adjacency.toList.map (fun slot => if slot.1 ∈ visited then 0 else slot.2.length)).sum

theorem pending_visit (topology : TopologyService) {visited : List String} {nodeId : String}
    (unvisited : nodeId ∉ visited) :
    topology.pending (nodeId :: visited) + (topology.links nodeId).length = topology.pending visited := by
  have after := KeyedList.sum_erase (fun slot : String × List TopologyLink =>
    if slot.1 ∈ nodeId :: visited then 0 else slot.2.length) topology.adjacency nodeId
  have before := KeyedList.sum_erase (fun slot : String × List TopologyLink =>
    if slot.1 ∈ visited then 0 else slot.2.length) topology.adjacency nodeId
  have others : ((topology.adjacency.erase nodeId).toList.map (fun slot =>
      if slot.1 ∈ nodeId :: visited then 0 else slot.2.length)) =
      (topology.adjacency.erase nodeId).toList.map (fun slot =>
        if slot.1 ∈ visited then 0 else slot.2.length) := by
    apply List.map_congr_left
    intro slot member
    have other := (KeyedList.mem_erase.mp member).2
    simp [other]
  unfold pending links Dict.lookup
  rw [← before, ← after, others]
  cases found : topology.adjacency.get? nodeId with
  | none => simp
  | some slot =>
    have named := KeyedList.get?_key found
    simp [named, unvisited]

theorem pending_le_edgeCount (topology : TopologyService) (visited : List String) :
    topology.pending visited ≤ topology.edgeCount := by
  unfold pending edgeCount Dict.values
  rw [List.map_map]
  apply List.sum_le_sum
  intro slot _
  dsimp only [Function.comp]
  split <;> omega

def offered (cost : ℚ) (search : Search) (edge : TopologyLink) : Search :=
  { search with
    distances := Dict.set search.distances edge.target (cost + edge.cost)
    frontier := search.frontier ++ [(cost + edge.cost, edge.target)] }

theorem relax_cases (cost : ℚ) (search : Search) (edge : TopologyLink) :
    relax cost search edge = search ∨ relax cost search edge = offered cost search edge := by
  unfold relax
  dsimp only
  split
  · exact .inr rfl
  · split
    · exact .inr rfl
    · exact .inl rfl

theorem foldl_relax_visited (cost : ℚ) (edges : List TopologyLink) (search : Search) :
    (edges.foldl (relax cost) search).visited = search.visited := by
  induction edges generalizing search with
  | nil => rfl
  | cons edge rest ih =>
    rw [List.foldl_cons, ih]
    rcases relax_cases cost search edge with same | same <;> rw [same]
    rfl

theorem foldl_relax_length (cost : ℚ) (edges : List TopologyLink) (search : Search) :
    (edges.foldl (relax cost) search).frontier.length ≤ search.frontier.length + edges.length := by
  induction edges generalizing search with
  | nil => exact le_refl _
  | cons edge rest ih =>
    have one : (relax cost search edge).frontier.length ≤ search.frontier.length + 1 := by
      rcases relax_cases cost search edge with same | same <;> rw [same]
      · omega
      · simp [offered]
    have later := ih (relax cost search edge)
    rw [List.foldl_cons, List.length_cons]
    omega

end Fuel

def Search.start (source : String) : Search :=
  { frontier := [(0, source)], visited := [], distances := Dict.set KeyedList.empty source 0 }

def Search.expand (topology : TopologyService) (search : Search) (cost : ℚ) (nodeId : String)
    (rest : List (ℚ × String)) : Search :=
  (topology.links nodeId).foldl (relax cost)
    { search with frontier := rest, visited := nodeId :: search.visited }

/-- The loop ends from a state with a result: one constructor for each way round or out. -/
inductive Finishes (topology : TopologyService) (target : String) : Search → Option ℚ → Prop
  | empty {search : Search} : popLeast search.frontier = none → Finishes topology target search none
  | stale {search : Search} {cost : ℚ} {nodeId : String} {rest : List (ℚ × String)} {result : Option ℚ} :
      popLeast search.frontier = some ((cost, nodeId), rest) → nodeId ∈ search.visited →
      Finishes topology target { search with frontier := rest } result → Finishes topology target search result
  | found {search : Search} {cost : ℚ} {nodeId : String} {rest : List (ℚ × String)} :
      popLeast search.frontier = some ((cost, nodeId), rest) → nodeId ∉ search.visited → nodeId = target →
      Finishes topology target search (some cost)
  | expand {search : Search} {cost : ℚ} {nodeId : String} {rest : List (ℚ × String)} {result : Option ℚ} :
      popLeast search.frontier = some ((cost, nodeId), rest) → nodeId ∉ search.visited → nodeId ≠ target →
      Finishes topology target (search.expand topology cost nodeId rest) result →
      Finishes topology target search result

section Termination

variable (topology : TopologyService) (target : String)

/-- Items on the frontier and links not yet followed together bound the rounds left. -/
theorem searchLoop_finishes (fuel : ℕ) (search : Search)
    (enough : search.frontier.length + topology.pending search.visited < fuel) :
    Finishes topology target search (topology.searchLoop target fuel search) := by
  induction fuel generalizing search with
  | zero => omega
  | succ fuel ih =>
    unfold searchLoop
    cases popped : popLeast search.frontier with
    | none => exact .empty popped
    | some pop =>
      obtain ⟨⟨cost, nodeId⟩, rest⟩ := pop
      obtain ⟨member, remaining⟩ := popLeast_eq_some popped
      have shorter : rest.length + 1 = search.frontier.length := by
        have positive := List.length_pos_of_mem member
        rw [remaining, List.length_erase_of_mem member]
        omega
      dsimp only
      split
      · rename_i seen
        apply Finishes.stale popped seen
        apply ih
        dsimp only
        omega
      · rename_i unseen
        split
        · rename_i here
          exact .found popped unseen here
        · rename_i other
          apply Finishes.expand popped unseen other
          apply ih
          have visit := topology.pending_visit unseen
          have growth := foldl_relax_length cost (topology.links nodeId)
            { search with frontier := rest, visited := nodeId :: search.visited }
          unfold Search.expand
          rw [foldl_relax_visited]
          dsimp only at growth ⊢
          omega

theorem shortestPathCost_finishes (source : String) :
    Finishes topology target (.start source) (topology.shortestPathCost source target) := by
  apply searchLoop_finishes
  have bound := topology.pending_le_edgeCount []
  simp only [Search.start, List.length_singleton]
  omega

end Termination

section Direct

/-- All links into the target come from the source, which has one, and cost the same. -/
structure DirectOnly (topology : TopologyService) (source target : String) (weight : ℚ) : Prop where
  differ : source ≠ target
  linked : ∃ edge ∈ topology.links source, edge.target = target
  direct : ∀ nodeId, ∀ edge ∈ topology.links nodeId, edge.target = target → nodeId = source ∧ edge.cost = weight

structure Unseen (target : String) (search : Search) : Prop where
  unvisited : target ∉ search.visited
  unknown : Dict.lookup search.distances target = none
  absent : ∀ item ∈ search.frontier, item.2 ≠ target

/-- A search that holds the direct link, and no other way, to the target. -/
structure Holds (target : String) (weight : ℚ) (search : Search) : Prop where
  unvisited : target ∉ search.visited
  known : Dict.lookup search.distances target = some weight
  waiting : (weight, target) ∈ search.frontier
  only : ∀ item ∈ search.frontier, item.2 = target → item.1 = weight

variable {topology : TopologyService} {source target : String} {weight cost : ℚ} {search : Search}

theorem Unseen.away {edge : TopologyLink} (unseen : Unseen target search) (away : edge.target ≠ target) :
    Unseen target (relax cost search edge) := by
  rcases relax_cases cost search edge with same | same <;> rw [same]
  · exact unseen
  · refine ⟨unseen.unvisited, ?_, ?_⟩
    · rw [offered, Dict.lookup_set, if_neg away]
      exact unseen.unknown
    · intro item member
      rcases List.mem_append.mp member with earlier | new
      · exact unseen.absent item earlier
      · rw [List.mem_singleton.mp new]
        exact away

theorem Unseen.aimed {edge : TopologyLink} (unseen : Unseen target search) (aimed : edge.target = target)
    (price : cost + edge.cost = weight) : Holds target weight (relax cost search edge) := by
  unfold relax
  rw [aimed, price]
  simp only [unseen.unknown, if_true]
  refine ⟨unseen.unvisited, ?_, ?_, ?_⟩
  · rw [Dict.lookup_set, if_pos rfl]
  · simp
  · intro item member named
    rcases List.mem_append.mp member with earlier | new
    · exact absurd named (unseen.absent item earlier)
    · rw [List.mem_singleton.mp new]

theorem Holds.relaxed {edge : TopologyLink} (holds : Holds target weight search)
    (price : edge.target = target → cost + edge.cost = weight) : Holds target weight (relax cost search edge) := by
  by_cases aimed : edge.target = target
  · unfold relax
    rw [aimed, price aimed]
    simpa only [holds.known, lt_irrefl, decide_false, Bool.false_eq_true, if_false] using holds
  · rcases relax_cases cost search edge with same | same <;> rw [same]
    · exact holds
    · refine ⟨holds.unvisited, ?_, ?_, ?_⟩
      · rw [offered, Dict.lookup_set, if_neg aimed]
        exact holds.known
      · exact List.mem_append_left _ holds.waiting
      · intro item member named
        rcases List.mem_append.mp member with earlier | new
        · exact holds.only item earlier named
        · rw [List.mem_singleton.mp new] at named
          exact absurd named aimed

theorem Holds.expanded {edges : List TopologyLink} (holds : Holds target weight search)
    (prices : ∀ edge ∈ edges, edge.target = target → cost + edge.cost = weight) :
    Holds target weight (edges.foldl (relax cost) search) := by
  induction edges generalizing search with
  | nil => exact holds
  | cons edge rest ih =>
    exact ih (holds.relaxed (prices edge (by simp))) (fun other member => prices other (by simp [member]))

theorem Unseen.expanded {edges : List TopologyLink} (unseen : Unseen target search)
    (prices : ∀ edge ∈ edges, edge.target = target → cost + edge.cost = weight)
    (linked : ∃ edge ∈ edges, edge.target = target) :
    Holds target weight (edges.foldl (relax cost) search) := by
  induction edges generalizing search with
  | nil =>
    obtain ⟨edge, member, _⟩ := linked
    cases member
  | cons edge rest ih =>
    have later : ∀ other ∈ rest, other.target = target → cost + other.cost = weight :=
      fun other member => prices other (by simp [member])
    rw [List.foldl_cons]
    by_cases aimed : edge.target = target
    · exact (unseen.aimed aimed (prices edge (by simp) aimed)).expanded later
    · refine ih (unseen.away aimed) later ?_
      obtain ⟨other, member, named⟩ := linked
      rcases List.mem_cons.mp member with rfl | inRest
      · exact absurd named aimed
      · exact ⟨other, inRest, named⟩

theorem Holds.popped {nodeId : String} {rest : List (ℚ × String)} (holds : Holds target weight search)
    (popped : popLeast search.frontier = some ((cost, nodeId), rest)) (other : nodeId ≠ target) :
    Holds target weight { search with frontier := rest } := by
  obtain ⟨_, remaining⟩ := popLeast_eq_some popped
  refine ⟨holds.unvisited, holds.known, ?_, ?_⟩
  · rw [remaining]
    exact (List.mem_erase_of_ne (fun same => other (congrArg Prod.snd same).symm)).mpr holds.waiting
  · intro item inRest
    rw [remaining] at inRest
    exact holds.only item (List.mem_of_mem_erase inRest)

theorem Finishes.of_holds {result : Option ℚ} (finishes : Finishes topology target search result)
    (only : DirectOnly topology source target weight) (holds : Holds target weight search)
    (expanded : source ∈ search.visited) : result = some weight := by
  induction finishes with
  | empty popped =>
    have waiting := holds.waiting
    rw [popLeast_eq_none.mp popped] at waiting
    cases waiting
  | stale popped seen _ ih => exact ih (holds.popped popped (fun same => holds.unvisited (same ▸ seen))) expanded
  | found popped _ here => exact congrArg some (holds.only _ (popLeast_eq_some popped).1 here)
  | @expand search cost nodeId rest _ popped unseen other _ ih =>
    have elsewhere : ∀ edge ∈ topology.links nodeId, edge.target = target → cost + edge.cost = weight := by
      intro edge inLinks aimed
      rw [(only.direct nodeId edge inLinks aimed).1] at unseen
      exact absurd expanded unseen
    have kept := holds.popped popped other
    have start : Holds target weight { search with frontier := rest, visited := nodeId :: search.visited } :=
      ⟨fun seen => (List.mem_cons.mp seen).elim (fun same => other same.symm) holds.unvisited,
        kept.known, kept.waiting, kept.only⟩
    apply ih (start.expanded elsewhere)
    rw [Search.expand, foldl_relax_visited]
    exact List.mem_cons_of_mem _ expanded

theorem shortestPathCost_direct (only : DirectOnly topology source target weight) :
    topology.shortestPathCost source target = some weight := by
  have alone : popLeast (Search.start source).frontier = some ((0, source), []) := by
    simp [popLeast, Search.start]
  have unseen : Unseen target
      { frontier := [], visited := [source], distances := Dict.set KeyedList.empty source 0 } := by
    refine ⟨?_, ?_, by simp⟩
    · simpa using only.differ.symm
    · rw [Dict.lookup_set, if_neg only.differ]
      rfl
  have prices : ∀ edge ∈ topology.links source, edge.target = target → 0 + edge.cost = weight := by
    intro edge member aimed
    rw [zero_add]
    exact (only.direct source edge member aimed).2
  have finishes := topology.shortestPathCost_finishes target source
  generalize topology.shortestPathCost source target = result at finishes ⊢
  cases finishes with
  | empty popped => cases alone.symm.trans popped
  | stale _ seen _ => cases seen
  | found popped _ here =>
    cases alone.symm.trans popped
    exact absurd here only.differ
  | expand popped _ _ later =>
    cases alone.symm.trans popped
    apply later.of_holds only (unseen.expanded prices only.linked)
    rw [Search.expand, foldl_relax_visited]
    exact List.mem_singleton_self source

end Direct

end TopologyService

namespace ClusterSpec

def unlinked (cluster : ClusterSpec) : ClusterSpec := { cluster with networkCosts := KeyedList.empty }

def nodeIds (cluster : ClusterSpec) : List String :=
  TopologyService.gatewayNodeId cluster.clusterId ::
    cluster.pools.map (fun pool => TopologyService.poolNodeId cluster.clusterId pool.poolId)

def probeCostFactor (cluster : ClusterSpec) : ℚ :=
  (cluster.gpuTopologyFile.map GpuTopologySnapshot.averageCost).getD 1.0

end ClusterSpec

def PoolSpec.internalCost (pool : PoolSpec) : ℚ := max 0.05 (1.2 - TopologyService.tierScore pool.topologyTier)

namespace ExperimentConfig

def unlinked (config : ExperimentConfig) : ExperimentConfig :=
  { config with clusters := config.clusters.map ClusterSpec.unlinked }

def DistinctNodes (config : ExperimentConfig) : Prop := (config.clusters.flatMap ClusterSpec.nodeIds).Nodup

end ExperimentConfig

namespace TopologyService

section Links

variable {clusters : List ClusterSpec} {topology : TopologyService}

theorem mem_links_addEdge {source target nodeId : String} {bandwidthGbps latencyUs cost : ℚ} {edge : TopologyLink} :
    edge ∈ (topology.addEdge source target bandwidthGbps latencyUs cost).links nodeId ↔
      edge ∈ topology.links nodeId ∨
        (source = nodeId ∧ edge = ⟨source, target, bandwidthGbps, latencyUs, cost⟩) := by
  unfold addEdge links
  rw [Dict.lookup_set]
  by_cases same : source = nodeId
  · simp [same]
  · simp [same]

def withGateway (topology : TopologyService) (cluster : ClusterSpec) : TopologyService :=
  { topology with
    clusterGateways := Dict.set topology.clusterGateways cluster.clusterId (gatewayNodeId cluster.clusterId)
    nodes := Dict.set topology.nodes (gatewayNodeId cluster.clusterId)
      { nodeId := gatewayNodeId cluster.clusterId, kind := "gateway", clusterId := cluster.clusterId
        zone := cluster.zone } }

def withProbe (topology : TopologyService) (cluster : ClusterSpec) : TopologyService :=
  match cluster.gpuTopologyFile with
  | none => topology
  | some parsed =>
    { topology with
      clusterProbeAffinity :=
        Dict.set topology.clusterProbeAffinity cluster.clusterId parsed.overallAffinity
      clusterProbeCostFactor :=
        Dict.set topology.clusterProbeCostFactor cluster.clusterId parsed.averageCost }

theorem addCluster_eq (topology : TopologyService) (cluster : ClusterSpec) :
    addCluster topology cluster =
      (cluster.pools.foldl (addPool cluster) (topology.withGateway cluster)).withProbe cluster := rfl

theorem links_withProbe (topology : TopologyService) (cluster : ClusterSpec) :
    (topology.withProbe cluster).links = topology.links ∧
      (topology.withProbe cluster).clusterGateways = topology.clusterGateways := by
  unfold withProbe
  split <;> exact ⟨rfl, rfl⟩

inductive Wired (clusters : List ClusterSpec) : String → TopologyLink → Prop where
  | inward {cluster : ClusterSpec} {pool : PoolSpec} {edge : TopologyLink} (known : cluster ∈ clusters)
      (owned : pool ∈ cluster.pools) (target : edge.target = poolNodeId cluster.clusterId pool.poolId)
      (cost : edge.cost = pool.internalCost) : Wired clusters (gatewayNodeId cluster.clusterId) edge
  | outward {cluster : ClusterSpec} {edge : TopologyLink} {nodeId : String} (known : cluster ∈ clusters)
      (target : edge.target = gatewayNodeId cluster.clusterId) : Wired clusters nodeId edge

structure WiredIn (clusters : List ClusterSpec) (topology : TopologyService) : Prop where
  gateways : ∀ clusterId gatewayId, Dict.lookup topology.clusterGateways clusterId = some gatewayId →
    ∃ cluster ∈ clusters, gatewayId = gatewayNodeId cluster.clusterId
  wired : ∀ nodeId, ∀ edge ∈ topology.links nodeId, Wired clusters nodeId edge

theorem WiredIn.addPool {cluster : ClusterSpec} {pool : PoolSpec} (wiring : WiredIn clusters topology)
    (known : cluster ∈ clusters) (owned : pool ∈ cluster.pools) :
    WiredIn clusters (addPool cluster topology pool) := by
  refine ⟨wiring.gateways, ?_⟩
  intro nodeId edge member
  rcases mem_links_addEdge.mp member with earlier | ⟨_, rfl⟩
  · rcases mem_links_addEdge.mp earlier with old | ⟨rfl, rfl⟩
    · exact wiring.wired nodeId edge old
    · exact .inward known owned rfl rfl
  · exact .outward known rfl

theorem WiredIn.addCluster {cluster : ClusterSpec} (wiring : WiredIn clusters topology)
    (known : cluster ∈ clusters) : WiredIn clusters (addCluster topology cluster) := by
  have gated : WiredIn clusters (topology.withGateway cluster) := by
    refine ⟨?_, wiring.wired⟩
    intro clusterId gatewayId found
    rw [withGateway, Dict.lookup_set] at found
    split at found
    · cases found
      exact ⟨cluster, known, rfl⟩
    · exact wiring.gateways clusterId gatewayId found
  have pooled : WiredIn clusters (cluster.pools.foldl (TopologyService.addPool cluster)
      (topology.withGateway cluster)) :=
    List.foldlRecOn _ _ gated (fun _ wiring pool owned => wiring.addPool known owned)
  obtain ⟨links, gateways⟩ := links_withProbe (cluster.pools.foldl (TopologyService.addPool cluster)
    (topology.withGateway cluster)) cluster
  rw [addCluster_eq]
  constructor
  · rw [gateways]
    exact pooled.gateways
  · rw [links]
    exact pooled.wired

theorem WiredIn.addNetworkCost {cluster : ClusterSpec} (wiring : WiredIn clusters topology)
    (link : String × ℚ) : WiredIn clusters (addNetworkCost cluster topology link) := by
  unfold TopologyService.addNetworkCost
  split
  · exact wiring
  · split
    · exact wiring
    · rename_i target found
      obtain ⟨other, known, same⟩ := wiring.gateways _ _ found
      refine ⟨wiring.gateways, ?_⟩
      intro nodeId edge member
      rcases mem_links_addEdge.mp member with earlier | ⟨_, rfl⟩
      · exact wiring.wired nodeId edge earlier
      · exact .outward known same

structure Grows (before after : TopologyService) : Prop where
  links : ∀ nodeId, before.links nodeId ⊆ after.links nodeId
  gateways : ∀ clusterId, Dict.lookup before.clusterGateways clusterId = some (gatewayNodeId clusterId) →
    Dict.lookup after.clusterGateways clusterId = some (gatewayNodeId clusterId)

theorem Grows.refl (topology : TopologyService) : Grows topology topology :=
  ⟨fun _ => List.Subset.refl _, fun _ found => found⟩

theorem Grows.trans {first second third : TopologyService} (left : Grows first second)
    (right : Grows second third) : Grows first third :=
  ⟨fun nodeId => List.Subset.trans (left.links nodeId) (right.links nodeId),
    fun clusterId found => right.gateways clusterId (left.gateways clusterId found)⟩

theorem grows_foldl {ι : Type} {step : TopologyService → ι → TopologyService}
    (grows : ∀ topology i, Grows topology (step topology i)) (inputs : List ι) (topology : TopologyService) :
    Grows topology (inputs.foldl step topology) :=
  List.foldlRecOn inputs step (.refl topology) (fun built grown i _ => grown.trans (grows built i))

theorem grows_addEdge (topology : TopologyService) (source target : String)
    (bandwidthGbps latencyUs cost : ℚ) :
    Grows topology (topology.addEdge source target bandwidthGbps latencyUs cost) :=
  ⟨fun _ _ member => mem_links_addEdge.mpr (.inl member), fun _ found => found⟩

theorem grows_addPool (cluster : ClusterSpec) (topology : TopologyService) (pool : PoolSpec) :
    Grows topology (addPool cluster topology pool) :=
  ⟨fun _ _ member => mem_links_addEdge.mpr (.inl (mem_links_addEdge.mpr (.inl member))), fun _ found => found⟩

theorem grows_withGateway (topology : TopologyService) (cluster : ClusterSpec) :
    Grows topology (topology.withGateway cluster) := by
  refine ⟨fun _ => List.Subset.refl _, ?_⟩
  intro clusterId found
  rw [withGateway, Dict.lookup_set]
  split
  · rename_i same
    rw [same]
  · exact found

theorem grows_withProbe (topology : TopologyService) (cluster : ClusterSpec) :
    Grows topology (topology.withProbe cluster) := by
  obtain ⟨links, gateways⟩ := links_withProbe topology cluster
  constructor
  · rw [links]
    exact fun _ => List.Subset.refl _
  · rw [gateways]
    exact fun _ found => found

theorem grows_addCluster (topology : TopologyService) (cluster : ClusterSpec) :
    Grows topology (addCluster topology cluster) := by
  rw [addCluster_eq]
  exact ((grows_withGateway topology cluster).trans (grows_foldl (grows_addPool cluster) _ _)).trans
    (grows_withProbe _ cluster)

theorem grows_addNetworkCost (cluster : ClusterSpec) (topology : TopologyService) (link : String × ℚ) :
    Grows topology (addNetworkCost cluster topology link) := by
  unfold addNetworkCost
  split
  · exact .refl topology
  · split
    · exact .refl topology
    · exact grows_addEdge topology _ _ _ _ _

structure Reaches (cluster : ClusterSpec) (topology : TopologyService) : Prop where
  gateway : Dict.lookup topology.clusterGateways cluster.clusterId = some (gatewayNodeId cluster.clusterId)
  linked : ∀ pool ∈ cluster.pools, ∃ edge ∈ topology.links (gatewayNodeId cluster.clusterId),
    edge.target = poolNodeId cluster.clusterId pool.poolId

theorem Reaches.grows {cluster : ClusterSpec} {before after : TopologyService} (reaches : Reaches cluster before)
    (grows : Grows before after) : Reaches cluster after := by
  refine ⟨grows.gateways _ reaches.gateway, ?_⟩
  intro pool owned
  obtain ⟨edge, member, target⟩ := reaches.linked pool owned
  exact ⟨edge, grows.links _ member, target⟩

theorem reaches_addCluster (cluster : ClusterSpec) (topology : TopologyService) :
    Reaches cluster (addCluster topology cluster) := by
  have gated : Dict.lookup (topology.withGateway cluster).clusterGateways cluster.clusterId =
      some (gatewayNodeId cluster.clusterId) := by
    rw [withGateway, Dict.lookup_set, if_pos rfl]
  have pooled := grows_foldl (grows_addPool cluster) cluster.pools (topology.withGateway cluster)
  rw [addCluster_eq]
  refine Reaches.grows ⟨pooled.gateways _ gated, ?_⟩ (grows_withProbe _ cluster)
  intro pool owned
  refine foldl_establishes (fun (pool : PoolSpec) (topology : TopologyService) =>
    ∃ edge ∈ topology.links (gatewayNodeId cluster.clusterId),
      edge.target = poolNodeId cluster.clusterId pool.poolId) ?_ ?_ _ owned
  · intro pool topology
    exact ⟨_, mem_links_addEdge.mpr (.inl (mem_links_addEdge.mpr (.inr ⟨rfl, rfl⟩))), rfl⟩
  · rintro pool topology other ⟨edge, member, target⟩
    exact ⟨edge, (grows_addPool cluster topology other).links _ member, target⟩

end Links

section Build

variable (config : ExperimentConfig)

/-- The topology before the costs between clusters are added. -/
def connected : TopologyService := config.clusters.foldl addCluster {}

theorem connected_unlinked : connected config.unlinked = connected config := by
  unfold connected ExperimentConfig.unlinked
  rw [List.foldl_map]
  rfl

theorem wiredIn_connected : WiredIn config.clusters (connected config) := by
  refine List.foldlRecOn config.clusters addCluster ⟨?_, ?_⟩ (fun _ wiring cluster known => wiring.addCluster known)
  · intro clusterId gatewayId found
    cases found
  · intro nodeId edge member
    cases member

theorem wiredIn_buildFromConfig : WiredIn config.clusters (buildFromConfig config) := by
  refine List.foldlRecOn config.clusters _ (wiredIn_connected config) ?_
  intro topology wiring cluster _
  exact List.foldlRecOn _ (addNetworkCost cluster) wiring (fun _ wiring link _ => wiring.addNetworkCost link)

theorem buildFromConfig_eq : ∃ adjacency, buildFromConfig config = { connected config with adjacency } := by
  let differs (topology : TopologyService) := ∃ adjacency, topology = { connected config with adjacency }
  refine List.foldlRecOn (motive := differs) config.clusters _ ⟨(connected config).adjacency, rfl⟩ ?_
  rintro _ ⟨before, rfl⟩ cluster _
  refine List.foldlRecOn (motive := differs) _ (addNetworkCost cluster) ⟨before, rfl⟩ ?_
  rintro _ ⟨adjacency, rfl⟩ link _
  unfold addNetworkCost
  split
  · exact ⟨adjacency, rfl⟩
  · split
    · exact ⟨adjacency, rfl⟩
    · exact ⟨_, rfl⟩

theorem reaches_buildFromConfig {cluster : ClusterSpec} (known : cluster ∈ config.clusters) :
    Reaches cluster (buildFromConfig config) := by
  have placed : Reaches cluster (connected config) :=
    foldl_establishes Reaches (fun cluster topology => reaches_addCluster cluster topology)
      (fun _ topology other reaches => reaches.grows (grows_addCluster topology other)) {} known
  exact placed.grows (grows_foldl (fun topology cluster => grows_foldl (grows_addNetworkCost cluster) _ _) _ _)

variable {config}

theorem cluster_eq_of_nodeIds (distinct : config.DistinctNodes) {first second : ClusterSpec}
    (left : first ∈ config.clusters) (right : second ∈ config.clusters) {nodeId : String}
    (inFirst : nodeId ∈ first.nodeIds) (inSecond : nodeId ∈ second.nodeIds) : first = second := by
  by_contra differ
  have symmetric : Std.Symm (Function.onFun List.Disjoint ClusterSpec.nodeIds) := ⟨fun _ _ apart => apart.symm⟩
  exact (List.nodup_flatMap.mp distinct).2.forall left right differ inFirst inSecond

theorem poolNodeId_mem_nodeIds {cluster : ClusterSpec} {pool : PoolSpec} (owned : pool ∈ cluster.pools) :
    poolNodeId cluster.clusterId pool.poolId ∈ cluster.nodeIds :=
  List.mem_cons_of_mem _ (List.mem_map_of_mem owned)

theorem gatewayNodeId_mem_nodeIds (cluster : ClusterSpec) : gatewayNodeId cluster.clusterId ∈ cluster.nodeIds :=
  List.mem_cons_self

theorem directOnly_buildFromConfig (distinct : config.DistinctNodes) {cluster : ClusterSpec} {pool : PoolSpec}
    (known : cluster ∈ config.clusters) (owned : pool ∈ cluster.pools) :
    DirectOnly (buildFromConfig config) (gatewayNodeId cluster.clusterId)
      (poolNodeId cluster.clusterId pool.poolId) pool.internalCost := by
  have own := List.nodup_cons.mp ((List.nodup_flatMap.mp distinct).1 cluster known)
  have differ : gatewayNodeId cluster.clusterId ≠ poolNodeId cluster.clusterId pool.poolId := by
    intro same
    apply own.1
    rw [same]
    exact List.mem_map_of_mem owned
  refine ⟨differ, (reaches_buildFromConfig config known).linked pool owned, ?_⟩
  intro nodeId edge member aimed
  cases (wiredIn_buildFromConfig config).wired nodeId edge member with
  | @inward other otherPool _ otherKnown otherOwned target cost =>
    have shared := poolNodeId_mem_nodeIds otherOwned
    rw [← target, aimed] at shared
    cases cluster_eq_of_nodeIds distinct otherKnown known shared (poolNodeId_mem_nodeIds owned)
    have same := List.inj_on_of_nodup_map own.2 otherOwned owned (target.symm.trans aimed)
    rw [cost, same]
    exact ⟨rfl, rfl⟩
  | @outward other _ _ otherKnown target =>
    have shared := gatewayNodeId_mem_nodeIds other
    rw [← target, aimed] at shared
    cases cluster_eq_of_nodeIds distinct otherKnown known shared (poolNodeId_mem_nodeIds owned)
    exact absurd (target.symm.trans aimed) differ

theorem probeCostFactor_addCluster (topology : TopologyService) (cluster : ClusterSpec) (clusterId : String) :
    Dict.lookup (addCluster topology cluster).clusterProbeCostFactor clusterId =
      if cluster.clusterId = clusterId then
        (cluster.gpuTopologyFile.map GpuTopologySnapshot.averageCost).or
          (Dict.lookup topology.clusterProbeCostFactor clusterId)
      else Dict.lookup topology.clusterProbeCostFactor clusterId := by
  have pools : (cluster.pools.foldl (addPool cluster) (topology.withGateway cluster)).clusterProbeCostFactor =
      topology.clusterProbeCostFactor :=
    List.foldlRecOn (motive := fun pooled : TopologyService =>
      pooled.clusterProbeCostFactor = topology.clusterProbeCostFactor) _ _ rfl (fun _ same _ _ => same)
  rw [addCluster_eq, withProbe]
  cases cluster.gpuTopologyFile with
  | none => simp [pools]
  | some parsed =>
    simp only [Dict.lookup_set, pools]
    rfl

theorem gateways_apart {first second : ClusterSpec}
    (apart : Function.onFun List.Disjoint ClusterSpec.nodeIds first second) : first.clusterId ≠ second.clusterId := by
  intro same
  have shared := gatewayNodeId_mem_nodeIds second
  rw [← same] at shared
  exact apart (gatewayNodeId_mem_nodeIds first) shared

theorem probeCostFactor_connected (distinct : config.DistinctNodes) {cluster : ClusterSpec}
    (known : cluster ∈ config.clusters) :
    Dict.lookup (connected config).clusterProbeCostFactor cluster.clusterId =
      cluster.gpuTopologyFile.map GpuTopologySnapshot.averageCost := by
  have untouched : ∀ (specs : List ClusterSpec) (topology : TopologyService),
      (∀ other ∈ specs, other.clusterId ≠ cluster.clusterId) →
      Dict.lookup (specs.foldl addCluster topology).clusterProbeCostFactor cluster.clusterId =
        Dict.lookup topology.clusterProbeCostFactor cluster.clusterId := by
    intro specs topology others
    let unprobed (built : TopologyService) := Dict.lookup built.clusterProbeCostFactor cluster.clusterId =
      Dict.lookup topology.clusterProbeCostFactor cluster.clusterId
    refine List.foldlRecOn (motive := unprobed) specs addCluster rfl ?_
    intro built same other member
    change Dict.lookup (addCluster built other).clusterProbeCostFactor cluster.clusterId = _
    rw [probeCostFactor_addCluster, if_neg (others other member)]
    exact same
  obtain ⟨before, after, split⟩ := List.append_of_mem known
  have apart := (List.nodup_flatMap.mp distinct).2
  rw [split] at apart
  obtain ⟨_, tail, cross⟩ := List.pairwise_append.mp apart
  have earlier : ∀ other ∈ before, other.clusterId ≠ cluster.clusterId :=
    fun other member => gateways_apart (cross other member cluster (by simp))
  have later : ∀ other ∈ after, other.clusterId ≠ cluster.clusterId :=
    fun other member => (gateways_apart ((List.pairwise_cons.mp tail).1 other member)).symm
  unfold connected
  rw [split, List.foldl_append, List.foldl_cons, untouched after _ later, probeCostFactor_addCluster,
    if_pos rfl, untouched before _ earlier]
  exact Option.or_none

theorem routeCost_buildFromConfig (distinct : config.DistinctNodes) {cluster : ClusterSpec} {pool : PoolSpec}
    (known : cluster ∈ config.clusters) (owned : pool ∈ cluster.pools) :
    (buildFromConfig config).routeCost cluster.clusterId pool.poolId =
      .ok (roundTo 4 (pool.internalCost * cluster.probeCostFactor)) := by
  obtain ⟨adjacency, built⟩ := buildFromConfig_eq config
  have factor : Dict.lookup (buildFromConfig config).clusterProbeCostFactor cluster.clusterId =
      cluster.gpuTopologyFile.map GpuTopologySnapshot.averageCost := by
    rw [built]
    exact probeCostFactor_connected distinct known
  have path := shortestPathCost_direct (directOnly_buildFromConfig distinct known owned)
  unfold routeCost
  simp only [(reaches_buildFromConfig config known).gateway, path, factor]
  rfl

theorem poolAffinity_unlinked (clusterId poolId : String) (promptTokens : ℤ) :
    (buildFromConfig config.unlinked).poolAffinity clusterId poolId promptTokens =
      (buildFromConfig config).poolAffinity clusterId poolId promptTokens := by
  obtain ⟨_, built⟩ := buildFromConfig_eq config
  obtain ⟨_, builtToo⟩ := buildFromConfig_eq config.unlinked
  rw [built, builtToo, connected_unlinked]
  rfl

end Build

end TopologyService

end NimbusMesh
