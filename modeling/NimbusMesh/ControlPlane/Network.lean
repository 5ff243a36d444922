import NimbusMesh.ControlPlane.Counterpart
import NimbusMesh.Topology.Routes

namespace NimbusMesh

open Foundation Foundation.Decimal Foundation.Execution

theorem ExperimentConfig.distinctNodes_unlinked (config : ExperimentConfig) :
    config.unlinked.DistinctNodes ↔ config.DistinctNodes := by
  have same : config.unlinked.clusters.flatMap ClusterSpec.nodeIds = config.clusters.flatMap ClusterSpec.nodeIds := by
    rw [ExperimentConfig.unlinked, List.flatMap_map]
    rfl
  unfold ExperimentConfig.DistinctNodes
  rw [same]

namespace ControlPlane

variable {config : ExperimentConfig}

theorem configured_of_poolIn {environment : Environment} {policy : Policy} {clusterId poolId : String}
    (held : ((initial config environment policy).poolIn clusterId poolId).isSome) :
    ∃ cluster ∈ config.clusters, ∃ pool ∈ cluster.pools, clusterId = cluster.clusterId ∧ poolId = pool.poolId := by
  obtain ⟨pool, found⟩ := Option.isSome_iff_exists.mp held
  obtain ⟨cluster, at_cluster, at_pool⟩ := Option.bind_eq_some_iff.mp found
  obtain ⟨inClusters, clusterNamed⟩ := KeyedList.get?_eq_some.mp at_cluster
  obtain ⟨inPools, poolNamed⟩ := KeyedList.get?_eq_some.mp at_pool
  rcases KeyedList.mem_foldl_insert buildCluster _ _ inClusters with empty | ⟨spec, known, rfl⟩
  · cases empty
  · rcases KeyedList.mem_foldl_insert (buildPool spec) _ _ inPools with empty | ⟨poolSpec, owned, rfl⟩
    · cases empty
    · exact ⟨spec, known, poolSpec, owned, clusterNamed.symm, poolNamed.symm⟩

theorem routeCost_unlinked (distinct : config.DistinctNodes) {cluster : ClusterSpec} {pool : PoolSpec}
    (known : cluster ∈ config.clusters) (owned : pool ∈ cluster.pools) :
    (TopologyService.buildFromConfig config.unlinked).routeCost cluster.clusterId pool.poolId =
      (TopologyService.buildFromConfig config).routeCost cluster.clusterId pool.poolId := by
  have knownToo : cluster.unlinked ∈ config.unlinked.clusters := List.mem_map_of_mem known
  have unlinked := TopologyService.routeCost_buildFromConfig (config.distinctNodes_unlinked.mpr distinct) knownToo owned
  exact unlinked.trans (TopologyService.routeCost_buildFromConfig distinct known owned).symm

theorem comparable_unlinked (distinct : config.DistinctNodes) (environment : Environment) (policy : Policy) :
    Comparable id config.unlinked (TopologyService.buildFromConfig config.unlinked)
      (initial config environment policy) := by
  refine ⟨rfl, fun _ => rfl, fun _ => rfl, .inl rfl, ?_, ?_⟩
  · intro clusterId poolId _ promptTokens
    exact TopologyService.poolAffinity_unlinked clusterId poolId promptTokens
  · intro clusterId poolId held
    obtain ⟨cluster, known, pool, owned, rfl, rfl⟩ := configured_of_poolIn held
    exact routeCost_unlinked distinct known owned

theorem buildRuntimeClusters_unlinked (config : ExperimentConfig) :
    (buildRuntimeClusters config).map ClusterRuntime.unlinked (fun _ => rfl) =
      buildRuntimeClusters config.unlinked := by
  have built : ∀ (specs : List ClusterSpec) (clusters : KeyedList ClusterRuntime.clusterId),
      (specs.foldl (fun clusters spec => clusters.insert (buildCluster spec)) clusters).map
          ClusterRuntime.unlinked (fun _ => rfl) =
        (specs.map ClusterSpec.unlinked).foldl (fun clusters spec => clusters.insert (buildCluster spec))
          (clusters.map ClusterRuntime.unlinked (fun _ => rfl)) := by
    intro specs
    induction specs with
    | nil => exact fun _ => rfl
    | cons spec rest ih =>
      intro clusters
      have inserted := KeyedList.map_insert ClusterRuntime.unlinked (fun _ => rfl) clusters (buildCluster spec)
      rw [List.foldl_cons, ih, List.map_cons, List.foldl_cons, ← inserted]
      rfl
  exact built config.clusters KeyedList.empty

theorem counterpart_initial (config : ExperimentConfig) (environment : Environment) (policy : Policy) :
    (initial config environment policy).counterpart config.unlinked
        (TopologyService.buildFromConfig config.unlinked) =
      initial config.unlinked environment policy := by
  unfold counterpart initial
  rw [← buildRuntimeClusters_unlinked]

section Unlinked

variable (distinct : config.DistinctNodes) (environment : Environment) (policy : Policy)

include distinct

theorem run_unlinked (arrivals : List Arrival) :
    outcome (run arrivals (initial config.unlinked environment policy)) =
      outcome (run arrivals (initial config environment policy)) := by
  have served : Mirrors (Comparable id config.unlinked (TopologyService.buildFromConfig config.unlinked)) _ _
      (arrivals.mapM serve) (arrivals.mapM serve) := Mirrors.mapM mirrors_serve arrivals
  have mirrored := served.outcome_eq (List.map_id ·) (comparable_unlinked distinct environment policy)
  rwa [counterpart_initial] at mirrored

theorem after_run_unlinked {α : Type} {x : EStateM PyError ControlPlane α} {f : α → α}
    (mirrors : Mirrors (Comparable id config.unlinked (TopologyService.buildFromConfig config.unlinked))
      (counterpart config.unlinked (TopologyService.buildFromConfig config.unlinked)) f x x)
    (same : ∀ a, f a = a) (arrivals : List Arrival) (now : ℚ) :
    outcome (x ((stateAfter (run arrivals) (initial config.unlinked environment policy)).refresh now)) =
      outcome (x ((stateAfter (run arrivals) (initial config environment policy)).refresh now)) := by
  have comparable := comparable_unlinked distinct environment policy
  have served : Mirrors (Comparable id config.unlinked (TopologyService.buildFromConfig config.unlinked)) _ _
      (arrivals.mapM serve) (arrivals.mapM serve) := Mirrors.mapM mirrors_serve arrivals
  have reached := served.stateAfter_eq comparable
  have kept := (served _ comparable).2
  rw [counterpart_initial] at reached
  unfold run
  rw [reached, refresh_counterpart]
  exact mirrors.outcome_eq same (kept.refresh now)

end Unlinked

theorem routeCost_of_unlinked {first second : ExperimentConfig} (alike : second.unlinked = first.unlinked)
    (distinct : second.DistinctNodes) {cluster : ClusterSpec} {pool : PoolSpec} (known : cluster ∈ first.clusters)
    (owned : pool ∈ cluster.pools) :
    (TopologyService.buildFromConfig second).routeCost cluster.clusterId pool.poolId =
      .ok (roundTo 4 (pool.internalCost * cluster.probeCostFactor)) := by
  have shared : cluster.unlinked ∈ second.unlinked.clusters := by
    rw [alike]
    exact List.mem_map_of_mem known
  obtain ⟨other, knownToo, same⟩ := List.mem_map.mp shared
  have ids : other.unlinked.clusterId = cluster.unlinked.clusterId := congrArg _ same
  have pools : other.unlinked.pools = cluster.unlinked.pools := congrArg _ same
  have factors : other.unlinked.probeCostFactor = cluster.unlinked.probeCostFactor := congrArg _ same
  change other.clusterId = cluster.clusterId at ids
  change other.pools = cluster.pools at pools
  change other.probeCostFactor = cluster.probeCostFactor at factors
  rw [← pools] at owned
  rw [← ids, ← factors]
  exact TopologyService.routeCost_buildFromConfig distinct knownToo owned

/-- Configurations that differ only in the costs between clusters give every pool the same route
    cost, and planes that cannot be told apart by their runs. -/
theorem networkCosts_inert {first second : ExperimentConfig} (alike : second.unlinked = first.unlinked)
    (distinct : first.DistinctNodes) (environment : Environment) :
    (∀ cluster ∈ first.clusters, ∀ pool ∈ cluster.pools,
      let cost := roundTo 4 (max 0.05 (1.2 - TopologyService.tierScore pool.topologyTier) * cluster.probeCostFactor)
      (TopologyService.buildFromConfig first).routeCost cluster.clusterId pool.poolId = .ok cost ∧
        (TopologyService.buildFromConfig second).routeCost cluster.clusterId pool.poolId = .ok cost) ∧
    ((∃ raised, create first environment = .error raised ∧ create second environment = .error raised) ∨
      ∃ plane other, create first environment = .ok plane ∧ create second environment = .ok other ∧
        ∀ arrivals, outcome (run arrivals other) = outcome (run arrivals plane) ∧
          ∀ request now,
            let reached := (stateAfter (run arrivals) plane).refresh now
            let reachedToo := (stateAfter (run arrivals) other).refresh now
            outcome (buildCandidates request now reachedToo) = outcome (buildCandidates request now reached) ∧
              outcome (route request now reachedToo) = outcome (route request now reached)) := by
  have policies : second.unlinked.policy = first.unlinked.policy := congrArg _ alike
  change second.policy = first.policy at policies
  have distinctToo : second.DistinctNodes := by
    rw [← second.distinctNodes_unlinked, alike, first.distinctNodes_unlinked]
    exact distinct
  refine ⟨fun cluster known pool owned => ⟨?_, ?_⟩, ?_⟩
  · exact TopologyService.routeCost_buildFromConfig distinct known owned
  · exact routeCost_of_unlinked alike distinctToo known owned
  · rw [create_eq_initial, create_eq_initial, policies]
    cases Policy.build first.policy with
    | error raised => exact .inl ⟨raised, rfl, rfl⟩
    | ok policy =>
      refine .inr ⟨_, _, rfl, rfl, ?_⟩
      intro arrivals
      have ran := run_unlinked distinct environment policy arrivals
      have ranToo := run_unlinked distinctToo environment policy arrivals
      rw [alike] at ranToo
      refine ⟨ranToo.symm.trans ran, ?_⟩
      intro request now
      have built := after_run_unlinked distinct environment policy (mirrors_buildCandidates request now)
        (List.map_id ·) arrivals now
      have builtToo := after_run_unlinked distinctToo environment policy (mirrors_buildCandidates request now)
        (List.map_id ·) arrivals now
      have routed := after_run_unlinked distinct environment policy (mirrors_route request now)
        (fun _ => rfl) arrivals now
      have routedToo := after_run_unlinked distinctToo environment policy (mirrors_route request now)
        (fun _ => rfl) arrivals now
      rw [alike] at builtToo routedToo
      exact ⟨builtToo.symm.trans built, routedToo.symm.trans routed⟩

def twinCluster (clusterId : String) (networkCosts : Dict String ℚ) : ClusterSpec where
  clusterId
  zone := "zone-a"
  networkCosts
  pools := [{
    poolId := "p1", acceleratorType := "a100", prefillTps := 1000, decodeTps := 512, memoryGb := 80
    gpuCount := 1, costPer1mTokens := 1 }]

def twinConfig (cost : ℚ) : ExperimentConfig :=
  { sessionConfig 1 8 80 with
    clusters := [twinCluster "c1" (Dict.set KeyedList.empty "c2" 0),
      twinCluster "c2" (Dict.set KeyedList.empty "c1" cost)] }

theorem networkCosts_inert_twins :
    let environment := sessionEnvironment (emptyStore false)
    (twinConfig 0).DistinctNodes ∧
      (TopologyService.buildFromConfig (twinConfig 0)).edgeCount = 6 ∧
      ∃ plane other, create (twinConfig 0) environment = .ok plane ∧ create (twinConfig 7) environment = .ok other ∧
        ∀ arrivals, outcome (run arrivals other) = outcome (run arrivals plane) := by
  intro environment
  have distinct : (twinConfig 0).DistinctNodes := by
    unfold ExperimentConfig.DistinctNodes
    decide +kernel
  have alike : (twinConfig 7).unlinked = (twinConfig 0).unlinked := rfl
  refine ⟨distinct, by decide +kernel, ?_⟩
  rcases (networkCosts_inert alike distinct environment).2 with ⟨_, failed, _⟩ | ⟨plane, other, left, right, runs⟩
  · cases failed
  · exact ⟨plane, other, left, right, fun arrivals => (runs arrivals).1⟩

end ControlPlane

end NimbusMesh
