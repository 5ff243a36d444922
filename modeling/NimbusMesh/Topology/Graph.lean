import Mathlib.Data.Prod.Lex
import Mathlib.Data.String.Basic
import NimbusMesh.Config

namespace NimbusMesh

open Foundation Foundation.Decimal

namespace GpuTopologySnapshot

def positiveValues (matrix : List (List ℚ)) : List ℚ :=
  matrix.flatMap (fun row => row.filter (fun value => 0 < value))

/-- The largest bandwidth tier is `NVSW`, at 2.5. -/
def overallAffinity (snapshot : GpuTopologySnapshot) : ℚ :=
  let values := positiveValues snapshot.bandwidthTiers
  if values = [] then 0 else roundTo 4 (values.sum / values.length / 2.5)

def averageCost (snapshot : GpuTopologySnapshot) : ℚ :=
  let values := positiveValues snapshot.adjacencyMatrix
  if values = [] then 1.0 else roundTo 4 (values.sum / values.length)

end GpuTopologySnapshot

structure TopologyNode where
  nodeId : String
  kind : String
  clusterId : String
  zone : String
  acceleratorType : Option String := none
  topologyTier : Option String := none
  gpuCount : Option ℤ := none

structure TopologyLink where
  source : String
  target : String
  bandwidthGbps : ℚ
  latencyUs : ℚ
  cost : ℚ

structure TopologyService where
  nodes : Dict String TopologyNode := KeyedList.empty
  adjacency : Dict String (List TopologyLink) := KeyedList.empty
  clusterGateways : Dict String String := KeyedList.empty
  clusterProbeAffinity : Dict String ℚ := KeyedList.empty
  clusterProbeCostFactor : Dict String ℚ := KeyedList.empty

namespace TopologyService

def tierScore (tier : String) : ℚ := (topologyTierScore.lookup tier).getD 0.6

def poolNodeId (clusterId poolId : String) : String := "pool:" ++ clusterId ++ ":" ++ poolId

def gatewayNodeId (clusterId : String) : String := "gateway:" ++ clusterId

def links (topology : TopologyService) (nodeId : String) : List TopologyLink :=
  (Dict.lookup topology.adjacency nodeId).getD []

def addEdge (topology : TopologyService) (source target : String)
    (bandwidthGbps latencyUs cost : ℚ) : TopologyService :=
  { topology with
    adjacency := Dict.set topology.adjacency source
      (topology.links source ++ [{ source, target, bandwidthGbps, latencyUs, cost }]) }

def addPool (cluster : ClusterSpec) (topology : TopologyService) (pool : PoolSpec) : TopologyService :=
  let gatewayId := gatewayNodeId cluster.clusterId
  let nodeId := poolNodeId cluster.clusterId pool.poolId
  let score := tierScore pool.topologyTier
  let internalCost := max 0.05 (1.2 - score)
  let bandwidth := 800.0 * score
  let latency := 8.0 + (1.0 - score) * 35.0
  let noted := { topology with
    nodes := Dict.set topology.nodes nodeId
      { nodeId, kind := "pool", clusterId := cluster.clusterId, zone := cluster.zone
        acceleratorType := some pool.acceleratorType, topologyTier := some pool.topologyTier
        gpuCount := some pool.gpuCount } }
  (noted.addEdge gatewayId nodeId bandwidth latency internalCost).addEdge
    nodeId gatewayId bandwidth latency internalCost

def addCluster (topology : TopologyService) (cluster : ClusterSpec) : TopologyService :=
  let gatewayId := gatewayNodeId cluster.clusterId
  let gated := { topology with
    clusterGateways := Dict.set topology.clusterGateways cluster.clusterId gatewayId
    nodes := Dict.set topology.nodes gatewayId
      { nodeId := gatewayId, kind := "gateway", clusterId := cluster.clusterId, zone := cluster.zone } }
  let pooled := cluster.pools.foldl (addPool cluster) gated
  match cluster.gpuTopologyFile with
  | none => pooled
  | some parsed =>
    { pooled with
      clusterProbeAffinity :=
        Dict.set pooled.clusterProbeAffinity cluster.clusterId parsed.overallAffinity
      clusterProbeCostFactor :=
        Dict.set pooled.clusterProbeCostFactor cluster.clusterId parsed.averageCost }

def addNetworkCost (cluster : ClusterSpec) (topology : TopologyService) (link : String × ℚ) :
    TopologyService :=
  if link.1 = "ingress" then topology
  else
    match Dict.lookup topology.clusterGateways link.1 with
    | none => topology
    | some target =>
      topology.addEdge (gatewayNodeId cluster.clusterId) target (400.0 / max link.2 0.5)
        (25.0 * link.2) link.2

def buildFromConfig (config : ExperimentConfig) : TopologyService :=
  let connected := config.clusters.foldl addCluster {}
  config.clusters.foldl (fun topology cluster =>
    cluster.networkCosts.toList.foldl (addNetworkCost cluster) topology) connected

structure Search where
  frontier : List (ℚ × String)
  visited : List String
  distances : Dict String ℚ

def relax (cost : ℚ) (search : Search) (edge : TopologyLink) : Search :=
  let newCost := cost + edge.cost
  let improves := match Dict.lookup search.distances edge.target with
    | none => true
    | some known => decide (newCost < known)
  if improves then
    { search with
      distances := Dict.set search.distances edge.target newCost
      frontier := search.frontier ++ [(newCost, edge.target)] }
  else search

def popLeast (frontier : List (ℚ × String)) : Option ((ℚ × String) × List (ℚ × String)) :=
  (frontier.argmin (fun item => (toLex item : ℚ ×ₗ String))).map (fun least =>
    (least, frontier.erase least))

/-- The main loop. Each edge is pushed at most once, so the number of edges bounds the pops. -/
def searchLoop (topology : TopologyService) (target : String) : ℕ → Search → Option ℚ
  | 0, _ => none
  | fuel + 1, search =>
    match popLeast search.frontier with
    | none => none
    | some ((cost, nodeId), rest) =>
      if nodeId ∈ search.visited then topology.searchLoop target fuel { search with frontier := rest }
      else if nodeId = target then some cost
      else
        topology.searchLoop target fuel ((topology.links nodeId).foldl (relax cost)
          { search with frontier := rest, visited := nodeId :: search.visited })

def edgeCount (topology : TopologyService) : ℕ :=
  ((Dict.values topology.adjacency).map List.length).sum

/-- The cost of a cheapest path, or `none` for an infinite cost. -/
def shortestPathCost (topology : TopologyService) (source target : String) : Option ℚ :=
  topology.searchLoop target (topology.edgeCount + 2)
    { frontier := [(0, source)], visited := [], distances := Dict.set KeyedList.empty source 0 }

def poolAffinity (topology : TopologyService) (clusterId poolId : String) (promptTokens : ℤ) :
    Except PyError ℚ :=
  match Dict.lookup topology.nodes (poolNodeId clusterId poolId) with
  | none => .error (.keyError (poolNodeId clusterId poolId))
  | some node =>
    match node.topologyTier with
    | none => .error (.keyError "topology_tier")
    | some tier =>
      let score := tierScore tier
      let longContextFactor : ℚ := min 1.0 (promptTokens / 8192.0)
      let probeAffinity := (Dict.lookup topology.clusterProbeAffinity clusterId).getD score
      let blended := score * 0.8 + probeAffinity * 0.2
      .ok (roundTo 4 (blended * (0.65 + 0.35 * longContextFactor)))

def routeCost (topology : TopologyService) (clusterId poolId : String) : Except PyError ℚ :=
  match Dict.lookup topology.clusterGateways clusterId with
  | none => .error (.keyError clusterId)
  | some gatewayId =>
    match topology.shortestPathCost gatewayId (poolNodeId clusterId poolId) with
    | none => .error .nonFinite
    | some baseCost =>
      .ok (roundTo 4 (baseCost * (Dict.lookup topology.clusterProbeCostFactor clusterId).getD 1.0))

end TopologyService

end NimbusMesh
