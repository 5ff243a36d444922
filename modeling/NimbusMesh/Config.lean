import NimbusMesh.Types

namespace NimbusMesh

open Foundation

structure GpuTopologySnapshot where
  devices : List String
  relations : Dict String (Dict String String)
  adjacencyMatrix : List (List ℚ)
  latencyWeights : List (List ℚ)
  bandwidthTiers : List (List ℚ)

structure PoolSpec where
  poolId : String
  backendName : String := "mock"
  acceleratorType : String
  supportedModels : List String := []
  prefillTps : ℚ
  decodeTps : ℚ
  memoryGb : ℚ
  gpuCount : ℤ
  parallelSlots : ℤ := gpuCount
  costPer1mTokens : ℚ
  energyProxy : ℚ := 1.0
  topologyTier : String := "pcie-fabric"
  premium : Bool := false
  queueLimit : ℤ := 1024

/-- A cluster of an experiment. The topology file is given by the snapshot it parses to. -/
structure ClusterSpec where
  clusterId : String
  zone : String
  ingressCost : ℚ := 1.0
  networkCosts : Dict String ℚ := KeyedList.empty
  baseCongestion : ℚ := 0
  pools : List PoolSpec
  gpuTopologyFile : Option GpuTopologySnapshot := none
  failureWindows : List (ℚ × ℚ) := []
  congestionWindows : List (ℚ × ℚ × ℚ) := []

/-- What the control plane and the engine read of an experiment's configuration. -/
structure ExperimentConfig where
  name : String
  policy : String
  durationS : ℚ := 60.0
  tenantWeights : Dict String ℚ
  clusters : List ClusterSpec
  fairnessStrength : ℚ := 0.25

end NimbusMesh
