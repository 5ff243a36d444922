import NimbusMesh.Foundation.Decimal
import NimbusMesh.Foundation.KeyedList
import NimbusMesh.Foundation.SlotQueue

namespace NimbusMesh

open Foundation Foundation.Decimal

/-- The exceptions the modelled code can raise. A float outside the rationals, such as an
    infinite route cost, has no value in the model and is reported as `nonFinite`. -/
inductive PyError where
  | valueError (message : String)
  | keyError (key : String)
  | typeError (message : String)
  | attributeError (message : String)
  | zeroDivisionError
  | nonFinite
  | rpcError (message : String)
  | redisError (message : String)
  | indexError (message : String)
  | fileNotFoundError (message : String)
  | stopIteration
  | overflowError (message : String)
  deriving DecidableEq, Repr

inductive SlaClass where
  | realtime
  | interactive
  | bestEffort
  deriving DecidableEq, Repr

def slaPriority : SlaClass → ℤ
  | .realtime => 3
  | .interactive => 2
  | .bestEffort => 1

def topologyTierScore : List (String × ℚ) :=
  [("nvlink-mesh", 1.0), ("nvlink-ring", 0.92), ("pcie-fabric", 0.72), ("ethernet", 0.55),
    ("cpu-fallback", 0.2)]

def modelScaleHints : List (String × ℚ) :=
  [("llama-3-70b", 1.35), ("mixtral-8x7b", 1.2), ("mistral-7b", 0.75), ("llama-3-8b", 0.6),
    ("deepseek-v2-lite", 0.95), ("maia-sim", 0.8)]

def modelScale (modelId : String) : ℚ := (modelScaleHints.lookup modelId).getD 1.0

def estimateRequestMemoryGb (promptTokens generationTokens : ℤ) (modelId : String)
    (cacheSavedTokens : ℤ) : ℚ :=
  let effectiveTokens := max 1 (promptTokens + generationTokens - cacheSavedTokens)
  effectiveTokens / 2048.0 * 1.15 * modelScale modelId

theorem modelScale_pos (modelId : String) : 0 < modelScale modelId := by
  have hints : ∀ hint ∈ modelScaleHints, 0 < hint.2 := by decide +kernel
  unfold modelScale
  cases found : modelScaleHints.lookup modelId with
  | none => norm_num
  | some scale =>
    obtain ⟨before, after, split, _⟩ := List.lookup_eq_some_iff.mp found
    exact hints (modelId, scale) (by simp [split])

theorem estimateRequestMemoryGb_pos (promptTokens generationTokens : ℤ) (modelId : String)
    (cacheSavedTokens : ℤ) :
    0 < estimateRequestMemoryGb promptTokens generationTokens modelId cacheSavedTokens := by
  have scale := modelScale_pos modelId
  have tokens : (0 : ℚ) < (max 1 (promptTokens + generationTokens - cacheSavedTokens) : ℤ) := by
    exact_mod_cast lt_of_lt_of_le one_pos (le_max_left _ _)
  unfold estimateRequestMemoryGb
  positivity

/-- A validated request. An omitted prefix signature has been derived by then. -/
structure InferenceRequest where
  -- a row of a trace that is too short for its identifier has `None` there
  requestId : Option String
  tenantId : String
  modelId : String
  promptTokens : ℤ
  generationTokens : ℤ
  arrivalTs : ℚ
  slaClass : SlaClass := .interactive
  sessionId : Option String := none
  prefixSignature : String
  maxLatencyMs : ℚ := 1800.0
  tokens_positive : 0 < promptTokens ∧ 0 < generationTokens
  arrival_nonneg : 0 ≤ arrivalTs
  latency_positive : 0 < maxLatencyMs
  deriving DecidableEq, Repr

def InferenceRequest.totalTokens (request : InferenceRequest) : ℤ :=
  request.promptTokens + request.generationTokens

structure PoolRuntime where
  clusterId : String
  zone : String
  poolId : String
  backendName : String
  acceleratorType : String
  supportedModels : List String
  prefillTps : ℚ
  decodeTps : ℚ
  memoryGb : ℚ
  gpuCount : ℤ
  parallelSlots : ℤ
  costPer1mTokens : ℚ
  energyProxy : ℚ
  topologyTier : String
  premium : Bool := false
  queueLimit : ℤ := 1024
  congestionScore : ℚ := 0
  slotAvailableAt : List ℚ := List.replicate parallelSlots.toNat 0
  activeMemoryGb : ℚ := 0
  cacheReservedGb : ℚ := 0
  decisionCount : ℕ := 0
  completedCount : ℕ := 0
  inflightMemory : List (ℚ × ℚ) := []
  deriving DecidableEq, Repr

namespace PoolRuntime

def refresh (pool : PoolRuntime) (now : ℚ) : PoolRuntime :=
  let stillInflight := pool.inflightMemory.filter (fun item => now < item.1)
  { pool with
    inflightMemory := stillInflight
    activeMemoryGb := (stillInflight.map Prod.snd).sum }

def inflightCount (pool : PoolRuntime) (now : ℚ) : ℕ := SlotQueue.busy pool.slotAvailableAt now

def queueDelayMs (pool : PoolRuntime) (now : ℚ) : Except PyError ℚ :=
  match pool.slotAvailableAt.min? with
  | none => .error (.valueError "min() arg is an empty sequence")
  | some earliest => .ok (max 0 (earliest - now) * 1000.0)

def memoryHeadroomGb (pool : PoolRuntime) : ℚ :=
  max 0 (pool.memoryGb - pool.activeMemoryGb - pool.cacheReservedGb)

end PoolRuntime

structure ClusterRuntime where
  clusterId : String
  zone : String
  ingressCost : ℚ
  networkCosts : Dict String ℚ
  baseCongestion : ℚ
  failureWindows : List (ℚ × ℚ)
  congestionWindows : List (ℚ × ℚ × ℚ)
  pools : KeyedList PoolRuntime.poolId

namespace ClusterRuntime

def effectiveCongestion (cluster : ClusterRuntime) (now : ℚ) : ℚ :=
  cluster.congestionWindows.foldl (fun congestion window =>
    if window.1 ≤ now ∧ now ≤ window.2.1 then congestion * window.2.2 else congestion)
    cluster.baseCongestion

def unavailable (cluster : ClusterRuntime) (now : ℚ) : Bool :=
  cluster.failureWindows.any (fun window => window.1 ≤ now ∧ now ≤ window.2)

end ClusterRuntime

structure ScoreBreakdown where
  queueDelayMs : ℚ
  cacheHitRatio : ℚ
  topologyAffinity : ℚ
  networkCost : ℚ
  congestionScore : ℚ
  memoryHeadroomGb : ℚ
  fairnessPenalty : ℚ
  cudaCacheBonus : Option ℚ := none
  cudaTopologyPenalty : Option ℚ := none
  cudaLoadPenalty : Option ℚ := none
  deriving DecidableEq, Repr

structure CandidatePlacement where
  clusterId : String
  poolId : String
  backendName : String
  acceleratorType : String
  queueDelayMs : ℚ
  projectedPrefillMs : ℚ
  projectedDecodeMs : ℚ
  expectedCacheHitRatio : ℚ
  expectedCacheSavedTokens : ℤ
  topologyAffinity : ℚ
  networkCost : ℚ
  congestionScore : ℚ
  memoryHeadroomGb : ℚ
  acceleratorCostPer1mTokens : ℚ
  fairnessPenalty : ℚ
  premium : Bool
  available : Bool
  rejectionReason : Option String
  scoreBreakdown : ScoreBreakdown
  deriving DecidableEq, Repr

def CandidatePlacement.estimatedTotalLatencyMs (candidate : CandidatePlacement) : ℚ :=
  candidate.queueDelayMs + candidate.projectedPrefillMs + candidate.projectedDecodeMs

structure RoutingDecision where
  requestId : Option String
  policyName : String
  clusterId : String
  poolId : String
  backendName : String
  estimatedLatencyMs : ℚ
  estimatedQueueDelayMs : ℚ
  estimatedCacheHitRatio : ℚ
  topologyAffinity : ℚ
  networkCost : ℚ
  acceleratorCostPer1mTokens : ℚ
  fairnessPenalty : ℚ
  scoreBreakdown : ScoreBreakdown
  deriving DecidableEq, Repr

structure RequestResult where
  request : InferenceRequest
  decision : RoutingDecision
  admitted : Bool
  actualStartTs : ℚ
  completionTs : ℚ
  queueDelayMs : ℚ
  prefillLatencyMs : ℚ
  decodeLatencyMs : ℚ
  totalLatencyMs : ℚ
  cacheHitRatio : ℚ
  cacheSavedTokens : ℤ
  memoryGb : ℚ
  costUsd : ℚ
  energyProxy : ℚ
  networkCost : ℚ
  slaMet : Bool
  rejectionReason : Option String := none
  deriving DecidableEq, Repr

structure TenantStats where
  submitted : ℕ := 0
  completed : ℕ := 0
  totalLatencyMs : ℚ := 0
  slaMisses : ℕ := 0
  deriving DecidableEq, Repr

end NimbusMesh
