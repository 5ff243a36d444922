import NimbusMesh.Types

namespace NimbusMesh

open Foundation.Decimal

structure CoreCandidate where
  estimatedLatency : ℚ
  queueDelay : ℚ
  cacheHit : ℚ
  topologyAffinity : ℚ
  networkCost : ℚ
  accelCost : ℚ
  fairnessPenalty : ℚ
  available : ℤ

def CoreCandidate.score (slaPriority : ℤ) (item : CoreCandidate) : ℚ :=
  let latencyWeight : ℚ := if slaPriority = 3 then 1.5 else if slaPriority = 2 then 1.1 else 0.8
  let costWeight : ℚ := if slaPriority = 3 then 0.2 else 0.6
  item.estimatedLatency * latencyWeight + item.queueDelay * 0.1 + item.networkCost * 18.0
    + item.accelCost * costWeight + item.fairnessPenalty * 120.0 - item.cacheHit * 450.0
    - item.topologyAffinity * 90.0

/-- A running best: its index, and its score or `none` for the infinite start value. -/
structure Best where
  index : ℤ
  score : Option ℚ

def Best.offer (best : Best) (index : ℤ) (score : ℚ) : Best :=
  match best.score with
  | none => ⟨index, some score⟩
  | some leading => if score < leading then ⟨index, some score⟩ else best

/-- A loop over items from an index on that offers the score of each item it does not skip. -/
def bestFrom {α : Type} (skip : α → Bool) (score : α → ℚ) : List α → ℤ → Best → Best
  | [], _, best => best
  | item :: rest, index, best =>
    bestFrom skip score rest (index + 1) (if skip item then best else best.offer index (score item))

def chooseCandidate (items : List CoreCandidate) (slaPriority : ℤ) : ℤ :=
  match items with
  | [] => -1
  | first :: rest =>
    let best := bestFrom (fun item => item.available = 0) (CoreCandidate.score slaPriority)
      (first :: rest) 0 ⟨-1, none⟩
    if 0 ≤ best.index then best.index
    else (bestFrom (fun _ => false) CoreCandidate.estimatedLatency rest 1
      ⟨0, some first.estimatedLatency⟩).index

structure CppSchedulerCore where
  available : Bool

def CoreCandidate.ofPlacement (item : CandidatePlacement) : CoreCandidate where
  estimatedLatency := item.estimatedTotalLatencyMs
  queueDelay := item.queueDelayMs
  cacheHit := item.expectedCacheHitRatio
  topologyAffinity := item.topologyAffinity
  networkCost := item.networkCost
  accelCost := item.acceleratorCostPer1mTokens
  fairnessPenalty := item.fairnessPenalty
  available := if item.available then 1 else 0

def validIndex (chosen : ℤ) (count : ℕ) : Option ℕ :=
  if chosen < 0 ∨ (count : ℤ) ≤ chosen then none else some chosen.toNat

def CppSchedulerCore.choose (core : CppSchedulerCore) (request : InferenceRequest)
    (candidates : List CandidatePlacement) : Option ℕ :=
  if ¬ core.available ∨ candidates = [] then none
  else
    validIndex (chooseCandidate (candidates.map CoreCandidate.ofPlacement) (slaPriority request.slaClass))
      candidates.length

structure GrpcCandidate where
  clusterId : String
  poolId : String
  estimatedLatencyMs : ℚ
  queueDelayMs : ℚ
  cacheHitRatio : ℚ
  topologyAffinity : ℚ
  networkCost : ℚ
  acceleratorCostPer1mTokens : ℚ
  fairnessPenalty : ℚ
  available : Bool

structure PlacementRequest where
  requestId : String
  tenantId : String
  modelId : String
  slaClass : SlaClass
  policyName : String
  candidates : List GrpcCandidate

structure PlacementResponse where
  chosenIndex : ℤ
  reason : String

def GrpcCandidate.score (sla : SlaClass) (candidate : GrpcCandidate) : ℚ :=
  let latencyWeight : ℚ := if sla = .realtime then 1.5 else if sla = .interactive then 1.1 else 0.8
  let costWeight : ℚ := if sla = .realtime then 0.2 else 0.6
  candidate.estimatedLatencyMs * latencyWeight + candidate.queueDelayMs * 0.1
    + candidate.networkCost * 18.0 + candidate.acceleratorCostPer1mTokens * costWeight
    + candidate.fairnessPenalty * 110.0 - candidate.cacheHitRatio * 450.0
    - candidate.topologyAffinity * 85.0

def choosePlacement (request : PlacementRequest) : PlacementResponse :=
  if request.candidates.isEmpty then ⟨-1, "no-candidates"⟩
  else
    ⟨(bestFrom (fun candidate => !candidate.available) (GrpcCandidate.score request.slaClass)
      request.candidates 0 ⟨0, none⟩).index, "grpc-score"⟩

/-- The client and the remote service behind its stub, which may raise. -/
structure GrpcSchedulerClient where
  available : Bool
  stub : PlacementRequest → Except PyError PlacementResponse

def GrpcCandidate.ofPlacement (candidate : CandidatePlacement) : GrpcCandidate where
  clusterId := candidate.clusterId
  poolId := candidate.poolId
  estimatedLatencyMs := candidate.estimatedTotalLatencyMs
  queueDelayMs := candidate.queueDelayMs
  cacheHitRatio := candidate.expectedCacheHitRatio
  topologyAffinity := candidate.topologyAffinity
  networkCost := candidate.networkCost
  acceleratorCostPer1mTokens := candidate.acceleratorCostPer1mTokens
  fairnessPenalty := candidate.fairnessPenalty
  available := candidate.available

def placementRequest (request : InferenceRequest) (candidates : List CandidatePlacement) :
    PlacementRequest where
  -- a field of a message that is given `None` stays empty
  requestId := request.requestId.getD ""
  tenantId := request.tenantId
  modelId := request.modelId
  slaClass := request.slaClass
  policyName := "grpc"
  candidates := candidates.map GrpcCandidate.ofPlacement

def GrpcSchedulerClient.choose (client : GrpcSchedulerClient) (request : InferenceRequest)
    (candidates : List CandidatePlacement) : Except PyError (Option ℕ) := do
  if client.available then
    let response ← client.stub (placementRequest request candidates)
    return validIndex response.chosenIndex candidates.length
  else return none

/-- The scoring engine. On a GPU it leaves the three scores unrounded. -/
structure CudaScoringEngine where
  available : Bool

namespace CudaScoringEngine

def cacheScore (candidate : CandidatePlacement) : ℚ :=
  candidate.expectedCacheHitRatio * (1.0 + candidate.expectedCacheSavedTokens / 8192.0)

def topologyCost (candidate : CandidatePlacement) : ℚ :=
  max 0 (candidate.networkCost - candidate.topologyAffinity)

def loadBalance (candidate : CandidatePlacement) : ℚ :=
  candidate.queueDelayMs / 1000.0 + candidate.congestionScore
    + max 0 (1.0 - candidate.memoryHeadroomGb / 64.0)

def enrich (engine : CudaScoringEngine) (candidate : CandidatePlacement) : CandidatePlacement :=
  let scored (value : ℚ) : ℚ := if engine.available then value else roundTo 4 value
  { candidate with
    scoreBreakdown := { candidate.scoreBreakdown with
      cudaCacheBonus := some (scored (cacheScore candidate))
      cudaTopologyPenalty := some (scored (topologyCost candidate))
      cudaLoadPenalty := some (scored (loadBalance candidate)) } }

def enrichCandidates (engine : CudaScoringEngine) (candidates : List CandidatePlacement) :
    List CandidatePlacement := candidates.map engine.enrich

end CudaScoringEngine

end NimbusMesh
