import NimbusMesh.Backends
import NimbusMesh.Cache.Directory

namespace NimbusMesh

open Foundation Foundation.Decimal Foundation.Execution

structure PlacementCall where
  request : InferenceRequest
  candidate : CandidatePlacement
  decision : RoutingDecision
  backend : Backend
  now : ℚ

namespace PlacementCall

def latency (call : PlacementCall) (pool : PoolRuntime) : ℚ × ℚ :=
  call.backend call.request pool call.candidate.expectedCacheHitRatio call.candidate.topologyAffinity
    call.candidate.networkCost call.candidate.congestionScore

def memoryGb (call : PlacementCall) : ℚ :=
  estimateRequestMemoryGb call.request.promptTokens call.request.generationTokens
    call.request.modelId call.candidate.expectedCacheSavedTokens

def startTs (call : PlacementCall) (pool : PoolRuntime) (slotIndex : ℕ) : ℚ :=
  max call.now (pool.slotAvailableAt.getD slotIndex 0)

def completionTs (call : PlacementCall) (pool : PoolRuntime) (slotIndex : ℕ) : ℚ :=
  call.startTs pool slotIndex + ((call.latency pool).1 + (call.latency pool).2) / 1000.0

def booked (call : PlacementCall) (pool : PoolRuntime) (slotIndex : ℕ) : PoolRuntime :=
  let completionTs := call.completionTs pool slotIndex
  { pool with
    slotAvailableAt := pool.slotAvailableAt.set slotIndex completionTs
    inflightMemory := pool.inflightMemory ++ [(completionTs, call.memoryGb)]
    activeMemoryGb := pool.activeMemoryGb + call.memoryGb
    decisionCount := pool.decisionCount + 1 }

def result (call : PlacementCall) (pool : PoolRuntime) (slotIndex : ℕ) : RequestResult :=
  let actualStartTs := call.startTs pool slotIndex
  let queueDelayMs := max 0 (actualStartTs - call.now) * 1000.0
  let prefillMs := (call.latency pool).1
  let decodeMs := (call.latency pool).2
  let totalLatencyMs := queueDelayMs + prefillMs + decodeMs
  let costUsd := pool.costPer1mTokens * (call.request.totalTokens / 1000000.0)
  let energyProxy := pool.energyProxy * (call.request.totalTokens / 1000.0)
  { request := call.request
    decision := call.decision
    admitted := true
    actualStartTs
    completionTs := call.completionTs pool slotIndex
    queueDelayMs := roundTo 4 queueDelayMs
    prefillLatencyMs := roundTo 4 prefillMs
    decodeLatencyMs := roundTo 4 decodeMs
    totalLatencyMs := roundTo 4 totalLatencyMs
    cacheHitRatio := call.candidate.expectedCacheHitRatio
    cacheSavedTokens := call.candidate.expectedCacheSavedTokens
    memoryGb := roundTo 4 call.memoryGb
    costUsd := roundTo 6 costUsd
    energyProxy := roundTo 4 energyProxy
    networkCost := roundTo 4 call.candidate.networkCost
    slaMet := totalLatencyMs ≤ call.request.maxLatencyMs }

end PlacementCall

structure LocalClusterScheduler where
  pool : PoolRuntime
  cacheDirectory : KVCacheDirectory

/-- `place_request`. The pool keeps the booking also when recording the result raises. -/
def placeRequest (call : PlacementCall) : EStateM PyError LocalClusterScheduler RequestResult :=
  fun scheduler =>
    match SlotQueue.earliest scheduler.pool.slotAvailableAt with
    | none => .error (.valueError "min() arg is an empty sequence") scheduler
    | some slotIndex =>
      let result := call.result scheduler.pool slotIndex
      let pool := call.booked scheduler.pool slotIndex
      match KVCacheDirectory.observe result scheduler.cacheDirectory with
      | .error raised cacheDirectory => .error raised { pool, cacheDirectory }
      | .ok _ cacheDirectory => .ok result { pool, cacheDirectory }

end NimbusMesh
