import NimbusMesh.Types

namespace NimbusMesh

open Foundation.Decimal

/-- The latency model of a backend adapter: prefill and decode milliseconds of a request on a
    pool, from the cache hit ratio, topology affinity, network cost and congestion score. -/
abbrev Backend := InferenceRequest → PoolRuntime → ℚ → ℚ → ℚ → ℚ → ℚ × ℚ

def mockBackend : Backend :=
  fun request pool cacheHitRatio topologyAffinity networkCost congestionScore =>
    let effectivePrompt := max 1.0 (request.promptTokens * (1.0 - cacheHitRatio * 0.8))
    let prefillMs := effectivePrompt / max pool.prefillTps 1.0 * 1000.0
    let decodeMs := request.generationTokens / max pool.decodeTps 1.0 * 1000.0
    let topologyMultiplier := max 0.72 (1.10 - topologyAffinity * 0.22)
    let congestionMultiplier := 1.0 + congestionScore * 0.35
    let networkPenaltyMs := networkCost * (5.0 + request.promptTokens / 4096.0)
    (roundTo 4 (prefillMs * topologyMultiplier * congestionMultiplier + networkPenaltyMs),
      roundTo 4 (decodeMs * congestionMultiplier))

/-- The vLLM and Triton adapters share one formula and differ in their constants. -/
structure AdapterConstants where
  cacheWeight : ℚ
  prefillFactor : ℚ
  decodeFactor : ℚ
  congestionWeight : ℚ
  minimumMultiplier : ℚ
  baseMultiplier : ℚ
  affinityWeight : ℚ
  networkWeight : ℚ

def adapterBackend (constants : AdapterConstants) : Backend :=
  fun request pool cacheHitRatio topologyAffinity networkCost congestionScore =>
    let prompt := max 1.0 (request.promptTokens * (1.0 - cacheHitRatio * constants.cacheWeight))
    let prefillMs := prompt / max (pool.prefillTps * constants.prefillFactor) 1.0 * 1000.0
    let decodeMs := request.generationTokens / max (pool.decodeTps * constants.decodeFactor) 1.0 * 1000.0
    let multiplier := (1.0 + congestionScore * constants.congestionWeight) *
      max constants.minimumMultiplier (constants.baseMultiplier - topologyAffinity * constants.affinityWeight)
    (roundTo 4 (prefillMs * multiplier + networkCost * constants.networkWeight),
      roundTo 4 (decodeMs * multiplier))

def vllmBackend : Backend := adapterBackend
  { cacheWeight := 0.82, prefillFactor := 1.08, decodeFactor := 1.06, congestionWeight := 0.28,
    minimumMultiplier := 0.74, baseMultiplier := 1.08, affinityWeight := 0.18, networkWeight := 4.0 }

def tritonBackend : Backend := adapterBackend
  { cacheWeight := 0.75, prefillFactor := 1.12, decodeFactor := 1.03, congestionWeight := 0.24,
    minimumMultiplier := 0.70, baseMultiplier := 1.05, affinityWeight := 0.2, networkWeight := 3.5 }

def backends : List (String × Backend) :=
  [("mock", mockBackend), ("vllm", vllmBackend), ("triton", tritonBackend)]

def backendNamed (name : String) : Except PyError Backend :=
  match backends.lookup name with
  | some backend => .ok backend
  | none => .error (.keyError name)

end NimbusMesh
