import Mathlib.Data.List.Sort
import NimbusMesh.Types

namespace NimbusMesh

open Foundation Foundation.Decimal

def quantile (values : List ℚ) (q : ℚ) : ℚ :=
  if values = [] then 0
  else
    let ordered := values.insertionSort (· ≤ ·)
    let index : ℚ := (ordered.length - 1) * q
    let lower := index.floor
    let upper := index.ceil
    if lower = upper then ordered.getD lower.toNat 0
    else
      ordered.getD lower.toNat 0
        + (ordered.getD upper.toNat 0 - ordered.getD lower.toNat 0) * (index - lower)

def jainsIndex (values : List ℚ) : ℚ :=
  if values = [] then 1
  else
    let numerator := values.sum ^ 2
    let denominator := values.length * (values.map (fun v => v * v)).sum
    if denominator = 0 then 1 else numerator / denominator

structure Summary where
  configName : String
  policyName : String
  requestsTotal : ℕ
  requestsAdmitted : ℕ
  p50LatencyMs : ℚ
  p95LatencyMs : ℚ
  p99LatencyMs : ℚ
  p50PrefillMs : ℚ
  p95PrefillMs : ℚ
  p50DecodeMs : ℚ
  throughputTokensPerS : ℚ
  throughputRequestsPerS : ℚ
  cacheHitRatio : ℚ
  cacheSavedTokensTotal : ℤ
  slaMissRate : ℚ
  costPer1mTokensUsd : ℚ
  energyProxyTotal : ℚ
  networkCostTotal : ℚ
  gpuUtilizationProxy : ℚ
  memoryUtilizationProxy : ℚ
  meanAbsoluteLatencyErrorMs : ℚ
  fairnessIndex : ℚ
  deriving DecidableEq, Repr

structure MetricsCollector where
  results : List RequestResult := []
  tenantCompleted : Dict String ℕ := KeyedList.empty
  tenantSubmitted : Dict String ℕ := KeyedList.empty

namespace MetricsCollector

def noteSubmission (metrics : MetricsCollector) (tenantId : String) : MetricsCollector :=
  { metrics with
    tenantSubmitted := Dict.set metrics.tenantSubmitted tenantId
      ((Dict.lookup metrics.tenantSubmitted tenantId).getD 0 + 1) }

def record (metrics : MetricsCollector) (result : RequestResult) : MetricsCollector :=
  let tenantId := result.request.tenantId
  { metrics with
    results := metrics.results ++ [result]
    tenantCompleted := Dict.set metrics.tenantCompleted tenantId
      ((Dict.lookup metrics.tenantCompleted tenantId).getD 0 + if result.admitted then 1 else 0) }

def summary (metrics : MetricsCollector) (durationS : ℚ) (policyName configName : String)
    (totalSlots : ℤ) (totalMemoryGb : ℚ) : Summary :=
  let admitted := metrics.results.filter RequestResult.admitted
  let count := admitted.length
  let latencies := admitted.map RequestResult.totalLatencyMs
  let prefill := admitted.map RequestResult.prefillLatencyMs
  let decode := admitted.map RequestResult.decodeLatencyMs
  let totalTokens := (admitted.map (fun item => item.request.totalTokens)).sum
  let totalCost := (admitted.map RequestResult.costUsd).sum
  let totalBusyS := (admitted.map (fun item =>
    (item.prefillLatencyMs + item.decodeLatencyMs) / 1000.0)).sum
  let meanMemoryGb := (admitted.map RequestResult.memoryGb).sum / max 1 count
  let estimationError := admitted.map (fun item => |item.decision.estimatedLatencyMs - item.totalLatencyMs|)
  let cacheHitRatio := (admitted.map RequestResult.cacheHitRatio).sum / max 1 count
  let slaMissRate : ℚ := 1.0 - (admitted.countP RequestResult.slaMet : ℚ) / max 1 count
  let fairnessValues : List ℚ := metrics.tenantSubmitted.toList.map (fun tenant =>
    ((Dict.lookup metrics.tenantCompleted tenant.1).getD 0 : ℚ) / max 1 tenant.2)
  { configName
    policyName
    requestsTotal := metrics.results.length
    requestsAdmitted := count
    p50LatencyMs := roundTo 2 (quantile latencies 0.5)
    p95LatencyMs := roundTo 2 (quantile latencies 0.95)
    p99LatencyMs := roundTo 2 (quantile latencies 0.99)
    p50PrefillMs := roundTo 2 (quantile prefill 0.5)
    p95PrefillMs := roundTo 2 (quantile prefill 0.95)
    p50DecodeMs := roundTo 2 (quantile decode 0.5)
    throughputTokensPerS := roundTo 2 (totalTokens / max durationS 1e-9)
    throughputRequestsPerS := roundTo 2 (count / max durationS 1e-9)
    cacheHitRatio := roundTo 4 cacheHitRatio
    cacheSavedTokensTotal := (admitted.map RequestResult.cacheSavedTokens).sum
    slaMissRate := roundTo 4 slaMissRate
    costPer1mTokensUsd := roundTo 4 (totalCost / max totalTokens 1 * 1000000)
    energyProxyTotal := roundTo 4 (admitted.map RequestResult.energyProxy).sum
    networkCostTotal := roundTo 4 (admitted.map RequestResult.networkCost).sum
    gpuUtilizationProxy := roundTo 4 (min 1.0 (totalBusyS / max (durationS * max 1 totalSlots) 1e-9))
    memoryUtilizationProxy := roundTo 4 (min 1.0 (meanMemoryGb / max totalMemoryGb 1e-9))
    meanAbsoluteLatencyErrorMs := roundTo 4 (estimationError.sum / max 1 estimationError.length)
    fairnessIndex := roundTo 4 (jainsIndex fairnessValues) }

end MetricsCollector

end NimbusMesh
