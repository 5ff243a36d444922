import Mathlib.Data.List.MinMax
import Mathlib.Data.Prod.Lex
import NimbusMesh.Types

namespace NimbusMesh

open Foundation

inductive Policy where
  | roundRobin (cursor : ℤ)
  | leastQueue
  | topologyGreedy
  | cacheAware
  | multiObjective
  | contextualBandit (explorationBonus : ℚ) (counts : Dict (String × String) ℕ)
      (value : Dict (String × String) ℚ)
  | sb3Placeholder
  | spread (poolCounts : Dict (String × String) ℤ)
  | gnnPlaceholder
  | pygPlaceholder

namespace Policy

def name : Policy → String
  | .roundRobin _ => "round_robin"
  | .leastQueue => "least_queue"
  | .topologyGreedy => "topology_greedy"
  | .cacheAware => "cache_aware"
  | .multiObjective => "multi_objective"
  | .contextualBandit _ _ _ => "contextual_bandit"
  | .sb3Placeholder => "sb3_placeholder"
  | .spread _ => "spread"
  | .gnnPlaceholder => "gnn_placeholder"
  | .pygPlaceholder => "pyg_placeholder"

def initial : List Policy :=
  [.roundRobin 0, .leastQueue, .topologyGreedy, .cacheAware, .multiObjective,
    .contextualBandit 18.0 KeyedList.empty KeyedList.empty, .sb3Placeholder,
    .spread KeyedList.empty, .gnnPlaceholder, .pygPlaceholder]

def build (policyName : String) : Except PyError Policy :=
  match initial.find? (fun policy => policy.name = policyName) with
  | some policy => .ok policy
  | none => .error (.valueError ("Unknown policy: " ++ policyName))

def availableCandidates (candidates : List CandidatePlacement) : List CandidatePlacement :=
  let usable := candidates.filter (fun candidate => candidate.available)
  if usable = [] then candidates else usable

def leastQueueKey (item : CandidatePlacement) : ℚ ×ₗ ℚ ×ₗ ℚ :=
  toLex (item.queueDelayMs, toLex (item.networkCost, item.acceleratorCostPer1mTokens))

def topologyGreedyKey (item : CandidatePlacement) : ℚ :=
  item.queueDelayMs + item.networkCost * 14.0 - item.topologyAffinity * 110.0
    + item.congestionScore * 80.0

def cacheAwareKey (item : CandidatePlacement) : ℚ ×ₗ ℚ ×ₗ ℚ ×ₗ ℚ :=
  toLex (-(item.expectedCacheHitRatio * 1000.0), toLex (item.queueDelayMs,
    toLex (item.networkCost, item.acceleratorCostPer1mTokens)))

def multiObjectiveKey (request : InferenceRequest) (item : CandidatePlacement) : ℚ :=
  let priority := slaPriority request.slaClass
  let latencyWeight : ℚ := if priority = 3 then 1.4 else if priority = 2 then 1.1 else 0.75
  let costWeight : ℚ := if priority = 3 then 0.25 else 0.55
  let bestEffortPenalty : ℚ := if request.slaClass = .bestEffort ∧ item.premium then 70.0 else 0.0
  let premiumPenalty : ℚ :=
    if request.slaClass = .realtime ∧ ¬ item.premium then 25.0 else bestEffortPenalty
  item.estimatedTotalLatencyMs * latencyWeight
    + item.networkCost * 18.0
    + item.acceleratorCostPer1mTokens * costWeight
    + item.congestionScore * 90.0
    - item.expectedCacheHitRatio * 450.0
    - item.topologyAffinity * 85.0
    + item.fairnessPenalty * 110.0
    - item.scoreBreakdown.cudaCacheBonus.getD 0.0 * 70.0
    + item.scoreBreakdown.cudaTopologyPenalty.getD 0.0 * 65.0
    + item.scoreBreakdown.cudaLoadPenalty.getD 0.0 * 55.0
    + premiumPenalty

def gnnKey (item : CandidatePlacement) : ℚ :=
  item.estimatedTotalLatencyMs - item.expectedCacheHitRatio * 300.0 - item.topologyAffinity * 75.0

def pygKey (item : CandidatePlacement) : ℚ :=
  item.estimatedTotalLatencyMs - item.topologyAffinity * 120.0 - item.expectedCacheHitRatio * 320.0

-- the order of ℤ as a linear order, which can be evaluated
local instance : PartialOrder ℤ := Int.instLinearOrder.toPartialOrder

def spreadKey (poolCounts : Dict (String × String) ℤ) (item : CandidatePlacement) : ℤ ×ₗ ℚ ×ₗ ℚ :=
  toLex ((Dict.lookup poolCounts (item.clusterId, item.poolId)).getD 0,
    toLex (item.queueDelayMs, item.networkCost))

def banditScore (explorationBonus : ℚ) (counts : Dict (String × String) ℕ)
    (value : Dict (String × String) ℚ) (candidate : CandidatePlacement) : ℚ :=
  let key := (candidate.clusterId, candidate.poolId)
  let meanReward := (Dict.lookup value key).getD 0
  let pulls := (Dict.lookup counts key).getD 0
  let exploration := explorationBonus / (1 + pulls)
  let heuristicHint := candidate.expectedCacheHitRatio * 120.0 + candidate.topologyAffinity * 60.0
    - candidate.queueDelayMs * 0.08 - candidate.acceleratorCostPer1mTokens * 0.08
  meanReward + heuristicHint + exploration

def required (choice : Option CandidatePlacement) : Except PyError CandidatePlacement :=
  match choice with
  | some candidate => .ok candidate
  | none => .error (.valueError "arg is an empty sequence")

def choose (policy : Policy) (request : InferenceRequest) (candidates : List CandidatePlacement) :
    Except PyError (CandidatePlacement × Policy) := do
  let usable := availableCandidates candidates
  match policy with
  | .roundRobin cursor =>
    if usable = [] then .error .zeroDivisionError
    else
      let choice ← required usable[(cursor % usable.length).toNat]?
      return (choice, .roundRobin (cursor + 1))
  | .leastQueue => return (← required (usable.argmin leastQueueKey), policy)
  | .topologyGreedy => return (← required (usable.argmin topologyGreedyKey), policy)
  | .cacheAware => return (← required (usable.argmin cacheAwareKey), policy)
  | .multiObjective => return (← required (usable.argmin (multiObjectiveKey request)), policy)
  | .contextualBandit explorationBonus counts value =>
    return (← required (usable.argmax (banditScore explorationBonus counts value)), policy)
  | .sb3Placeholder =>
    return (← required (usable.argmin CandidatePlacement.estimatedTotalLatencyMs), policy)
  | .spread poolCounts =>
    let choice ← required (usable.argmin (spreadKey poolCounts))
    let key := (choice.clusterId, choice.poolId)
    return (choice, .spread (Dict.set poolCounts key ((Dict.lookup poolCounts key).getD 0 + 1)))
  | .gnnPlaceholder => return (← required (usable.argmin gnnKey), policy)
  | .pygPlaceholder => return (← required (usable.argmin pygKey), policy)

def reward (result : RequestResult) : ℚ :=
  (if result.slaMet then 1.0 else -0.9) * 120.0 + result.cacheHitRatio * 60.0
    - result.totalLatencyMs * 0.08 - result.costUsd * 9.0

def observeResult (policy : Policy) (result : RequestResult) : Policy :=
  let key := (result.decision.clusterId, result.decision.poolId)
  match policy with
  | .contextualBandit explorationBonus counts value =>
    let count := (Dict.lookup counts key).getD 0 + 1
    let alpha : ℚ := 1.0 / count
    let mean := (1 - alpha) * (Dict.lookup value key).getD 0 + alpha * reward result
    .contextualBandit explorationBonus (Dict.set counts key count) (Dict.set value key mean)
  | .spread poolCounts =>
    .spread (Dict.set poolCounts key (max 0 ((Dict.lookup poolCounts key).getD 0 - 1)))
  | other => other

end Policy

end NimbusMesh
