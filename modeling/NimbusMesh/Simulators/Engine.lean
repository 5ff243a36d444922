import NimbusMesh.ControlPlane.Service
import NimbusMesh.Metrics

namespace NimbusMesh

open Foundation Foundation.Execution

/-- The counters of the cloud simulation. They stay at zero when its configuration is absent. -/
structure AzureInfraSimulator where
  available : Bool
  submitted : ℕ := 0
  completed : ℕ := 0
  clusterCosts : Dict String ℚ := KeyedList.empty

namespace AzureInfraSimulator

def noteSubmission (azure : AzureInfraSimulator) : AzureInfraSimulator :=
  if azure.available then { azure with submitted := azure.submitted + 1 } else azure

def recordResult (azure : AzureInfraSimulator) (result : RequestResult) : AzureInfraSimulator :=
  if azure.available then
    let clusterId := result.decision.clusterId
    { azure with
      completed := azure.completed + if result.admitted then 1 else 0
      clusterCosts := Dict.set azure.clusterCosts clusterId
        ((Dict.lookup azure.clusterCosts clusterId).getD 0 + result.costUsd) }
  else azure

end AzureInfraSimulator

structure Report where
  summary : Summary
  azureSummary : AzureInfraSimulator

structure SimulationEngine where
  config : ExperimentConfig
  controlPlane : ControlPlane
  metrics : MetricsCollector := {}
  azure : AzureInfraSimulator

namespace SimulationEngine

def create (config : ExperimentConfig) (environment : Environment) (azureAvailable : Bool) :
    Except PyError SimulationEngine := do
  let controlPlane ← ControlPlane.create config environment
  return { config, controlPlane, azure := { available := azureAvailable } }

def serve (request : InferenceRequest) : EStateM PyError SimulationEngine RequestResult :=
  fun engine =>
    let plane := (engine.controlPlane.refresh request.arrivalTs).noteSubmission request
    let metrics := engine.metrics.noteSubmission request.tenantId
    let azure := engine.azure.noteSubmission
    match ControlPlane.execute request request.arrivalTs plane with
    | .error raised controlPlane => .error raised { engine with controlPlane, metrics, azure }
    | .ok result controlPlane =>
      let recorded := { engine with
        controlPlane, metrics := metrics.record result, azure := azure.recordResult result }
      match controlPlane.cacheDirectory.redisStore.writeDecision request.requestId with
      | .error raised _ => .error raised recorded
      | .ok _ _ => .ok result recorded

def pools (engine : SimulationEngine) : List PoolRuntime :=
  engine.controlPlane.placements.map Prod.snd

def report (engine : SimulationEngine) : Report where
  summary := engine.metrics.summary engine.config.durationS engine.controlPlane.policy.name
    engine.config.name (engine.pools.map PoolRuntime.parallelSlots).sum
    (engine.pools.map PoolRuntime.memoryGb).sum
  azureSummary := engine.azure

/-- A whole run over the requests its workload generator yields. The store outlives the run. -/
def run (config : ExperimentConfig) (environment : Environment) (azureAvailable : Bool)
    (requests : List InferenceRequest) : EStateM PyError RedisStore (List RequestResult × Report) :=
  fun redisStore =>
    match create config { environment with redisStore } azureAvailable with
    | .error raised => .error raised redisStore
    | .ok engine =>
      match (requests.mapM serve) engine with
      | .error raised final => .error raised final.controlPlane.cacheDirectory.redisStore
      | .ok results final => .ok (results, final.report) final.controlPlane.cacheDirectory.redisStore

end SimulationEngine

end NimbusMesh
