import NimbusMesh.Cache.Persistence
import NimbusMesh.ControlPlane.Agreement
import NimbusMesh.Simulators.Completion

namespace NimbusMesh

open Foundation Foundation.Execution

namespace ControlPlane

theorem execute_without_pools {plane : ControlPlane} (empty : plane.placements = []) (request : InferenceRequest)
    (now : ℚ) :
    ∃ raised final, chooseCandidate request [] plane = .error raised final ∧
      execute request now plane = .error raised final := by
  have built : buildCandidates request now plane = .ok [] plane := by
    simp only [buildCandidates, empty, candidatesFor]
    rfl
  cases chosen : chooseCandidate request [] plane with
  | ok choice final =>
    obtain ⟨member, _⟩ := chooseCandidate_eq_ok chosen
    cases member
  | error raised final =>
    have routed : route request now plane = .error raised final := by
      rw [route, bind_of_ok built, bind_of_error chosen]
    refine ⟨raised, final, rfl, ?_⟩
    rw [execute, bind_of_error routed]

theorem placements_refresh {plane : ControlPlane} (empty : plane.placements = []) (now : ℚ) :
    (plane.refresh now).placements = [] := by
  obtain ⟨_, _, refreshed⟩ := refresh_eq plane now
  rw [placements, List.flatMap_eq_nil_iff] at empty ⊢
  intro cluster member
  rw [refreshed] at member
  obtain ⟨before, inside, rfl⟩ := List.mem_map.mp member
  have none := List.map_eq_nil_iff.mp (empty before inside)
  simp only [refreshedCluster, KeyedList.map, none, List.map_nil]

theorem placements_create {config : ExperimentConfig} {environment : Environment} {plane : ControlPlane}
    (created : create config environment = .ok plane) (poolless : ∀ cluster ∈ config.clusters, cluster.pools = []) :
    plane.placements = [] := by
  apply List.eq_nil_iff_forall_not_mem.mpr
  rintro ⟨cluster, pool⟩ member
  have found := poolIn_of_poolAt (poolAt_of_mem_placements member)
  obtain ⟨spec, known, poolSpec, owned, _⟩ := poolIn_create_spec created found
  rw [poolless spec known] at owned
  cases owned

end ControlPlane

namespace SimulationEngine

variable {keys : List String}

def withControlPlane (engine : SimulationEngine) (controlPlane : ControlPlane) : SimulationEngine :=
  { engine with controlPlane }

def Agree (keys : List String) (first second : SimulationEngine) : Prop :=
  ∃ plane, second = first.withControlPlane plane ∧ ControlPlane.Agree keys first.controlPlane plane

theorem respects_serve {request : InferenceRequest} (member : cacheKey request ∈ keys) :
    Respects (Agree keys) (serve request) := by
  rintro first _ ⟨plane, rfl, agree⟩
  have submitted : ControlPlane.Agree keys
      ((first.controlPlane.refresh request.arrivalTs).noteSubmission request)
      ((plane.refresh request.arrivalTs).noteSubmission request) := by
    obtain ⟨directory, refreshed, related⟩ := agree.refresh request.arrivalTs
    rw [refreshed]
    exact ⟨directory, rfl, related⟩
  have itsPlane : (first.withControlPlane plane).controlPlane = plane := rfl
  simp only [serve, itsPlane]
  rcases (ControlPlane.respects_execute member request.arrivalTs _ _ submitted).cases with
    ⟨raised, served, servedToo, left, right, related⟩ | ⟨result, served, servedToo, left, right, related⟩
  · simp only [left, right]
    exact .error ⟨servedToo, rfl, related⟩
  · have stores : RedisStore.SameOn keys served.cacheDirectory.redisStore servedToo.cacheDirectory.redisStore := by
      obtain ⟨_, rfl, store, rfl, same⟩ := related
      exact same
    simp only [left, right]
    rcases (RedisStore.respects_writeDecision keys request.requestId _ _ stores).cases with
      ⟨raised, _, _, left, right, _⟩ | ⟨_, _, _, left, right, _⟩
    · simp only [left, right]
      exact .error ⟨servedToo, rfl, related⟩
    · simp only [left, right]
      exact .ok ⟨servedToo, rfl, related⟩

theorem create_agree (config : ExperimentConfig) (environment : Environment) (azureAvailable : Bool)
    {first second : RedisStore} (same : RedisStore.SameOn keys first second) :
    (∃ raised, create config { environment with redisStore := first } azureAvailable = .error raised ∧
      create config { environment with redisStore := second } azureAvailable = .error raised) ∨
    ∃ engine other, create config { environment with redisStore := first } azureAvailable = .ok engine ∧
      create config { environment with redisStore := second } azureAvailable = .ok other ∧
      Agree keys engine other := by
  simp only [create, ControlPlane.create]
  cases Policy.build config.policy with
  | error raised => exact .inl ⟨raised, rfl, rfl⟩
  | ok policy => exact .inr ⟨_, _, rfl, rfl, _, rfl, _, rfl, second, rfl, same⟩

theorem Agree.report_eq {first second : SimulationEngine} (agree : Agree keys first second) :
    second.report = first.report := by
  obtain ⟨_, rfl, _, rfl, _⟩ := agree
  rfl

theorem serve_raises {engine : SimulationEngine} {request : InferenceRequest} {raised : PyError} {plane : ControlPlane}
    (executed : ControlPlane.execute request request.arrivalTs (engine.submitted request) = .error raised plane) :
    ∃ final, serve request engine = .error raised final := by
  simp only [submitted] at executed
  simp only [serve, executed]
  exact ⟨_, rfl⟩

theorem serve_without_pools {first second : SimulationEngine} (agree : Agree keys first second)
    (empty : first.controlPlane.placements = []) (request : InferenceRequest) :
    ∃ raised left right, serve request first = .error raised left ∧ serve request second = .error raised right := by
  obtain ⟨plane, rfl, related⟩ := agree
  have submitted : ControlPlane.Agree keys (first.submitted request)
      ((first.withControlPlane plane).submitted request) := by
    obtain ⟨directory, refreshed, stored⟩ := related.refresh request.arrivalTs
    refine ⟨directory, ?_, stored⟩
    change (plane.refresh request.arrivalTs).noteSubmission request = _
    rw [refreshed]
    rfl
  have none : (first.submitted request).placements = [] := ControlPlane.placements_refresh empty request.arrivalTs
  have noneToo : ((first.withControlPlane plane).submitted request).placements = [] := by
    obtain ⟨_, same, _⟩ := submitted
    rw [same]
    exact none
  obtain ⟨raised, left, chosen, executed⟩ := ControlPlane.execute_without_pools none request request.arrivalTs
  obtain ⟨other, right, chosenToo, executedToo⟩ :=
    ControlPlane.execute_without_pools noneToo request request.arrivalTs
  have same : other = raised := by
    have alike := ControlPlane.congruent_agree.chooseCandidate request [] _ _ submitted
    rw [chosen, chosenToo] at alike
    cases alike
    rfl
  subst same
  obtain ⟨failed, served⟩ := serve_raises executed
  obtain ⟨failedToo, servedToo⟩ := serve_raises executedToo
  exact ⟨other, failed, failedToo, served, servedToo⟩

/-- Two contents of the hash that a run over some requests cannot tell apart: there is no pool to score, or
    hydration reads the same under the cache keys of all the requests. -/
def Indistinct (config : ExperimentConfig) (requests : List InferenceRequest) (first second : RedisStore) : Prop :=
  (∀ cluster ∈ config.clusters, cluster.pools = []) ∨
    ∀ request ∈ requests, second.storedEntries (cacheKey request) = first.storedEntries (cacheKey request)

theorem outcome_run (config : ExperimentConfig) (environment : Environment) (azureAvailable : Bool)
    (requests : List InferenceRequest) (first : RedisStore) (documents : Dict String Json)
    (indistinct : Indistinct config requests first (first.withDocuments documents)) :
    outcome (run config environment azureAvailable requests (first.withDocuments documents)) =
      outcome (run config environment azureAvailable requests first) := by
  unfold run
  rcases indistinct with poolless | same
  · have client : RedisStore.SameOn [] first (first.withDocuments documents) :=
      ⟨⟨documents, rfl⟩, fun key member => absurd member List.not_mem_nil⟩
    rcases create_agree config environment azureAvailable client with
      ⟨raised, left, right⟩ | ⟨engine, other, left, right, agree⟩
    · rw [left, right]
      rfl
    · rw [left, right]
      have empty : engine.controlPlane.placements = [] := by
        obtain ⟨plane, created, built⟩ := except_bind_eq_ok.mp left
        cases built
        exact ControlPlane.placements_create created poolless
      cases requests with
      | nil => simp only [mapM_nil_eq_ok.mpr ⟨rfl, rfl⟩, outcome, agree.report_eq]
      | cons request rest =>
        obtain ⟨raised, failed, failedToo, served, servedToo⟩ := serve_without_pools agree empty request
        simp only [List.mapM_cons, bind_of_error served, bind_of_error servedToo, outcome]
  · have stored : RedisStore.SameOn (requests.map cacheKey) first (first.withDocuments documents) := by
      refine ⟨⟨documents, rfl⟩, ?_⟩
      intro key member
      obtain ⟨request, asked, rfl⟩ := List.mem_map.mp member
      exact same request asked
    rcases create_agree config environment azureAvailable stored with
      ⟨raised, left, right⟩ | ⟨engine, other, left, right, agree⟩
    · rw [left, right]
      rfl
    · rw [left, right]
      have served : Respects (Agree (requests.map cacheKey)) (requests.mapM serve) :=
        Respects.mapM (fun request member => respects_serve (List.mem_map_of_mem member))
      rcases (served engine other agree).cases with
        ⟨raised, _, _, left, right, _⟩ | ⟨results, final, finalToo, left, right, related⟩
      · simp only [left, right]
        rfl
      · simp only [left, right, outcome, related.report_eq]

/-- Two runs of an experiment over contents of the hash that its generated requests cannot tell apart have the
    same results and summary, or raise the same error. -/
theorem run_repeatable (experiment : Experiment) (environment : Environment) (source : GeneratorEnvironment)
    (azureAvailable : Bool) (first : RedisStore) (documents : Dict String Json)
    (indistinct : ∀ requests generator,
      WorkloadGenerator.generateRequests source { config := experiment.workload } = .ok requests generator →
        Indistinct experiment.config requests first (first.withDocuments documents)) :
    outcome (simulate experiment environment source azureAvailable (first.withDocuments documents)) =
      outcome (simulate experiment environment source azureAvailable first) := by
  have client : RedisStore.SameOn [] first (first.withDocuments documents) :=
    ⟨⟨documents, rfl⟩, fun key member => absurd member List.not_mem_nil⟩
  unfold simulate
  rcases create_agree experiment.config environment azureAvailable client with
    ⟨raised, left, right⟩ | ⟨engine, other, left, right, agree⟩
  · rw [left, right]
    rfl
  · rw [left, right]
    cases generated : WorkloadGenerator.generateRequests source { config := experiment.workload } with
    | error raised generator => rfl
    | ok requests generator =>
      exact outcome_run experiment.config environment azureAvailable requests first documents
        (indistinct requests generator generated)

def turnsTrace : TraceFile where
  fieldnames := TraceFile.required ++ ["model_id", "session_id"]
  rows := [["0", "r1", "300", "100", "tenant-a", "interactive", "llama-3-8b", "chat-1"],
    ["5", "r2", "500", "100", "tenant-a", "interactive", "llama-3-8b", "chat-1"]]

def turnsExperiment : Experiment where
  config := ControlPlane.sessionConfig 1 8 80
  workload := WorkloadGenerator.replayConfig
  tenantWeights := rfl
  durationS := rfl

def turnsRun : EStateM PyError RedisStore (List RequestResult × Report) :=
  simulate turnsExperiment (ControlPlane.sessionEnvironment (emptyStore true))
    (WorkloadGenerator.traceEnvironment turnsTrace) false

theorem run_repeatable_other_tenant :
    let key := "llama-3-8b:tenant-b:tenant-b:llama-3-8b:chat-1:1:0"
    let documents := ((emptyStore true).persisted key
      [KVCacheDirectory.created key (sessionResult (sessionRequest 500) "c1" "p1" 1)]).cacheAffinity
    (((emptyStore true).withDocuments documents).storedEntries key).map List.length = .ok 1 ∧
      outcome (turnsRun ((emptyStore true).withDocuments documents)) = outcome (turnsRun (emptyStore true)) := by
  intro key documents
  refine ⟨by decide +kernel, ?_⟩
  apply run_repeatable turnsExperiment _ _ false (emptyStore true) documents
  intro requests generator generated
  have keys : (valueOf (WorkloadGenerator.generateRequests (WorkloadGenerator.traceEnvironment turnsTrace)
      { config := turnsExperiment.workload })).map (fun requests => requests.map cacheKey) =
        some (List.replicate 2 "llama-3-8b:tenant-a:tenant-a:llama-3-8b:chat-1:1:0") := by
    decide +kernel
  rw [generated, valueOf, Option.map_some, Option.some.injEq] at keys
  right
  intro request member
  have named : cacheKey request ∈ requests.map cacheKey := List.mem_map_of_mem member
  rw [keys] at named
  rw [List.eq_of_mem_replicate named]
  exact RedisStore.storedEntries_persisted_other _ (by decide) _

/-- The second of two equal runs finds the longer prompt of the first run's second turn in the
    hash, and credits its own second turn with all of it. -/
theorem second_run_differs :
    let left := stateAfter turnsRun (emptyStore true)
    ∃ once again, outcome (turnsRun (emptyStore true)) = .ok once ∧ outcome (turnsRun left) = .ok again ∧
      once.2.summary.cacheSavedTokensTotal = 285 ∧ again.2.summary.cacheSavedTokensTotal = 475 ∧
      once.1 ≠ again.1 ∧ once.2.summary ≠ again.2.summary := by
  intro left
  have first : (valueOf (turnsRun (emptyStore true))).map (fun ran =>
      (ran.1.map RequestResult.cacheSavedTokens, ran.2.summary.cacheSavedTokensTotal)) = some ([0, 285], 285) := by
    decide +kernel
  have second : (valueOf (turnsRun left)).map (fun ran =>
      (ran.1.map RequestResult.cacheSavedTokens, ran.2.summary.cacheSavedTokensTotal)) = some ([0, 475], 475) := by
    decide +kernel
  obtain ⟨once, returned, saved⟩ := Option.map_eq_some_iff.mp first
  obtain ⟨again, returnedToo, savedToo⟩ := Option.map_eq_some_iff.mp second
  obtain ⟨_, ran⟩ := valueOf_eq_some.mp returned
  obtain ⟨_, ranToo⟩ := valueOf_eq_some.mp returnedToo
  obtain ⟨turns, total⟩ := Prod.mk.inj saved
  obtain ⟨turnsToo, totalToo⟩ := Prod.mk.inj savedToo
  refine ⟨once, again, by rw [ran]; rfl, by rw [ranToo]; rfl, total, totalToo, ?_, ?_⟩
  · intro same
    rw [same, turnsToo] at turns
    exact absurd turns (by decide)
  · intro same
    rw [same, totalToo] at total
    exact absurd total (by decide)

end SimulationEngine

end NimbusMesh
