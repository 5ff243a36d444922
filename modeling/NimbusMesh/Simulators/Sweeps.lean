import NimbusMesh.ControlPlane.Api
import NimbusMesh.ControlPlane.Attribution
import NimbusMesh.Foundation.Tasks
import NimbusMesh.Simulators.Ranges

namespace NimbusMesh

open Foundation Foundation.Execution Foundation.Tasks

theorem Policy.observeResult_name (policy : Policy) (result : RequestResult) :
    (policy.observeResult result).name = policy.name := by
  cases policy <;> rfl

theorem Policy.build_name {name : String} {policy : Policy} (built : Policy.build name = .ok policy) :
    policy.name = name := by
  unfold Policy.build at built
  split at built
  · rename_i found registered
    cases built
    simpa using List.find?_some registered
  · cases built

theorem ControlPlane.execute_policyName {plane final : ControlPlane} {request : InferenceRequest} {now : ℚ}
    {result : RequestResult} (returned : ControlPlane.execute request now plane = .ok result final) :
    final.policy.name = plane.policy.name := by
  obtain ⟨_, _, _, _, _, policy, _, choosing, _, outcome⟩ := ControlPlane.execute_eq_ok returned
  have name : policy.name = plane.policy.name := (ControlPlane.chooseCandidate_chain choosing).1
  rcases outcome with ⟨_, _, rfl⟩ | ⟨_, _, _, _, _, _, _, _, _, rfl⟩
  · exact name
  · exact (Policy.observeResult_name policy result).trans name

namespace SimulationEngine

theorem serve_policyName {engine final : SimulationEngine} {request : InferenceRequest} {result : RequestResult}
    (returned : serve request engine = .ok result final) :
    final.controlPlane.policy.name = engine.controlPlane.policy.name := by
  obtain ⟨_, _, refreshed⟩ := ControlPlane.refresh_eq engine.controlPlane request.arrivalTs
  have kept : (engine.submitted request).policy.name = engine.controlPlane.policy.name := by
    unfold submitted
    rw [refreshed]
    rfl
  exact (ControlPlane.execute_policyName (serve_eq_ok returned).1).trans kept

theorem run_policyName {config : ExperimentConfig} {environment : Environment} {azureAvailable : Bool}
    {requests : List InferenceRequest} {store store' : RedisStore} {results : List RequestResult} {report : Report}
    (returned : run config environment azureAvailable requests store = .ok (results, report) store') :
    report.summary.policyName = config.policy := by
  obtain ⟨engine, final, created, ran, rfl⟩ := run_eq_ok returned
  obtain ⟨plane, planeCreated, built⟩ := except_bind_eq_ok.mp created
  obtain ⟨policy, named, initial⟩ := except_bind_eq_ok.mp planeCreated
  cases initial
  cases built
  exact mapM_invariant (fun state : SimulationEngine => state.controlPlane.policy.name = config.policy)
    (fun _ _ _ _ before served => (serve_policyName served).trans before) (Policy.build_name named) ran

theorem simulate_policyName {experiment : Experiment} {environment : Environment} {source : GeneratorEnvironment}
    {azureAvailable : Bool} {store store' : RedisStore} {results : List RequestResult} {report : Report}
    (returned : simulate experiment environment source azureAvailable store = .ok (results, report) store') :
    report.summary.policyName = experiment.config.policy := by
  unfold simulate at returned
  split at returned
  · cases returned
  · split at returned
    · cases returned
    · exact run_policyName returned

end SimulationEngine

/-- What the simulations of a sweep share. A seed is given by the draws that come from it. -/
structure Sweep where
  experiment : Experiment
  environment : Environment
  seeded : ℤ → GeneratorEnvironment
  azureAvailable : Bool

structure SweepReport where
  report : Report
  seed : ℤ

namespace Sweep

/-- The body of the loops of `BenchmarkHarness.run`. -/
def simulated (sweep : Sweep) (task : String × ℤ) : EStateM PyError RedisStore SweepReport := do
  let (_, report) ← SimulationEngine.simulate (sweep.experiment.withPolicy task.1) sweep.environment
    (sweep.seeded task.2) sweep.azureAvailable
  return { report, seed := task.2 }

/-- `_run_single` enters the name it was given over the name of the policy. -/
def runSingle (sweep : Sweep) (task : String × ℤ) : EStateM PyError RedisStore SweepReport := do
  let (_, report) ← SimulationEngine.simulate (sweep.experiment.withPolicy task.1) sweep.environment
    (sweep.seeded task.2) sweep.azureAvailable
  return { report := { report with summary := { report.summary with policyName := task.1 } }, seed := task.2 }

def seedwise (policies : List String) (seeds : List ℤ) : List (String × ℤ) :=
  seeds.flatMap (fun seed => policies.map (fun policy => (policy, seed)))

def policywise (policies : List String) (seeds : List ℤ) : List (String × ℤ) :=
  policies.flatMap (fun policy => seeds.map (fun seed => (policy, seed)))

def run (sweep : Sweep) (policies : List String) (seeds : List ℤ) : EStateM PyError RedisStore (List SweepReport) :=
  (seedwise policies seeds).mapM sweep.simulated

def sortKey (item : SweepReport) : String ×ₗ ℤ := toLex (item.report.summary.policyName, item.seed)

def sorted (reports : List SweepReport) : List SweepReport :=
  reports.insertionSort (fun first second => sortKey first ≤ sortKey second)

/-- `run_ray_sweep`. With Ray the workers take the tasks in the order of a schedule, and the sweep waits for all of
    them; without it there is no schedule. -/
def runRaySweep (sweep : Sweep) (schedule : Option (List ℕ)) (policies : List String) (seeds : List ℤ)
    (store : RedisStore) : Option (EStateM.Result PyError RedisStore (List SweepReport)) :=
  let tasks := policywise policies seeds
  match schedule with
  | none => some ((tasks.mapM sweep.runSingle) store)
  | some positions =>
    let worked := work sweep.runSingle tasks positions store
    (fetch worked.1 tasks.length).map (fun answer => endingIn worked.2 (answer.map sorted))

/-- `BenchmarkHarness.run_distributed`. A configuration that came from no file is swept here. -/
def runDistributed (sweep : Sweep) (stored : Bool) (schedule : Option (List ℕ)) (policies : List String)
    (seeds : List ℤ) (store : RedisStore) : Option (EStateM.Result PyError RedisStore (List SweepReport)) :=
  if stored then sweep.runRaySweep schedule policies seeds store else some (sweep.run policies seeds store)

theorem runSingle_eq (sweep : Sweep) : sweep.runSingle = sweep.simulated := by
  funext task store
  unfold runSingle simulated
  cases ran : SimulationEngine.simulate (sweep.experiment.withPolicy task.1) sweep.environment
      (sweep.seeded task.2) sweep.azureAvailable store with
  | error raised final => rw [bind_of_error ran, bind_of_error ran]
  | ok outcome final =>
    obtain ⟨results, report⟩ := outcome
    have name : report.summary.policyName = task.1 := SimulationEngine.simulate_policyName ran
    rw [bind_of_ok ran, bind_of_ok ran, ← name]

theorem inert_simulated (sweep : Sweep) {store : RedisStore} (disabled : store.enabled = false)
    (tasks : List (String × ℤ)) : Inert sweep.simulated tasks store := by
  intro task _
  have kept := SimulationEngine.stateAfter_simulate_disabled disabled (sweep.experiment.withPolicy task.1)
    sweep.environment (sweep.seeded task.2) sweep.azureAvailable
  unfold stateAfter at kept ⊢
  unfold simulated
  cases ran : SimulationEngine.simulate (sweep.experiment.withPolicy task.1) sweep.environment
      (sweep.seeded task.2) sweep.azureAvailable store with
  | error raised final =>
    rw [ran] at kept
    rw [bind_of_error ran]
    exact kept
  | ok outcome final =>
    rw [ran] at kept
    rw [bind_of_ok ran]
    exact kept

theorem policywise_perm (policies : List String) (seeds : List ℤ) :
    (policywise policies seeds).Perm (seedwise policies seeds) := by
  induction policies with
  | nil => simp [policywise, seedwise]
  | cons policy rest ih =>
    have joined := List.map_append_flatMap_perm seeds (fun seed => (policy, seed))
      (fun seed => rest.map (fun other => (other, seed)))
    exact (ih.append_left _).trans joined

theorem length_policywise (policies : List String) (seeds : List ℤ) :
    (policywise policies seeds).length = policies.length * seeds.length := by
  simp [policywise, List.length_flatMap]

theorem run_eq (sweep : Sweep) {store : RedisStore} (disabled : store.enabled = false) (policies : List String)
    (seeds : List ℤ) :
    sweep.run policies seeds store =
      endingIn store ((seedwise policies seeds).mapM (alone sweep.simulated store)) :=
  mapM_inert (sweep.inert_simulated disabled _)

/-- Whether and in whichever order workers share the tasks, a sweep comes to what the simulations come to alone. -/
theorem runRaySweep_eq (sweep : Sweep) {store : RedisStore} (disabled : store.enabled = false) (policies : List String)
    (seeds : List ℤ) {schedule : Option (List ℕ)}
    (complete : ∀ positions ∈ schedule, ∀ position < policies.length * seeds.length, position ∈ positions) :
    sweep.runRaySweep schedule policies seeds store =
      some (endingIn store (((policywise policies seeds).mapM (alone sweep.simulated store)).map
        (if schedule.isSome then sorted else id))) := by
  have inert := sweep.inert_simulated disabled (policywise policies seeds)
  unfold runRaySweep
  rw [runSingle_eq]
  cases schedule with
  | none =>
    dsimp only
    rw [mapM_inert inert]
    simp
  | some positions =>
    have every : ∀ position < (policywise policies seeds).length, position ∈ positions := by
      rw [length_policywise]
      exact complete positions rfl
    dsimp only
    rw [fetch_work inert every, work_inert inert]
    simp

theorem sorted_perm (reports : List SweepReport) : (sorted reports).Perm reports := List.perm_insertionSort _ _

theorem sorted_pairwise (reports : List SweepReport) :
    (sorted reports).Pairwise (fun first second => sortKey first ≤ sortKey second) := by
  have total : Std.Total (fun first second : SweepReport => sortKey first ≤ sortKey second) :=
    ⟨fun first second => le_total (sortKey first) (sortKey second)⟩
  have trans : IsTrans SweepReport (fun first second => sortKey first ≤ sortKey second) :=
    ⟨fun _ _ _ => le_trans⟩
  exact List.pairwise_insertionSort _ reports

theorem runDistributed_eq (sweep : Sweep) {store : RedisStore} (disabled : store.enabled = false)
    (policies : List String) (seeds : List ℤ) (stored : Bool) {schedule : Option (List ℕ)}
    (complete : ∀ positions ∈ schedule, ∀ position < policies.length * seeds.length, position ∈ positions) :
    sweep.runDistributed stored schedule policies seeds store = some (endingIn store
      (if stored then ((policywise policies seeds).mapM (alone sweep.simulated store)).map
        (if schedule.isSome then sorted else id)
      else (seedwise policies seeds).mapM (alone sweep.simulated store))) := by
  unfold runDistributed
  cases stored with
  | false => rw [if_neg (by decide), if_neg (by decide), sweep.run_eq disabled]
  | true => rw [if_pos rfl, if_pos rfl, sweep.runRaySweep_eq disabled policies seeds complete]

/-- With Redis off a sweep on workers is the sweep of the harness: it returns when that one does, with the same reports
    in another order, each of them the report of a simulation of its own, and it does not depend on the order in which
    the workers take the tasks. -/
theorem sweeps_agree (sweep : Sweep) (policies : List String) (seeds : List ℤ) (store : RedisStore)
    (disabled : store.enabled = false) (stored : Bool) (schedule : Option (List ℕ))
    (complete : ∀ positions ∈ schedule, ∀ position < policies.length * seeds.length, position ∈ positions) :
    (∀ reports store', sweep.run policies seeds store = .ok reports store' →
      store' = store ∧
      List.Forall₂ (fun task item => sweep.simulated task store = .ok item store) (seedwise policies seeds) reports ∧
      ∃ collected, sweep.runDistributed stored schedule policies seeds store = some (.ok collected store) ∧
        collected.Perm reports ∧
        (stored = true → schedule.isSome = true →
          collected.Pairwise (fun first second => sortKey first ≤ sortKey second))) ∧
    (∀ raised store', sweep.run policies seeds store = .error raised store' →
      store' = store ∧
        ∃ other, sweep.runDistributed stored schedule policies seeds store = some (.error other store)) ∧
    ∀ others : Option (List ℕ), others.isSome = schedule.isSome →
      (∀ positions ∈ others, ∀ position < policies.length * seeds.length, position ∈ positions) →
      sweep.runDistributed stored others policies seeds store =
        sweep.runDistributed stored schedule policies seeds store := by
  rw [sweep.run_eq disabled, sweep.runDistributed_eq disabled policies seeds stored complete]
  refine ⟨?_, ?_, ?_⟩
  · intro reports store' returned
    obtain ⟨answers, same⟩ := endingIn_eq_ok.mp returned
    refine ⟨same, ?_, ?_⟩
    · refine (except_mapM_eq_ok.mp answers).imp ?_
      intro task item answer
      have ran := eq_of_inert (sweep.inert_simulated disabled [task] task List.mem_cons_self)
      rw [ran]
      exact endingIn_eq_ok.mpr ⟨answer, rfl⟩
    · cases stored with
      | false => exact ⟨reports, by rw [if_neg (by decide), answers]; rfl, List.Perm.refl _, fun is => by cases is⟩
      | true =>
        obtain ⟨permuted, found, perm⟩ := except_mapM_perm (policywise_perm policies seeds) answers
        rw [if_pos rfl, found]
        cases schedule with
        | none => exact ⟨permuted, rfl, perm, fun _ is => by cases is⟩
        | some positions =>
          exact ⟨sorted permuted, rfl, (sorted_perm permuted).trans perm, fun _ _ => sorted_pairwise permuted⟩
  · intro raised store' failed
    obtain ⟨answers, same⟩ := endingIn_eq_error.mp failed
    refine ⟨same, ?_⟩
    cases stored with
    | false => exact ⟨raised, by rw [if_neg (by decide), answers]; rfl⟩
    | true =>
      rw [if_pos rfl]
      cases found : (policywise policies seeds).mapM (alone sweep.simulated store) with
      | error other => exact ⟨other, rfl⟩
      | ok permuted =>
        obtain ⟨reports, returned, _⟩ := except_mapM_perm (policywise_perm policies seeds).symm found
        cases answers.symm.trans returned
  · intro others same completeToo
    rw [sweep.runDistributed_eq disabled policies seeds stored completeToo, same]

def mixedSweep : Sweep where
  experiment := SimulationEngine.mixedExperiment
  environment := ControlPlane.sessionEnvironment (emptyStore false)
  seeded := fun _ => WorkloadGenerator.traceEnvironment (WorkloadGenerator.traceOf [])
  azureAvailable := true

theorem sweeps_agree_two_policies :
    ∃ reports collected,
      mixedSweep.run ["spread", "round_robin"] [7, 3] (emptyStore false) = .ok reports (emptyStore false) ∧
      mixedSweep.runDistributed true (some [3, 2, 1, 0]) ["spread", "round_robin"] [7, 3] (emptyStore false) =
        some (.ok collected (emptyStore false)) ∧
      reports.map SweepReport.seed = [7, 7, 3, 3] ∧ collected.Perm reports ∧
      collected.Pairwise (fun first second => sortKey first ≤ sortKey second) := by
  have ran : (valueOf (mixedSweep.run ["spread", "round_robin"] [7, 3] (emptyStore false))).map
      (fun reports => reports.map SweepReport.seed) = some [7, 7, 3, 3] := by decide +kernel
  obtain ⟨reports, value, order⟩ := Option.map_eq_some_iff.mp ran
  obtain ⟨store', returned⟩ := valueOf_eq_some.mp value
  obtain ⟨agrees, _⟩ := sweeps_agree mixedSweep ["spread", "round_robin"] [7, 3] (emptyStore false) rfl true
    (some [3, 2, 1, 0]) (by rintro _ ⟨⟩; decide)
  obtain ⟨rfl, _, collected, distributed, perm, ascending⟩ := agrees reports store' returned
  exact ⟨reports, collected, returned, distributed, order, perm, ascending rfl rfl⟩

end Sweep

end NimbusMesh
