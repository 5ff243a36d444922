import NimbusMesh.ControlPlane.Attribution
import NimbusMesh.ControlPlane.Failures
import NimbusMesh.ControlPlane.Queries
import NimbusMesh.ControlPlane.Sessions

namespace NimbusMesh

open Foundation Foundation.Execution

def admittedOn (results : List RequestResult) (clusterId poolId : String) : List RequestResult :=
  results.filter (fun result => result.admitted ∧
    result.decision.clusterId = clusterId ∧ result.decision.poolId = poolId)

def meanReward (results : List RequestResult) : ℚ := (results.map Policy.reward).sum / results.length

theorem meanReward_perm {results others : List RequestResult} (perm : results.Perm others) :
    meanReward results = meanReward others := by
  rw [meanReward, (perm.map Policy.reward).sum_eq, perm.length_eq, meanReward]

/-- A step of size `1 / n` towards the `n`-th reward turns the mean of the first `n - 1` into the mean of all. -/
theorem meanReward_snoc (results : List RequestResult) (result : RequestResult) :
    meanReward (results ++ [result]) =
      (1 - 1.0 / ((results.length + 1 : ℕ) : ℚ)) * meanReward results +
        1.0 / ((results.length + 1 : ℕ) : ℚ) * Policy.reward result := by
  have positive : ((results.length : ℚ) + 1) ≠ 0 := by positivity
  have one : (1.0 : ℚ) = 1 := by norm_num
  simp only [one, meanReward, List.map_append, List.sum_append, List.map_cons, List.map_nil, List.sum_cons,
    List.sum_nil, List.length_append, List.length_cons, List.length_nil, zero_add, Nat.cast_add, Nat.cast_one,
    add_zero]
  by_cases none : (results.length : ℚ) = 0
  · have empty : results = [] := List.length_eq_zero_iff.mp (by exact_mod_cast none)
    subst empty
    norm_num
  · field_simp
    ring

namespace Policy

def BanditHolds (counts : Dict (String × String) ℕ) (value : Dict (String × String) ℚ)
    (results : List RequestResult) : Prop :=
  ∀ clusterId poolId,
    (Dict.lookup counts (clusterId, poolId)).getD 0 = (admittedOn results clusterId poolId).length ∧
    (Dict.lookup value (clusterId, poolId)).getD 0 = meanReward (admittedOn results clusterId poolId)

theorem banditHolds_initial : BanditHolds KeyedList.empty KeyedList.empty [] := by
  intro clusterId poolId
  constructor
  · rfl
  · simp [admittedOn, meanReward, Dict.lookup, KeyedList.get?, KeyedList.empty]

theorem BanditHolds.skip {counts : Dict (String × String) ℕ} {value : Dict (String × String) ℚ}
    {results : List RequestResult} (holds : BanditHolds counts value results) {result : RequestResult}
    (turned : result.admitted = false) : BanditHolds counts value (results ++ [result]) := by
  intro clusterId poolId
  have same : admittedOn (results ++ [result]) clusterId poolId = admittedOn results clusterId poolId := by
    simp [admittedOn, turned]
  rw [same]
  exact holds clusterId poolId

theorem BanditHolds.observe {bonus : ℚ} {counts : Dict (String × String) ℕ} {value : Dict (String × String) ℚ}
    {results : List RequestResult} (holds : BanditHolds counts value results) {result : RequestResult}
    (admitted : result.admitted = true) :
    ∃ counted valued, (Policy.contextualBandit bonus counts value).observeResult result =
      .contextualBandit bonus counted valued ∧ BanditHolds counted valued (results ++ [result]) := by
  refine ⟨_, _, rfl, ?_⟩
  intro clusterId poolId
  obtain ⟨number, mean⟩ := holds clusterId poolId
  simp only [Dict.lookup_set]
  by_cases here : (result.decision.clusterId, result.decision.poolId) = (clusterId, poolId)
  · have names := Prod.mk.inj here
    have grown : admittedOn (results ++ [result]) clusterId poolId =
        admittedOn results clusterId poolId ++ [result] := by
      simp [admittedOn, admitted, names.1, names.2]
    rw [here, if_pos rfl, if_pos rfl, number, mean, grown, meanReward_snoc]
    constructor
    · simp
    · rfl
  · have apart : ¬ (result.decision.clusterId = clusterId ∧ result.decision.poolId = poolId) := by
      intro names
      exact here (Prod.ext names.1 names.2)
    have same : admittedOn (results ++ [result]) clusterId poolId = admittedOn results clusterId poolId := by
      simp [admittedOn, apart]
    rw [if_neg here, if_neg here, same]
    exact ⟨number, mean⟩

end Policy

namespace ControlPlane

theorem keeps_policy_route {policy : Policy} (steady : policy.Steady) (request : InferenceRequest) (now : ℚ) :
    Keeps (fun plane : ControlPlane => plane.policy = policy) (route request now) := by
  apply keeps_route_of
  · intro plane same
    rw [stateAfter_buildCandidates]
    exact same
  · intro candidates plane same
    have kept : plane.policy.Steady := by
      rw [same]
      exact steady
    rw [chooseCandidate_steady kept]
    exact same

theorem execute_policy {plane : ControlPlane} (steady : plane.policy.Steady) (request : InferenceRequest)
    (now : ℚ) :
    (∃ result final, execute request now plane = .ok result final ∧
      final.policy = if result.admitted then plane.policy.observeResult result else plane.policy) ∨
    ∃ raised final, execute request now plane = .error raised final ∧ final.policy = plane.policy := by
  have routed := keeps_policy_route steady request now plane rfl
  cases outcome : execute request now plane with
  | ok result final =>
    left
    refine ⟨result, final, rfl, ?_⟩
    obtain ⟨candidates, directory, choice, cluster, pool, policy, backend, _, choosing, _, _, placed⟩ :=
      execute_returned outcome
    have chosen := stateAfter_ok choosing
    have kept : ({ plane with cacheDirectory := directory } : ControlPlane).policy.Steady := steady
    rw [chooseCandidate_steady kept] at chosen
    have same : plane.policy = policy := congrArg ControlPlane.policy chosen
    rcases placed with ⟨_, rfl, rfl⟩ | ⟨_, scheduler, placing, rfl⟩
    · exact same.symm
    · obtain ⟨slotIndex, _, rfl, _, _⟩ := placeRequest_eq_ok placing
      rw [same]
      rfl
  | error raised final =>
    right
    refine ⟨raised, final, rfl, ?_⟩
    cases routing : route request now plane with
    | error other middle =>
      rw [execute, bind_of_error routing] at outcome
      cases outcome
      simpa only [stateAfter, routing] using routed
    | ok answer middle =>
      obtain ⟨choice, decision⟩ := answer
      obtain ⟨cluster, pool, backend, slotIndex, after, _, _, _, _, _, rfl⟩ :=
        execute_error_after_route routing outcome
      simp only [stateAfter, routing] at routed
      exact routed

def BanditKept (session : ControlPlane × List RequestResult) : Prop :=
  ∃ counts value, session.1.policy = .contextualBandit 18.0 counts value ∧
    Policy.BanditHolds counts value session.2

theorem BanditKept.attempt {session : ControlPlane × List RequestResult} (kept : BanditKept session)
    (call : PlaneCall) : BanditKept (attempt session call) := by
  obtain ⟨counts, value, bandit, holds⟩ := kept
  have steady : session.1.policy.Steady := by
    rw [bandit]
    exact True.intro
  cases call with
  | refresh now =>
    obtain ⟨_, _, refreshed⟩ := refresh_eq session.1 now
    refine ⟨counts, value, ?_, holds⟩
    change (session.1.refresh now).policy = _
    rw [refreshed]
    exact bandit
  | route request now =>
    exact ⟨counts, value, (keeps_policy_route steady request now session.1 rfl).trans bandit, holds⟩
  | execute request now =>
    rcases execute_policy steady request now with ⟨result, final, returned, policy⟩ | ⟨_, final, raised, policy⟩
    · have reached : ControlPlane.attempt session (.execute request now) = (final, session.2 ++ [result]) := by
        simp [ControlPlane.attempt, stateAfter, valueOf, returned]
      rw [reached]
      rw [bandit] at policy
      cases admitted : result.admitted with
      | true =>
        rw [admitted, if_pos rfl] at policy
        obtain ⟨counted, valued, shown, later⟩ := @Policy.BanditHolds.observe 18.0 _ _ _ holds _ admitted
        exact ⟨counted, valued, policy.trans shown, later⟩
      | false =>
        rw [admitted, if_neg Bool.false_ne_true] at policy
        exact ⟨counts, value, policy, holds.skip admitted⟩
    · have reached : ControlPlane.attempt session (.execute request now) = (final, session.2) := by
        simp [ControlPlane.attempt, stateAfter, valueOf, raised]
      rw [reached]
      exact ⟨counts, value, policy.trans bandit, holds⟩

theorem BanditKept.session {config : ExperimentConfig} {environment : Environment} {plane : ControlPlane}
    (created : create config environment = .ok plane) (named : config.policy = "contextual_bandit")
    (calls : List PlaneCall) : BanditKept (calls.foldl ControlPlane.attempt (plane, [])) := by
  have initial : BanditKept (plane, []) := by
    obtain ⟨policy, built, same⟩ := except_bind_eq_ok.mp created
    rw [named] at built
    cases built
    cases same
    exact ⟨KeyedList.empty, KeyedList.empty, rfl, Policy.banditHolds_initial⟩
  exact List.foldlRecOn calls ControlPlane.attempt initial (fun _ kept call _ => kept.attempt call)

/-- In every session under the contextual bandit, the tables hold for every pool the number of the results
    admitted there and their mean reward; so two sessions with the same results on a pool, in whatever
    order and whatever happened on the others, agree on it. -/
theorem bandit_value_is_mean_reward (config : ExperimentConfig) (environment : Environment)
    (plane : ControlPlane) (created : create config environment = .ok plane)
    (named : config.policy = "contextual_bandit") (calls : List PlaneCall) :
    let session := calls.foldl attempt (plane, [])
    ∃ counts value, session.1.policy = .contextualBandit 18.0 counts value ∧
      ∀ clusterId poolId,
        let results := admittedOn session.2 clusterId poolId
        (Dict.lookup counts (clusterId, poolId)).getD 0 = results.length ∧
        (Dict.lookup value (clusterId, poolId)).getD 0 =
          (if results = [] then 0 else (results.map Policy.reward).sum / results.length) ∧
        ∀ (others : List PlaneCall) (otherCounts : Dict (String × String) ℕ)
          (otherValue : Dict (String × String) ℚ),
          (others.foldl attempt (plane, [])).1.policy = .contextualBandit 18.0 otherCounts otherValue →
          results.Perm (admittedOn (others.foldl attempt (plane, [])).2 clusterId poolId) →
          (Dict.lookup otherCounts (clusterId, poolId)).getD 0 = (Dict.lookup counts (clusterId, poolId)).getD 0 ∧
          (Dict.lookup otherValue (clusterId, poolId)).getD 0 = (Dict.lookup value (clusterId, poolId)).getD 0 := by
  intro session
  obtain ⟨counts, value, bandit, holds⟩ := BanditKept.session created named calls
  refine ⟨counts, value, bandit, ?_⟩
  intro clusterId poolId results
  obtain ⟨number, mean⟩ := holds clusterId poolId
  refine ⟨number, ?_, ?_⟩
  · rw [mean]
    split
    · rename_i empty
      rw [show admittedOn _ clusterId poolId = [] from empty]
      simp [meanReward]
    · rfl
  · intro others otherCounts otherValue policy perm
    obtain ⟨_, _, same, held⟩ := BanditKept.session created named others
    rw [policy] at same
    cases same
    obtain ⟨otherNumber, otherMean⟩ := held clusterId poolId
    rw [otherNumber, otherMean, number, mean]
    exact ⟨perm.length_eq.symm, (meanReward_perm perm).symm⟩

theorem bandit_value_is_mean_reward_two_pools :
    let calls : List PlaneCall :=
      [.execute (sessionRequest 1000) 0, .route (sessionRequest 500) 1, .execute (sessionRequest 1000) 9]
    ∃ plane counts value,
      create (pairConfig "contextual_bandit" 4) (sessionEnvironment (emptyStore false)) = .ok plane ∧
      (calls.foldl attempt (plane, [])).1.policy = .contextualBandit 18.0 counts value ∧
      (Dict.lookup counts ("c1", "p1")).getD 0 = 1 := by
  intro calls
  have evaluated : ∃ plane,
      create (pairConfig "contextual_bandit" 4) (sessionEnvironment (emptyStore false)) = .ok plane ∧
      (admittedOn (calls.foldl attempt (plane, [])).2 "c1" "p1").length = 1 := ⟨_, rfl, by decide +kernel⟩
  obtain ⟨plane, created, one⟩ := evaluated
  obtain ⟨counts, value, bandit, tables⟩ := bandit_value_is_mean_reward (pairConfig "contextual_bandit" 4)
    (sessionEnvironment (emptyStore false)) plane created rfl calls
  exact ⟨plane, counts, value, created, bandit, (tables "c1" "p1").1.trans one⟩

end ControlPlane

end NimbusMesh
