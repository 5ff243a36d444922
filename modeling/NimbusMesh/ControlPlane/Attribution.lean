import NimbusMesh.ControlPlane.Availability

namespace NimbusMesh

open Foundation Foundation.Execution

theorem Policy.choose_name {policy next : Policy} {request : InferenceRequest}
    {candidates : List CandidatePlacement} {choice : CandidatePlacement}
    (returned : policy.choose request candidates = .ok (choice, next)) : next.name = policy.name := by
  unfold choose at returned
  cases policy with
  | roundRobin cursor =>
    dsimp only at returned
    split at returned
    · cases returned
    · obtain ⟨_, _, same⟩ := except_bind_eq_ok.mp returned
      cases same
      rfl
  | _ =>
    obtain ⟨_, _, same⟩ := except_bind_eq_ok.mp returned
    cases same
    rfl

namespace ControlPlane

variable {plane : ControlPlane} {request : InferenceRequest} {candidates : List CandidatePlacement}

theorem chooseCandidate_chain {choice : CandidatePlacement} {final : ControlPlane}
    (returned : chooseCandidate request candidates plane = .ok choice final) :
    final.policy.name = plane.policy.name ∧
      ∃ remote, plane.grpcClient.choose request candidates = .ok remote ∧
        match remote, plane.cppCore.choose request candidates with
        | some index, _ => candidates[index]? = some choice
        | none, some index => candidates[index]? = some choice
        | none, none => ∃ policy, plane.policy.choose request candidates = .ok (choice, policy) := by
  obtain ⟨remote, asked, ⟨index, named, found, rfl⟩ | ⟨rfl, absent, policy, chosen, rfl⟩⟩ :=
    chooseCandidate_answered returned
  · refine ⟨rfl, remote, asked, ?_⟩
    cases remote with
    | some first =>
      cases named
      exact found
    | none =>
      rw [Option.orElse_none] at named
      rw [named]
      exact found
  · refine ⟨Policy.choose_name chosen, none, asked, ?_⟩
    rw [absent]
    exact ⟨policy, chosen⟩

theorem route_listed {now : ℚ} {built : ControlPlane}
    (listed : buildCandidates request now plane = .ok candidates built) :
    route request now plane = (match chooseCandidate request candidates built with
      | .ok choice final => .ok (choice, final.decisionFor request choice) final
      | .error raised final => .error raised final) := by
  rw [route, bind_of_ok listed]
  cases chosen : chooseCandidate request candidates built with
  | error raised final => exact bind_of_error chosen _
  | ok choice final =>
    rw [bind_of_ok chosen, bind_of_ok (get_eq_ok.mpr ⟨rfl, rfl⟩)]
    rfl

/-- A decision is made under the name of the policy by the first stage of the chain that has an answer:
    the service, the core, and only then the policy itself. -/
theorem route_attribution (plane built final : ControlPlane) (request : InferenceRequest) (now : ℚ)
    (candidates : List CandidatePlacement) (choice : CandidatePlacement) (decision : RoutingDecision)
    (listed : buildCandidates request now plane = .ok candidates built)
    (returned : route request now plane = .ok (choice, decision) final) :
    decision.policyName = plane.policy.name ∧ decision.clusterId = choice.clusterId ∧
      decision.poolId = choice.poolId ∧
      ∃ remote, plane.grpcClient.choose request candidates = .ok remote ∧
        match remote, plane.cppCore.choose request candidates with
        | some index, _ => candidates[index]? = some choice
        | none, some index => candidates[index]? = some choice
        | none, none => ∃ policy, plane.policy.choose request candidates = .ok (choice, policy) := by
  obtain ⟨_, directory, _, _, rfl⟩ := buildCandidates_eq_ok listed
  rw [route_listed listed] at returned
  split at returned
  · rename_i chosen after choosing
    cases returned
    obtain ⟨name, chain⟩ := chooseCandidate_chain choosing
    exact ⟨name, rfl, rfl, chain⟩
  · cases returned

section Pairs

def pairConfig (policy : String) (queueLimit : ℤ) : ExperimentConfig :=
  { sessionConfig 1 queueLimit 80 with
    policy
    clusters := [{
      clusterId := "c1", zone := "zone-a", pools := [
        { poolId := "p1", acceleratorType := "a100", prefillTps := 1000, decodeTps := 512, memoryGb := 80
          gpuCount := 1, parallelSlots := 1, costPer1mTokens := 1, queueLimit },
        { poolId := "p2", acceleratorType := "h100", prefillTps := 4000, decodeTps := 2048, memoryGb := 80
          gpuCount := 1, parallelSlots := 1, costPer1mTokens := 1, queueLimit }] }] }

/-- Round robin would begin with the first pool, the core takes the faster one. -/
theorem decision_made_by_core :
    let environment : Environment := { sessionEnvironment (emptyStore false) with cppCore := { available := true } }
    ∃ plane candidates built choice decision final other policy,
      create (pairConfig "round_robin" 4) environment = .ok plane ∧
      buildCandidates (sessionRequest 1000) 0 plane = .ok candidates built ∧
      route (sessionRequest 1000) 0 plane = .ok (choice, decision) final ∧
      decision.policyName = "round_robin" ∧
      plane.policy.choose (sessionRequest 1000) candidates = .ok (other, policy) ∧ other ≠ choice := by
  intro environment
  have evaluated : ∃ plane, create (pairConfig "round_robin" 4) environment = .ok plane ∧
      ((valueOf (route (sessionRequest 1000) 0 plane)).map
        (fun routed => (routed.1.poolId, routed.2.policyName)) = some ("p2", "round_robin")) ∧
      ((valueOf (buildCandidates (sessionRequest 1000) 0 plane)).bind (fun candidates =>
        (plane.policy.choose (sessionRequest 1000) candidates).toOption.map (fun chosen => chosen.1.poolId)) =
          some "p1") :=
    ⟨_, rfl, by decide +kernel, by decide +kernel⟩
  obtain ⟨plane, created, routed, own⟩ := evaluated
  obtain ⟨⟨choice, decision⟩, value, named⟩ := Option.map_eq_some_iff.mp routed
  obtain ⟨final, returned⟩ := valueOf_eq_some.mp value
  obtain ⟨candidates, listing, chosen⟩ := Option.bind_eq_some_iff.mp own
  obtain ⟨built, listed⟩ := valueOf_eq_some.mp listing
  obtain ⟨fast, label⟩ := Prod.mk.inj named
  cases picked : plane.policy.choose (sessionRequest 1000) candidates with
  | error raised =>
    rw [picked] at chosen
    cases chosen
  | ok answer =>
    obtain ⟨other, policy⟩ := answer
    rw [picked] at chosen
    have slow : other.poolId = "p1" := Option.some.inj chosen
    refine ⟨plane, candidates, built, choice, decision, final, other, policy, created, listed, returned, label,
      picked, ?_⟩
    rintro rfl
    rw [slow] at fast
    exact absurd fast (by decide)

theorem route_attribution_round_robin :
    ∃ plane candidates built choice decision final policy,
      create (pairConfig "round_robin" 4) (sessionEnvironment (emptyStore false)) = .ok plane ∧
      buildCandidates (sessionRequest 1000) 0 plane = .ok candidates built ∧
      route (sessionRequest 1000) 0 plane = .ok (choice, decision) final ∧
      decision.policyName = "round_robin" ∧
      plane.policy.choose (sessionRequest 1000) candidates = .ok (choice, policy) := by
  have evaluated : ∃ plane, create (pairConfig "round_robin" 4) (sessionEnvironment (emptyStore false)) = .ok plane ∧
      (valueOf (route (sessionRequest 1000) 0 plane)).isSome = true ∧
      (valueOf (buildCandidates (sessionRequest 1000) 0 plane)).isSome = true ∧
      plane.policy.name = "round_robin" ∧ plane.grpcClient.available = false ∧ plane.cppCore.available = false :=
    ⟨_, rfl, by decide +kernel, by decide +kernel, rfl, rfl, rfl⟩
  obtain ⟨plane, created, routed, listing, name, off, unloaded⟩ := evaluated
  obtain ⟨⟨choice, decision⟩, value⟩ := Option.isSome_iff_exists.mp routed
  obtain ⟨final, returned⟩ := valueOf_eq_some.mp value
  obtain ⟨candidates, value⟩ := Option.isSome_iff_exists.mp listing
  obtain ⟨built, listed⟩ := valueOf_eq_some.mp value
  obtain ⟨label, _, _, remote, asked, chain⟩ := route_attribution plane built final (sessionRequest 1000) 0
    candidates choice decision listed returned
  have absent : plane.cppCore.choose (sessionRequest 1000) candidates = none := by
    simp [CppSchedulerCore.choose, unloaded]
  rw [GrpcSchedulerClient.choose_off off] at asked
  cases asked
  rw [absent] at chain
  obtain ⟨policy, chosen⟩ := chain
  exact ⟨plane, candidates, built, choice, decision, final, policy, created, listed, returned, label.trans name, chosen⟩

end Pairs

section Degradation

def withoutGrpc (plane : ControlPlane) : ControlPlane :=
  { plane with grpcClient := { plane.grpcClient with available := false } }

theorem chooseCandidate_unanswered (nonempty : candidates ≠ [])
    (asked : plane.grpcClient.choose request candidates = .ok none) :
    ∃ choice policy, chooseCandidate request candidates plane = .ok choice { plane with policy } ∧
      chooseCandidate request candidates plane.withoutGrpc = .ok choice { plane.withoutGrpc with policy } := by
  have off : plane.withoutGrpc.grpcClient.choose request candidates = .ok none :=
    GrpcSchedulerClient.choose_off rfl request candidates
  cases core : plane.cppCore.choose request candidates with
  | some index =>
    have found := List.getElem?_eq_getElem (CppSchedulerCore.choose_bound core)
    exact ⟨_, plane.policy, chooseCandidate_by_core asked core found, chooseCandidate_by_core off core found⟩
  | none =>
    obtain ⟨choice, policy, chosen⟩ := plane.policy.choose_returns request nonempty
    exact ⟨choice, policy, chooseCandidate_by_policy asked core chosen, chooseCandidate_by_policy off core chosen⟩

/-- Routing survives whatever the remote service does exactly when its call does not raise: an index out of
    range is passed over, an error is not caught. -/
theorem route_degrades_iff (plane built : ControlPlane) (request : InferenceRequest) (now : ℚ)
    (candidates : List CandidatePlacement) (listed : buildCandidates request now plane = .ok candidates built)
    (nonempty : candidates ≠ []) :
    (∃ choice decision final, route request now plane = .ok (choice, decision) final ∧ choice ∈ candidates ∧
      ((¬ ∃ index, plane.grpcClient.choose request candidates = .ok (some index)) →
        ∃ policy, chooseCandidate request candidates built.withoutGrpc =
          .ok choice { built.withoutGrpc with policy })) ↔
    (plane.grpcClient.available = true →
      ∃ response, plane.grpcClient.stub (placementRequest request candidates) = .ok response) := by
  obtain ⟨_, directory, _, _, rfl⟩ := buildCandidates_eq_ok listed
  let built : ControlPlane := { plane with cacheDirectory := directory }
  constructor
  · rintro ⟨choice, decision, final, returned, _, _⟩ connected
    cases called : plane.grpcClient.stub (placementRequest request candidates) with
    | ok response => exact ⟨response, rfl⟩
    | error raised =>
      have asked : plane.grpcClient.choose request candidates = .error raised := by
        simp [GrpcSchedulerClient.choose, connected, called, Bind.bind, Except.bind]
      rw [route_listed listed] at returned
      simp [chooseCandidate, asked] at returned
  · intro answers
    have asked : ∃ remote, built.grpcClient.choose request candidates = .ok remote := by
      cases connected : plane.grpcClient.available with
      | true =>
        obtain ⟨response, called⟩ := answers connected
        refine ⟨validIndex response.chosenIndex candidates.length, ?_⟩
        simp [built, GrpcSchedulerClient.choose, connected, called, Bind.bind, Except.bind, Pure.pure, Except.pure]
      | false => exact ⟨none, GrpcSchedulerClient.choose_off connected request candidates⟩
    obtain ⟨remote, asked⟩ := asked
    rw [route_listed listed]
    cases remote with
    | some index =>
      have bound := GrpcSchedulerClient.choose_bound asked
      have found := List.getElem?_eq_getElem bound
      have choosing : chooseCandidate request candidates built = .ok _ built := chooseCandidate_by_grpc asked found
      refine ⟨_, _, _, by rw [choosing], List.getElem_mem bound, fun unanswered => ?_⟩
      exact absurd ⟨index, asked⟩ unanswered
    | none =>
      obtain ⟨choice, policy, choosing, fallback⟩ := chooseCandidate_unanswered nonempty asked
      exact ⟨choice, _, _, by rw [choosing], (chooseCandidate_eq_ok choosing).1, fun _ => ⟨policy, fallback⟩⟩

/-- The deadline of the call passes while both pools could take the request. -/
theorem route_raises_on_deadline :
    let environment : Environment := { sessionEnvironment (emptyStore false) with
      grpcClient := { available := true, stub := fun _ => .error (.rpcError "DEADLINE_EXCEEDED") } }
    ∃ plane candidates built raised final,
      create (pairConfig "round_robin" 4) environment = .ok plane ∧
      buildCandidates (sessionRequest 1000) 0 plane = .ok candidates built ∧ candidates ≠ [] ∧
      route (sessionRequest 1000) 0 plane = .error raised final := by
  intro environment
  have evaluated : ∃ plane, create (pairConfig "round_robin" 4) environment = .ok plane ∧
      (valueOf (route (sessionRequest 1000) 0 plane)).isSome = false ∧
      (valueOf (buildCandidates (sessionRequest 1000) 0 plane)).map List.length = some 2 :=
    ⟨_, rfl, by decide +kernel, by decide +kernel⟩
  obtain ⟨plane, created, failed, listing⟩ := evaluated
  obtain ⟨candidates, value, two⟩ := Option.map_eq_some_iff.mp listing
  obtain ⟨built, listed⟩ := valueOf_eq_some.mp value
  have nonempty : candidates ≠ [] := by
    rintro rfl
    cases two
  cases routed : route (sessionRequest 1000) 0 plane with
  | ok answer final =>
    rw [routed] at failed
    cases failed
  | error raised final => exact ⟨plane, candidates, built, raised, final, created, listed, nonempty, routed⟩

theorem route_degrades_iff_out_of_range :
    let environment : Environment := { sessionEnvironment (emptyStore false) with
      grpcClient := { available := true, stub := fun _ => .ok ⟨7, "grpc-score"⟩ } }
    ∃ plane candidates built choice decision final policy,
      create (pairConfig "round_robin" 4) environment = .ok plane ∧
      buildCandidates (sessionRequest 1000) 0 plane = .ok candidates built ∧
      route (sessionRequest 1000) 0 plane = .ok (choice, decision) final ∧ choice ∈ candidates ∧
      chooseCandidate (sessionRequest 1000) candidates built.withoutGrpc =
        .ok choice { built.withoutGrpc with policy } := by
  intro environment
  have evaluated : ∃ plane, create (pairConfig "round_robin" 4) environment = .ok plane ∧
      (valueOf (buildCandidates (sessionRequest 1000) 0 plane)).map List.length = some 2 ∧
      plane.grpcClient = environment.grpcClient :=
    ⟨_, rfl, by decide +kernel, rfl⟩
  obtain ⟨plane, created, listing, client⟩ := evaluated
  obtain ⟨candidates, value, two⟩ := Option.map_eq_some_iff.mp listing
  obtain ⟨built, listed⟩ := valueOf_eq_some.mp value
  have nonempty : candidates ≠ [] := by
    rintro rfl
    cases two
  have answers : plane.grpcClient.available = true →
      ∃ response, plane.grpcClient.stub (placementRequest (sessionRequest 1000) candidates) = .ok response := by
    intro _
    rw [client]
    exact ⟨_, rfl⟩
  obtain ⟨choice, decision, final, returned, member, fallback⟩ :=
    (route_degrades_iff plane built (sessionRequest 1000) 0 candidates listed nonempty).mpr answers
  have unanswered : ¬ ∃ index, plane.grpcClient.choose (sessionRequest 1000) candidates = .ok (some index) := by
    rintro ⟨index, asked⟩
    have none : plane.grpcClient.choose (sessionRequest 1000) candidates = .ok (validIndex 7 candidates.length) := by
      rw [client]
      rfl
    rw [two] at none
    cases none.symm.trans asked
  obtain ⟨policy, settled⟩ := fallback unanswered
  exact ⟨plane, candidates, built, choice, decision, final, policy, created, listed, returned, member, settled⟩

end Degradation

end ControlPlane

end NimbusMesh
