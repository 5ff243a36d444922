import NimbusMesh.ControlPlane.Steps

namespace NimbusMesh.ControlPlane

open Foundation Foundation.Execution

/-- The remote scorer, when there is one, is the repository's own servicer. -/
def ServedByRepository (client : GrpcSchedulerClient) : Prop :=
  client.available = true → client.stub = fun request => .ok (choosePlacement request)

theorem chooseCandidate_selects (plane : ControlPlane) (request : InferenceRequest)
    {candidates : List CandidatePlacement} (nonempty : candidates ≠ [])
    (servicer : ServedByRepository plane.grpcClient) :
    ∃ choice policy, chooseCandidate request candidates plane = .ok choice { plane with policy } ∧
      Selects candidates choice := by
  cases remote : plane.grpcClient.available with
  | true =>
    have asked : plane.grpcClient.choose request candidates = .ok (validIndex
        (choosePlacement (placementRequest request candidates)).chosenIndex candidates.length) := by
      simp [GrpcSchedulerClient.choose, remote, servicer remote, Bind.bind, Except.bind, Pure.pure, Except.pure]
    obtain ⟨index, choice, chosen, found, selected⟩ := choosePlacement_selects request nonempty
    rw [chosen] at asked
    exact ⟨choice, plane.policy, chooseCandidate_by_grpc asked found, selected⟩
  | false =>
    have asked := GrpcSchedulerClient.choose_off remote request candidates
    cases loaded : plane.cppCore.available with
    | true =>
      obtain ⟨index, choice, chosen, found, selected⟩ :=
        CppSchedulerCore.choose_selects plane.cppCore request loaded nonempty
      exact ⟨choice, plane.policy, chooseCandidate_by_core asked chosen found, selected⟩
    | false =>
      have absent : plane.cppCore.choose request candidates = none := by
        simp [CppSchedulerCore.choose, loaded]
      obtain ⟨choice, policy, chosen⟩ := plane.policy.choose_returns request nonempty
      exact ⟨choice, policy, chooseCandidate_by_policy asked absent chosen,
        Policy.selects_of_mem_availableCandidates (Policy.choose_mem chosen)⟩

theorem execute_rejects {request : InferenceRequest} {now : ℚ} {plane built routed : ControlPlane}
    {candidates : List CandidatePlacement} {choice : CandidatePlacement} {cluster : ClusterRuntime}
    {pool : PoolRuntime} {backend : Backend}
    (building : buildCandidates request now plane = .ok candidates built)
    (choosing : chooseCandidate request candidates built = .ok choice routed)
    (located : routed.poolAt choice.clusterId choice.poolId = some (cluster, pool))
    (named : backendNamed choice.backendName = .ok backend) (unavailable : choice.available = false) :
    execute request now plane =
      .ok (rejected request choice (routed.decisionFor request choice) now) routed := by
  have routing : route request now plane = .ok (choice, routed.decisionFor request choice) routed :=
    bind_eq_ok.mpr ⟨candidates, built, building, bind_eq_ok.mpr ⟨choice, routed, choosing, rfl⟩⟩
  refine bind_eq_ok.mpr ⟨_, routed, routing, bind_eq_ok.mpr ⟨routed, routed, rfl, ?_⟩⟩
  simp only [located, named, unavailable, Bool.false_eq_true, if_false]
  rfl

theorem buildCandidates_eq_ok {request : InferenceRequest} {now : ℚ} {plane built : ControlPlane}
    {candidates : List CandidatePlacement}
    (returned : buildCandidates request now plane = .ok candidates built) :
    ∃ raw directory,
      plane.candidatesFor request now plane.placements plane.cacheDirectory = .ok raw directory ∧
      candidates = plane.cudaEngine.enrichCandidates raw ∧
      built = { plane with cacheDirectory := directory } := by
  unfold buildCandidates at returned
  split at returned
  · cases returned
  · rename_i raw directory asked
    cases returned
    exact ⟨raw, directory, asked, rfl, rfl⟩

theorem candidates_ne_nil {request : InferenceRequest} {now : ℚ} {plane : ControlPlane}
    {raw : List CandidatePlacement} {directory : KVCacheDirectory} (pools : plane.placements ≠ [])
    (returned : plane.candidatesFor request now plane.placements plane.cacheDirectory = .ok raw directory) :
    plane.cudaEngine.enrichCandidates raw ≠ [] := by
  have length := (candidatesFor_eq_ok (fun _ => True) (fun _ _ _ _ _ _ _ => True.intro) True.intro
    returned).2.1
  have positive := List.length_pos_iff.mpr pools
  apply List.ne_nil_of_length_pos
  rw [CudaScoringEngine.enrichCandidates, List.length_map]
  omega

structure Fits (request : InferenceRequest) (now : ℚ) (savedTokens : ℤ) (cluster : ClusterRuntime)
    (pool : PoolRuntime) : Prop where
  up : ∀ window ∈ cluster.failureWindows, ¬ (window.1 ≤ now ∧ now ≤ window.2)
  model : pool.supportedModels = [] ∨ request.modelId ∈ pool.supportedModels
  queue : pool.inflightCount now < pool.queueLimit
  memory : estimateRequestMemoryGb request.promptTokens request.generationTokens request.modelId
    savedTokens ≤ pool.memoryHeadroomGb

theorem execute_admits_fitting {request : InferenceRequest} {now : ℚ} {plane final : ControlPlane}
    {result : RequestResult} (returned : execute request now plane = .ok result final)
    (admitted : result.admitted = true) :
    ∃ cluster pool, plane.poolAt result.decision.clusterId result.decision.poolId = some (cluster, pool) ∧
      Fits request now result.cacheSavedTokens cluster pool := by
  obtain ⟨_, _, choice, cluster, pool, _, _, _, chosen, outcome⟩ := execute_eq_ok returned
  rcases outcome with ⟨_, rejected, _⟩ | ⟨available, call, scheduler, _, candidate, _, clusterId, poolId,
    placing, _⟩
  · rw [rejected] at admitted
    cases admitted
  · obtain ⟨slotIndex, _, rfl, _, _⟩ := placeRequest_eq_ok placing
    have accepted := chosen.available
    rw [available] at accepted
    obtain ⟨up, model, queue, memory⟩ := rejectionReason_eq_none accepted.symm
    refine ⟨cluster, pool, ?_, ?_, model, queue, ?_⟩
    · have located := chosen.found
      rwa [← clusterId, ← poolId] at located
    · intro window member inside
      have down : cluster.unavailable now = true :=
        List.any_eq_true.mpr ⟨window, member, decide_eq_true inside⟩
      rw [up] at down
      cases down
    · rw [← candidate] at memory
      exact memory

/-- A request is turned away exactly when no pool could take it, whatever selects among the
    candidates, and an admitted request is on a pool that can. -/
theorem execute_respects_availability (plane : ControlPlane) (pools : plane.placements ≠ [])
    (servicer : ServedByRepository plane.grpcClient) (request : InferenceRequest) (now : ℚ) :
    ((∃ result final, execute request now plane = .ok result final ∧ result.admitted = false) ↔
      ∃ candidates built, buildCandidates request now plane = .ok candidates built ∧
        ∀ candidate ∈ candidates, candidate.available = false) ∧
    ∀ result final, execute request now plane = .ok result final → result.admitted = true →
      ∃ cluster pool, plane.poolAt result.decision.clusterId result.decision.poolId = some (cluster, pool) ∧
        Fits request now result.cacheSavedTokens cluster pool := by
  refine ⟨⟨?_, ?_⟩, fun result final returned admitted => execute_admits_fitting returned admitted⟩
  · rintro ⟨result, final, returned, rejected⟩
    obtain ⟨raw, directory, choice, cluster, pool, policy, asked, choosing, _, outcome⟩ :=
      execute_eq_ok returned
    rcases outcome with ⟨unavailable, _, _⟩ | ⟨_, call, scheduler, _, _, _, _, _, placing, _⟩
    · have building : buildCandidates request now plane = .ok (plane.cudaEngine.enrichCandidates raw)
          { plane with cacheDirectory := directory } := by
        simp only [buildCandidates, asked]
      obtain ⟨selected, _, same, selects⟩ := chooseCandidate_selects { plane with cacheDirectory := directory }
        request (candidates_ne_nil pools asked) servicer
      rw [choosing] at same
      cases same
      refine ⟨_, _, building, fun candidate member => Bool.eq_false_iff.mpr (fun available => ?_)⟩
      rw [selects.2 ⟨candidate, member, available⟩] at unavailable
      cases unavailable
    · obtain ⟨slotIndex, _, rfl, _, _⟩ := placeRequest_eq_ok placing
      cases rejected
  · rintro ⟨candidates, built, building, full⟩
    obtain ⟨raw, directory, asked, rfl, rfl⟩ := buildCandidates_eq_ok building
    obtain ⟨choice, policy, choosing, selects⟩ := chooseCandidate_selects
      { plane with cacheDirectory := directory } request (candidates_ne_nil pools asked) servicer
    obtain ⟨cluster, pool, chosen⟩ := chosen_of_mem asked selects.1
    obtain ⟨backend, named⟩ := chosen.named
    exact ⟨_, _, execute_rejects building choosing chosen.found named (full choice selects.1), rfl⟩

theorem execute_respects_availability_full_queue :
    let environment : Environment := { sessionEnvironment (emptyStore false) with
      grpcClient := { available := true, stub := fun request => .ok (choosePlacement request) } }
    ∃ plane result final candidates built, create (sessionConfig 1 0 80) environment = .ok plane ∧
      execute (sessionRequest 1000) 0 plane = .ok result final ∧
      result.rejectionReason = some "queue-limit" ∧
      buildCandidates (sessionRequest 1000) 0 plane = .ok candidates built ∧
      ∀ candidate ∈ candidates, candidate.available = false := by
  intro environment
  have evaluated : ∃ plane, create (sessionConfig 1 0 80) environment = .ok plane ∧
      (valueOf (execute (sessionRequest 1000) 0 plane)).map
        (fun result => (result.admitted, result.rejectionReason)) = some (false, some "queue-limit") ∧
      plane.placements.length = 1 ∧ plane.grpcClient = environment.grpcClient :=
    ⟨_, rfl, by decide +kernel, by decide +kernel, rfl⟩
  obtain ⟨plane, created, outcome, count, client⟩ := evaluated
  obtain ⟨result, value, same⟩ := Option.map_eq_some_iff.mp outcome
  obtain ⟨final, returned⟩ := valueOf_eq_some.mp value
  obtain ⟨rejected, reason⟩ := Prod.mk.inj same
  have pools : plane.placements ≠ [] := by
    intro none
    rw [none] at count
    cases count
  obtain ⟨candidates, built, building, full⟩ := (execute_respects_availability plane pools
    (fun _ => by rw [client]) (sessionRequest 1000) 0).1.mp ⟨result, final, returned, rejected⟩
  exact ⟨plane, result, final, candidates, built, created, returned, reason, building, full⟩

end NimbusMesh.ControlPlane
