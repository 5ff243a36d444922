import Mathlib.Tactic.NormNum
import Mathlib.Tactic.NormNum.OfScientific
import Mathlib.Tactic.Ring
import NimbusMesh.Cache.Calls
import NimbusMesh.Policies.Selection

namespace NimbusMesh

open Foundation.Ranking

section Weights

def sharedScore (sla : SlaClass) (candidate : CandidatePlacement) : ℚ :=
  let latencyWeight : ℚ := if sla = .realtime then 1.5 else if sla = .interactive then 1.1 else 0.8
  let costWeight : ℚ := if sla = .realtime then 0.2 else 0.6
  candidate.estimatedTotalLatencyMs * latencyWeight + candidate.queueDelayMs * 0.1 + candidate.networkCost * 18.0
    + candidate.acceleratorCostPer1mTokens * costWeight - candidate.expectedCacheHitRatio * 450.0

theorem coreScore_eq (sla : SlaClass) (candidate : CandidatePlacement) :
    CoreCandidate.score (slaPriority sla) (.ofPlacement candidate) =
      sharedScore sla candidate + 120 * candidate.fairnessPenalty - 90 * candidate.topologyAffinity := by
  cases sla
  all_goals
    simp only [CoreCandidate.score, CoreCandidate.ofPlacement, sharedScore, slaPriority, reduceCtorEq, if_true,
      if_false]
    norm_num
    ring

theorem grpcScore_eq (sla : SlaClass) (candidate : CandidatePlacement) :
    GrpcCandidate.score sla (.ofPlacement candidate) =
      sharedScore sla candidate + 110 * candidate.fairnessPenalty - 85 * candidate.topologyAffinity := by
  norm_num [GrpcCandidate.score, GrpcCandidate.ofPlacement, sharedScore]
  ring

end Weights

section Agreement

/-- One candidate is at least as good as another by the weights of the core (120 and 90) and by those of
    the service (110 and 85). -/
def Leads (sla : SlaClass) (leader other : CandidatePlacement) : Prop :=
  let lead := sharedScore sla other - sharedScore sla leader
  let fairness := other.fairnessPenalty - leader.fairnessPenalty
  let topology := other.topologyAffinity - leader.topologyAffinity
  90 * topology ≤ lead + 120 * fairness ∧ 85 * topology ≤ lead + 110 * fairness

def Beats (sla : SlaClass) (leader other : CandidatePlacement) : Prop :=
  let lead := sharedScore sla other - sharedScore sla leader
  let fairness := other.fairnessPenalty - leader.fairnessPenalty
  let topology := other.topologyAffinity - leader.topologyAffinity
  90 * topology < lead + 120 * fairness ∧ 85 * topology < lead + 110 * fairness

/-- Some available candidate leads all available ones and beats the earlier of them; or none is available
    and no candidate has a lower latency than the first. -/
def Concordant (sla : SlaClass) (candidates : List CandidatePlacement) : Prop :=
  (∃ (k : ℕ) (leader : CandidatePlacement), candidates[k]? = some leader ∧ leader.available = true ∧
    ∀ (j : ℕ) (other : CandidatePlacement), candidates[j]? = some other → other.available = true →
      Leads sla leader other ∧ (j < k → Beats sla leader other)) ∨
  ((∀ candidate ∈ candidates, candidate.available = false) ∧
    ∀ first ∈ candidates.head?, ∀ candidate ∈ candidates,
      first.estimatedTotalLatencyMs ≤ candidate.estimatedTotalLatencyMs)

theorem leads_iff {sla : SlaClass} {leader other : CandidatePlacement} :
    Leads sla leader other ↔
      CoreCandidate.score (slaPriority sla) (.ofPlacement leader) ≤
        CoreCandidate.score (slaPriority sla) (.ofPlacement other) ∧
      GrpcCandidate.score sla (.ofPlacement leader) ≤ GrpcCandidate.score sla (.ofPlacement other) := by
  rw [coreScore_eq, coreScore_eq, grpcScore_eq, grpcScore_eq, Leads]
  constructor <;> intro both <;> constructor <;> linarith [both.1, both.2]

theorem beats_iff {sla : SlaClass} {leader other : CandidatePlacement} :
    Beats sla leader other ↔
      CoreCandidate.score (slaPriority sla) (.ofPlacement leader) <
        CoreCandidate.score (slaPriority sla) (.ofPlacement other) ∧
      GrpcCandidate.score sla (.ofPlacement leader) < GrpcCandidate.score sla (.ofPlacement other) := by
  rw [coreScore_eq, coreScore_eq, grpcScore_eq, grpcScore_eq, Beats]
  constructor <;> intro both <;> constructor <;> linarith [both.1, both.2]

variable {candidates : List CandidatePlacement}

theorem concordant_available (sla : SlaClass) (usable : ∃ candidate ∈ candidates, candidate.available = true) :
    Concordant sla candidates ↔ ∃ k,
      FirstLeast (fun candidate => !candidate.available)
        (fun candidate => CoreCandidate.score (slaPriority sla) (.ofPlacement candidate)) candidates k ∧
      FirstLeast (fun candidate => !candidate.available)
        (fun candidate => GrpcCandidate.score sla (.ofPlacement candidate)) candidates k := by
  constructor
  · rintro (⟨k, leader, at_k, available, leads⟩ | ⟨full, _⟩)
    · refine ⟨k, ⟨leader, at_k, by simp [available], ?_⟩, ⟨leader, at_k, by simp [available], ?_⟩⟩
      all_goals
        intro j other at_j used
        obtain ⟨behind, earlier⟩ := leads j other at_j (by simpa using used)
      · exact ⟨(leads_iff.mp behind).1, fun before => (beats_iff.mp (earlier before)).1⟩
      · exact ⟨(leads_iff.mp behind).2, fun before => (beats_iff.mp (earlier before)).2⟩
    · obtain ⟨candidate, member, available⟩ := usable
      rw [full candidate member] at available
      cases available
  · rintro ⟨k, ⟨leader, at_k, used, byCore⟩, ⟨same, at_same, _, byGrpc⟩⟩
    cases at_k.symm.trans at_same
    refine .inl ⟨k, leader, at_k, by simpa using used, ?_⟩
    intro j other at_j available
    have core := byCore j other at_j (by simp [available])
    have grpc := byGrpc j other at_j (by simp [available])
    exact ⟨leads_iff.mpr ⟨core.1, grpc.1⟩, fun before => beats_iff.mpr ⟨core.2 before, grpc.2 before⟩⟩

theorem concordant_unavailable (sla : SlaClass) (nonempty : candidates ≠ [])
    (full : ∀ candidate ∈ candidates, candidate.available = false) :
    Concordant sla candidates ↔
      FirstLeast (fun _ => false) CandidatePlacement.estimatedTotalLatencyMs candidates 0 := by
  obtain ⟨first, rest, rfl⟩ := List.exists_cons_of_ne_nil nonempty
  constructor
  · rintro (⟨k, leader, at_k, available, _⟩ | ⟨_, lowest⟩)
    · rw [full leader (List.mem_of_getElem? at_k)] at available
      cases available
    · exact firstLeast_here rfl (fun other member _ => lowest first rfl other (by simp [member]))
  · rintro ⟨leader, at_zero, _, lowest⟩
    cases at_zero
    refine .inr ⟨full, ?_⟩
    rintro _ ⟨⟩ candidate member
    obtain ⟨j, at_j⟩ := List.mem_iff_getElem?.mp member
    exact (lowest j candidate at_j rfl).1

/-- The C++ core and the repository's gRPC service choose the same index exactly for the concordant
    lists: they weigh the fairness penalty and the topology affinity differently, and fall back
    differently when nothing is available. -/
theorem selectors_agree_iff (core : CppSchedulerCore) (client : GrpcSchedulerClient) (request : InferenceRequest)
    (candidates : List CandidatePlacement) (loaded : core.available = true) (connected : client.available = true)
    (served : ∀ placement, client.stub placement = .ok (choosePlacement placement)) (nonempty : candidates ≠ []) :
    client.choose request candidates = .ok (core.choose request candidates) ↔
      Concordant request.slaClass candidates := by
  have remote : client.choose request candidates =
      .ok (validIndex (choosePlacement (placementRequest request candidates)).chosenIndex candidates.length) := by
    simp [GrpcSchedulerClient.choose, connected, served, Bind.bind, Except.bind, Pure.pure, Except.pure]
  rw [remote]
  by_cases usable : ∃ candidate ∈ candidates, candidate.available = true
  · obtain ⟨byCore, chosenCore, leastCore⟩ := CppSchedulerCore.choose_firstLeast loaded request usable
    obtain ⟨byGrpc, chosenGrpc, leastGrpc⟩ := choosePlacement_firstLeast request usable
    rw [chosenCore, chosenGrpc, concordant_available request.slaClass usable]
    constructor
    · rintro ⟨⟩
      exact ⟨byCore, leastCore, leastGrpc⟩
    · rintro ⟨k, core, grpc⟩
      rw [leastCore.unique core, leastGrpc.unique grpc]
  · have full := none_available usable
    obtain ⟨byCore, chosenCore, leastCore⟩ := CppSchedulerCore.choose_fallback loaded request nonempty full
    rw [chosenCore, choosePlacement_fallback request nonempty full, concordant_unavailable _ nonempty full]
    constructor
    · rintro ⟨⟩
      exact leastCore
    · intro least
      rw [leastCore.unique least]

def offeredPool (poolId : String) (projectedDecodeMs topologyAffinity : ℚ) (available : Bool) : CandidatePlacement where
  clusterId := "c1"
  poolId
  backendName := "mock"
  acceleratorType := "a100"
  queueDelayMs := 0
  projectedPrefillMs := 50
  projectedDecodeMs
  expectedCacheHitRatio := 0
  expectedCacheSavedTokens := 0
  topologyAffinity
  networkCost := 1
  congestionScore := 0
  memoryHeadroomGb := 64
  acceleratorCostPer1mTokens := 1
  fairnessPenalty := 0
  premium := false
  available
  rejectionReason := if available then none else some "queue-limit"
  scoreBreakdown := {
    queueDelayMs := 0, cacheHitRatio := 0, topologyAffinity, networkCost := 1
    congestionScore := 0, memoryHeadroomGb := 64, fairnessPenalty := 0 }

/-- The weights part a close pair of candidates, and the fallbacks part two full pools. -/
theorem selectors_disagree :
    let core : CppSchedulerCore := ⟨true⟩
    let client : GrpcSchedulerClient := ⟨true, fun placement => .ok (choosePlacement placement)⟩
    let mixed := [offeredPool "p1" 100 0 true, offeredPool "p2" 180 1 true]
    let full := [offeredPool "p1" 100 0 false, offeredPool "p2" 90 0 false]
    (core.choose (sessionRequest 900) mixed = some 1 ∧ client.choose (sessionRequest 900) mixed = .ok (some 0)) ∧
      core.choose (sessionRequest 900) full = some 1 ∧ client.choose (sessionRequest 900) full = .ok (some 0) := by
  decide +kernel

theorem selectors_agree_iff_close :
    let core : CppSchedulerCore := ⟨true⟩
    let client : GrpcSchedulerClient := ⟨true, fun placement => .ok (choosePlacement placement)⟩
    let close := [offeredPool "p1" 100 0 true, offeredPool "p2" 120 1 true]
    client.choose (sessionRequest 900) close = .ok (core.choose (sessionRequest 900) close) ∧
      Concordant (sessionRequest 900).slaClass close := by
  intro core client close
  have same : client.choose (sessionRequest 900) close = .ok (core.choose (sessionRequest 900) close) := by
    decide +kernel
  exact ⟨same, (selectors_agree_iff core client (sessionRequest 900) close rfl rfl (fun _ => rfl)
    (List.cons_ne_nil _ _)).mp same⟩

end Agreement

end NimbusMesh
