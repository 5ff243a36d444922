import Mathlib.Tactic.Ring
import NimbusMesh.Foundation.Ranking
import NimbusMesh.Policies.Selection

namespace NimbusMesh

open Foundation Foundation.Ranking

section Repriced

variable (price : ℚ → ℚ)

def ScoreBreakdown.repriced (breakdown : ScoreBreakdown) : ScoreBreakdown :=
  { breakdown with fairnessPenalty := price breakdown.fairnessPenalty }

def CandidatePlacement.repriced (candidate : CandidatePlacement) : CandidatePlacement :=
  { candidate with
    fairnessPenalty := price candidate.fairnessPenalty
    scoreBreakdown := candidate.scoreBreakdown.repriced price }

def RoutingDecision.repriced (decision : RoutingDecision) : RoutingDecision :=
  { decision with
    fairnessPenalty := price decision.fairnessPenalty
    scoreBreakdown := decision.scoreBreakdown.repriced price }

def RequestResult.repriced (result : RequestResult) : RequestResult :=
  { result with decision := result.decision.repriced price }

end Repriced

variable {price : ℚ → ℚ}

open CandidatePlacement

namespace Policy

theorem availableCandidates_repriced (candidates : List CandidatePlacement) :
    availableCandidates (candidates.map (repriced price)) = (availableCandidates candidates).map (repriced price) := by
  have usable : (candidates.map (repriced price)).filter (fun candidate => candidate.available) =
      (candidates.filter (fun candidate => candidate.available)).map (repriced price) := by
    rw [List.filter_map]
    rfl
  unfold availableCandidates
  dsimp only
  rw [usable]
  split
  · rename_i none
    rw [if_pos (List.map_eq_nil_iff.mp none)]
  · rename_i some
    rw [if_neg (fun none => some (by rw [none, List.map_nil]))]

theorem answer_repriced (found : Option CandidatePlacement) (next : CandidatePlacement → Policy)
    (same : ∀ choice : CandidatePlacement, next (choice.repriced price) = next choice) :
    (do let choice ← required (found.map (repriced price)); return (choice, next choice) :
      Except PyError (CandidatePlacement × Policy)) =
    (do let choice ← required found; return (choice, next choice) :
      Except PyError (CandidatePlacement × Policy)).map (fun chosen => (chosen.1.repriced price, chosen.2)) := by
  cases found with
  | none => rfl
  | some choice =>
    change Except.ok (choice.repriced price, next (choice.repriced price)) =
      Except.ok (choice.repriced price, next choice)
    rw [same]

theorem least_repriced {κ : Type} [LinearOrder κ] (key : CandidatePlacement → κ)
    (unpriced : ∀ item : CandidatePlacement, key (item.repriced price) = key item) (next : CandidatePlacement → Policy)
    (same : ∀ choice : CandidatePlacement, next (choice.repriced price) = next choice)
    (usable : List CandidatePlacement) :
    (do let choice ← required ((usable.map (repriced price)).argmin key); return (choice, next choice) :
      Except PyError (CandidatePlacement × Policy)) =
    (do let choice ← required (usable.argmin key); return (choice, next choice) :
      Except PyError (CandidatePlacement × Policy)).map (fun chosen => (chosen.1.repriced price, chosen.2)) := by
  have least : (usable.map (repriced price)).argmin key = (usable.argmin key).map (repriced price) := by
    apply argmin_map
    intro first _ second _
    rw [unpriced, unpriced]
  rw [least]
  exact answer_repriced _ next same

theorem multiObjectiveKey_repriced (request : InferenceRequest) (item : CandidatePlacement) :
    multiObjectiveKey request (item.repriced price) = multiObjectiveKey request item +
      (price item.fairnessPenalty - item.fairnessPenalty) * 110.0 := by
  have moved : ∀ front penalty other weight bonus topology load premium : ℚ,
      front + other * weight - bonus + topology + load + premium =
        front + penalty * weight - bonus + topology + load + premium + (other - penalty) * weight := by
    intros
    ring
  exact moved _ _ _ _ _ _ _ _

theorem choose_repriced (policy : Policy) (request : InferenceRequest) {candidates : List CandidatePlacement}
    {penalty : ℚ} (shared : ∀ candidate ∈ candidates, candidate.fairnessPenalty = penalty) :
    policy.choose request (candidates.map (repriced price)) =
      (policy.choose request candidates).map (fun chosen => (chosen.1.repriced price, chosen.2)) := by
  unfold choose
  dsimp only
  rw [availableCandidates_repriced]
  cases policy with
  | roundRobin cursor =>
    dsimp only
    by_cases none : availableCandidates candidates = []
    · rw [if_pos none, if_pos (by rw [none, List.map_nil])]
      rfl
    · rw [if_neg none, if_neg (fun mapped => none (List.map_eq_nil_iff.mp mapped)), List.length_map,
        List.getElem?_map]
      exact answer_repriced _ (fun _ => .roundRobin (cursor + 1)) (fun _ => rfl)
  | multiObjective =>
    have same : ((availableCandidates candidates).map (repriced price)).argmin (multiObjectiveKey request) =
        ((availableCandidates candidates).argmin (multiObjectiveKey request)).map (repriced price) := by
      apply argmin_map
      intro first left second right
      have penalties := (shared first (selects_of_mem_availableCandidates left).1).trans
        (shared second (selects_of_mem_availableCandidates right).1).symm
      rw [multiObjectiveKey_repriced, multiObjectiveKey_repriced, penalties, add_lt_add_iff_right]
    dsimp only
    rw [same]
    exact answer_repriced _ (fun _ => .multiObjective) (fun _ => rfl)
  | contextualBandit explorationBonus counts value =>
    dsimp only
    rw [argmax_map (repriced price) _ (fun _ _ _ _ => Iff.rfl)]
    exact answer_repriced _ (fun _ => .contextualBandit explorationBonus counts value) (fun _ => rfl)
  | spread poolCounts => exact least_repriced (spreadKey poolCounts) (fun _ => rfl) _ (fun _ => rfl) _
  | leastQueue => exact least_repriced leastQueueKey (fun _ => rfl) (fun _ => .leastQueue) (fun _ => rfl) _
  | topologyGreedy => exact least_repriced topologyGreedyKey (fun _ => rfl) (fun _ => .topologyGreedy) (fun _ => rfl) _
  | cacheAware => exact least_repriced cacheAwareKey (fun _ => rfl) (fun _ => .cacheAware) (fun _ => rfl) _
  | sb3Placeholder =>
    exact least_repriced estimatedTotalLatencyMs (fun _ => rfl) (fun _ => .sb3Placeholder) (fun _ => rfl) _
  | gnnPlaceholder => exact least_repriced gnnKey (fun _ => rfl) (fun _ => .gnnPlaceholder) (fun _ => rfl) _
  | pygPlaceholder => exact least_repriced pygKey (fun _ => rfl) (fun _ => .pygPlaceholder) (fun _ => rfl) _

end Policy

def Best.shift (best : Best) (amount : ℚ) : Best :=
  { best with score := best.score.map (fun score => score + amount) }

theorem Best.offer_shift (best : Best) (index : ℤ) (score amount : ℚ) :
    (best.shift amount).offer index (score + amount) = (best.offer index score).shift amount := by
  obtain ⟨leader, leading⟩ := best
  cases leading with
  | none => rfl
  | some leading =>
    simp only [Best.shift, Best.offer, Option.map_some, add_lt_add_iff_right]
    split <;> rfl

theorem bestFrom_repriced {β : Type} (view : CandidatePlacement → β) {skip : β → Bool} {score : β → ℚ}
    (skips : ∀ item : CandidatePlacement, skip (view (item.repriced price)) = skip (view item)) {amount : ℚ}
    {items : List CandidatePlacement}
    (scores : ∀ item ∈ items, score (view (item.repriced price)) = score (view item) + amount)
    (index : ℤ) (best : Best) :
    bestFrom skip score ((items.map (repriced price)).map view) index (best.shift amount) =
      (bestFrom skip score (items.map view) index best).shift amount := by
  induction items generalizing index best with
  | nil => rfl
  | cons item rest ih =>
    have later := ih (fun other member => scores other (by simp [member]))
    simp only [List.map_cons, bestFrom, skips item, scores item (by simp), Best.offer_shift, ← later]
    split <;> rfl

theorem penalty_moved (front penalty other weight cache topology : ℚ) :
    front + other * weight - cache - topology =
      front + penalty * weight - cache - topology + (other - penalty) * weight := by
  ring

theorem CoreCandidate.score_repriced (priority : ℤ) (item : CandidatePlacement) :
    CoreCandidate.score priority (.ofPlacement (item.repriced price)) =
      CoreCandidate.score priority (.ofPlacement item) +
        (price item.fairnessPenalty - item.fairnessPenalty) * 120.0 := by
  exact penalty_moved _ _ _ _ _ _

theorem GrpcCandidate.score_repriced (sla : SlaClass) (item : CandidatePlacement) :
    GrpcCandidate.score sla (.ofPlacement (item.repriced price)) =
      GrpcCandidate.score sla (.ofPlacement item) +
        (price item.fairnessPenalty - item.fairnessPenalty) * 110.0 := by
  exact penalty_moved _ _ _ _ _ _

section Shared

variable {candidates : List CandidatePlacement} {penalty : ℚ}

theorem chooseCandidate_repriced (priority : ℤ)
    (shared : ∀ candidate ∈ candidates, candidate.fairnessPenalty = penalty) :
    chooseCandidate ((candidates.map (repriced price)).map CoreCandidate.ofPlacement) priority =
      chooseCandidate (candidates.map CoreCandidate.ofPlacement) priority := by
  cases candidates with
  | nil => rfl
  | cons first rest =>
    have scored := @bestFrom_repriced price _ CoreCandidate.ofPlacement (fun item => item.available = 0)
      (CoreCandidate.score priority) (fun _ => rfl) ((price penalty - penalty) * 120.0) (first :: rest)
      (fun item member => by rw [CoreCandidate.score_repriced, shared item member]) 0 ⟨-1, none⟩
    have fallback := @bestFrom_repriced price _ CoreCandidate.ofPlacement (fun _ => false)
      CoreCandidate.estimatedLatency (fun _ => rfl) 0 rest
      (fun item _ => (add_zero (CoreCandidate.ofPlacement item).estimatedLatency).symm) 1
      ⟨0, some (CoreCandidate.ofPlacement first).estimatedLatency⟩
    have unmoved : Best.shift ⟨0, some (CoreCandidate.ofPlacement first).estimatedLatency⟩ 0 =
        ⟨0, some (CoreCandidate.ofPlacement first).estimatedLatency⟩ := by simp [Best.shift]
    rw [unmoved] at fallback
    have scoredIndex := congrArg Best.index scored
    have fallbackIndex := congrArg Best.index fallback
    simp only [List.map_cons] at scoredIndex ⊢
    simp only [chooseCandidate]
    change (if 0 ≤ (bestFrom _ _ _ 0 (Best.shift ⟨-1, none⟩ ((price penalty - penalty) * 120.0))).index then
      (bestFrom _ _ _ 0 (Best.shift ⟨-1, none⟩ ((price penalty - penalty) * 120.0))).index else _) = _
    rw [scoredIndex]
    split
    · rename_i found
      exact (if_pos found).symm
    · rename_i missing
      exact fallbackIndex.trans (if_neg missing).symm

theorem CppSchedulerCore.choose_repriced (core : CppSchedulerCore) (request : InferenceRequest)
    (shared : ∀ candidate ∈ candidates, candidate.fairnessPenalty = penalty) :
    core.choose request (candidates.map (repriced price)) = core.choose request candidates := by
  unfold CppSchedulerCore.choose
  rw [chooseCandidate_repriced _ shared, List.length_map]
  by_cases none : ¬ core.available ∨ candidates = []
  · rw [if_pos none, if_pos (none.imp_right (fun empty => by rw [empty, List.map_nil]))]
  · rw [if_neg none, if_neg (fun mapped => none (mapped.imp_right List.map_eq_nil_iff.mp))]

theorem choosePlacement_repriced (request : InferenceRequest)
    (shared : ∀ candidate ∈ candidates, candidate.fairnessPenalty = penalty) :
    (choosePlacement (placementRequest request (candidates.map (repriced price)))).chosenIndex =
      (choosePlacement (placementRequest request candidates)).chosenIndex := by
  have scored := @bestFrom_repriced price _ GrpcCandidate.ofPlacement (fun candidate => !candidate.available)
    (GrpcCandidate.score request.slaClass) (fun _ => rfl) ((price penalty - penalty) * 110.0) candidates
    (fun item member => by rw [GrpcCandidate.score_repriced, shared item member]) 0 ⟨0, none⟩
  have index := congrArg Best.index scored
  unfold choosePlacement
  simp only [placementRequest, List.isEmpty_map]
  split
  · rfl
  · exact index

end Shared

end NimbusMesh
