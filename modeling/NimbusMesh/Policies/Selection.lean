import Mathlib.Tactic.Ring
import NimbusMesh.Foundation.Execution
import NimbusMesh.Foundation.Ranking
import NimbusMesh.Policies.Accelerated
import NimbusMesh.Policies.Registry

namespace NimbusMesh

open Foundation Foundation.Execution Foundation.Ranking

/-- A selector respects availability: it picks a candidate, and an available one if there is any. -/
def Selects (candidates : List CandidatePlacement) (choice : CandidatePlacement) : Prop :=
  choice ∈ candidates ∧ ((∃ candidate ∈ candidates, candidate.available = true) → choice.available = true)

namespace Policy

theorem required_eq_ok {choice : Option CandidatePlacement} {candidate : CandidatePlacement}
    (returned : required choice = .ok candidate) : choice = some candidate := by
  cases choice with
  | none => cases returned
  | some found => cases returned; rfl

theorem choose_mem {policy next : Policy} {request : InferenceRequest}
    {candidates : List CandidatePlacement} {choice : CandidatePlacement}
    (returned : policy.choose request candidates = .ok (choice, next)) :
    choice ∈ availableCandidates candidates := by
  unfold choose at returned
  cases policy with
  | roundRobin cursor =>
    simp only at returned
    split at returned
    · cases returned
    · obtain ⟨picked, found, same⟩ := except_bind_eq_ok.mp returned
      cases same
      exact List.mem_of_getElem? (required_eq_ok found)
  | contextualBandit explorationBonus counts value =>
    obtain ⟨picked, found, same⟩ := except_bind_eq_ok.mp returned
    cases same
    exact List.argmax_mem (required_eq_ok found)
  | _ =>
    obtain ⟨picked, found, same⟩ := except_bind_eq_ok.mp returned
    cases same
    exact List.argmin_mem (required_eq_ok found)

theorem selects_of_mem_availableCandidates {candidates : List CandidatePlacement}
    {choice : CandidatePlacement} (member : choice ∈ availableCandidates candidates) :
    Selects candidates choice := by
  simp only [availableCandidates] at member
  split at member
  · rename_i none
    refine ⟨member, fun some => ?_⟩
    obtain ⟨candidate, inside, usable⟩ := some
    have kept : candidate ∈ candidates.filter (fun candidate => candidate.available) :=
      List.mem_filter.mpr ⟨inside, usable⟩
    rw [none] at kept
    exact absurd kept List.not_mem_nil
  · obtain ⟨inside, usable⟩ := List.mem_filter.mp member
    exact ⟨inside, fun _ => usable⟩

theorem availableCandidates_ne_nil {candidates : List CandidatePlacement} (nonempty : candidates ≠ []) :
    availableCandidates candidates ≠ [] := by
  simp only [availableCandidates]
  split
  · exact nonempty
  · rename_i usable
    exact usable

theorem choose_returns (policy : Policy) (request : InferenceRequest)
    {candidates : List CandidatePlacement} (nonempty : candidates ≠ []) :
    ∃ choice next, policy.choose request candidates = .ok (choice, next) := by
  have usable := availableCandidates_ne_nil nonempty
  have answered : ∀ {found : Option CandidatePlacement} (next : CandidatePlacement → Policy),
      found ≠ none → ∃ choice policy,
        (do let choice ← required found; return (choice, next choice)) = .ok (choice, policy) := by
    intro found next present
    obtain ⟨choice, rfl⟩ := Option.ne_none_iff_exists'.mp present
    exact ⟨choice, next choice, rfl⟩
  unfold choose
  cases policy with
  | roundRobin cursor =>
    have count := Int.natCast_pos.mpr (List.length_pos_iff.mpr usable)
    have bound : (cursor % (availableCandidates candidates).length).toNat <
        (availableCandidates candidates).length := by
      have upper := Int.emod_lt_of_pos cursor count
      have lower := Int.emod_nonneg cursor count.ne'
      omega
    simp only [usable, if_false]
    exact answered _ (by simp [List.getElem?_eq_getElem bound])
  | contextualBandit explorationBonus counts value =>
    exact answered _ (mt List.argmax_eq_none.mp usable)
  | spread poolCounts => exact answered _ (mt List.argmin_eq_none.mp usable)
  | _ => exact answered _ (mt List.argmin_eq_none.mp usable)

end Policy

section Loop

variable {α : Type}

theorem offset_succ (index : ℤ) (k : ℕ) : index + 1 + k = index + (k + 1 : ℕ) := by
  push_cast
  ring

theorem bestFrom_leading (skip : α → Bool) (score : α → ℚ) (items : List α) (index start : ℤ) (leading : ℚ) :
    ((bestFrom skip score items index ⟨start, some leading⟩).index = start ∧
      ∀ other ∈ items, skip other = false → leading ≤ score other) ∨
    ∃ (k : ℕ) (item : α), (bestFrom skip score items index ⟨start, some leading⟩).index = index + k ∧
      items[k]? = some item ∧ score item < leading ∧ FirstLeast skip score items k := by
  induction items generalizing index start leading with
  | nil => exact .inl ⟨rfl, by simp⟩
  | cons item rest ih =>
    simp only [bestFrom]
    cases skipped : skip item with
    | true =>
      rw [if_pos rfl]
      rcases ih (index + 1) start leading with ⟨same, above⟩ | ⟨k, found, reached, at_k, below, least⟩
      · refine .inl ⟨same, ?_⟩
        intro other member used
        rcases List.mem_cons.mp member with rfl | later
        · rw [skipped] at used
          cases used
        · exact above other later used
      · refine .inr ⟨k + 1, found, ?_, at_k, below, least.later (fun used => ?_)⟩
        · exact reached.trans (offset_succ index k)
        · rw [skipped] at used
          cases used
    | false =>
      rw [if_neg Bool.false_ne_true, Best.offer]
      dsimp only
      split
      · rename_i lower
        rcases ih (index + 1) index (score item) with ⟨same, above⟩ | ⟨k, found, reached, at_k, below, least⟩
        · refine .inr ⟨0, item, by rw [same]; simp, rfl, lower, firstLeast_here skipped above⟩
        · refine .inr ⟨k + 1, found, ?_, at_k, below.trans lower, least.later (fun _ other named => ?_)⟩
          · exact reached.trans (offset_succ index k)
          · cases at_k.symm.trans named
            exact below
      · rename_i higher
        rcases ih (index + 1) start leading with ⟨same, above⟩ | ⟨k, found, reached, at_k, below, least⟩
        · refine .inl ⟨same, ?_⟩
          intro other member used
          rcases List.mem_cons.mp member with rfl | later
          · exact not_lt.mp higher
          · exact above other later used
        · refine .inr ⟨k + 1, found, ?_, at_k, below, least.later (fun _ other named => ?_)⟩
          · exact reached.trans (offset_succ index k)
          · cases at_k.symm.trans named
            exact below.trans_le (not_lt.mp higher)

theorem bestFrom_firstLeast (skip : α → Bool) (score : α → ℚ) {items : List α}
    (usable : ∃ item ∈ items, skip item = false) (index start : ℤ) :
    ∃ k : ℕ, (bestFrom skip score items index ⟨start, none⟩).index = index + k ∧ FirstLeast skip score items k := by
  induction items generalizing index with
  | nil =>
    obtain ⟨_, member, _⟩ := usable
    cases member
  | cons item rest ih =>
    simp only [bestFrom]
    cases skipped : skip item with
    | true =>
      have later : ∃ item ∈ rest, skip item = false := by
        obtain ⟨found, member, kept⟩ := usable
        rcases List.mem_cons.mp member with rfl | member
        · rw [skipped] at kept
          cases kept
        · exact ⟨found, member, kept⟩
      obtain ⟨k, reached, least⟩ := ih later (index + 1)
      rw [if_pos rfl]
      refine ⟨k + 1, ?_, least.later (fun used => ?_)⟩
      · exact reached.trans (offset_succ index k)
      · rw [skipped] at used
        cases used
    | false =>
      rw [if_neg Bool.false_ne_true, Best.offer]
      dsimp only
      rcases bestFrom_leading skip score rest (index + 1) index (score item) with
        ⟨same, above⟩ | ⟨k, found, reached, at_k, below, least⟩
      · exact ⟨0, by rw [same]; simp, firstLeast_here skipped above⟩
      · refine ⟨k + 1, ?_, least.later (fun _ other named => ?_)⟩
        · exact reached.trans (offset_succ index k)
        · cases at_k.symm.trans named
          exact below

theorem bestFrom_skips (skip : α → Bool) (score : α → ℚ) {items : List α} (none : ∀ item ∈ items, skip item = true)
    (index : ℤ) (best : Best) : bestFrom skip score items index best = best := by
  induction items generalizing index with
  | nil => rfl
  | cons item rest ih =>
    simp only [bestFrom, none item (by simp), if_true]
    exact ih (fun other member => none other (by simp [member])) (index + 1)

end Loop

theorem validIndex_natCast {k count : ℕ} (bound : k < count) : validIndex (k : ℤ) count = some k := by
  unfold validIndex
  rw [if_neg (by omega)]
  simp

theorem validIndex_eq_some {chosen : ℤ} {count k : ℕ} (valid : validIndex chosen count = some k) : k < count := by
  unfold validIndex at valid
  split at valid
  · cases valid
  · cases valid
    omega

theorem GrpcSchedulerClient.choose_bound {client : GrpcSchedulerClient} {request : InferenceRequest}
    {candidates : List CandidatePlacement} {index : ℕ}
    (chosen : client.choose request candidates = .ok (some index)) : index < candidates.length := by
  unfold GrpcSchedulerClient.choose at chosen
  split at chosen
  · obtain ⟨response, _, valid⟩ := except_bind_eq_ok.mp chosen
    exact validIndex_eq_some (Except.ok.inj valid)
  · cases chosen

theorem GrpcSchedulerClient.choose_off {client : GrpcSchedulerClient} (off : client.available = false)
    (request : InferenceRequest) (candidates : List CandidatePlacement) :
    client.choose request candidates = .ok none := by
  simp [GrpcSchedulerClient.choose, off, Pure.pure, Except.pure]

theorem CppSchedulerCore.choose_bound {core : CppSchedulerCore} {request : InferenceRequest}
    {candidates : List CandidatePlacement} {index : ℕ}
    (chosen : core.choose request candidates = some index) : index < candidates.length := by
  unfold CppSchedulerCore.choose at chosen
  split at chosen
  · cases chosen
  · exact validIndex_eq_some chosen

section Choices

variable {candidates : List CandidatePlacement}

theorem CppSchedulerCore.choose_firstLeast {core : CppSchedulerCore} (loaded : core.available = true)
    (request : InferenceRequest) (usable : ∃ candidate ∈ candidates, candidate.available = true) :
    ∃ k, core.choose request candidates = some k ∧ FirstLeast (fun candidate => !candidate.available)
      (fun candidate => CoreCandidate.score (slaPriority request.slaClass) (.ofPlacement candidate)) candidates k := by
  obtain ⟨candidate, member, available⟩ := usable
  have skips : (fun candidate : CandidatePlacement =>
      decide ((CoreCandidate.ofPlacement candidate).available = 0)) = fun candidate => !candidate.available := by
    funext candidate
    cases flag : candidate.available <;> simp [CoreCandidate.ofPlacement, flag]
  have used : ∃ item ∈ candidates.map CoreCandidate.ofPlacement, decide (item.available = 0) = false := by
    refine ⟨_, List.mem_map_of_mem member, ?_⟩
    rw [congrFun skips candidate, available]
    rfl
  obtain ⟨k, reached, least⟩ := bestFrom_firstLeast (fun item : CoreCandidate => decide (item.available = 0))
    (CoreCandidate.score (slaPriority request.slaClass)) used 0 (-1)
  rw [firstLeast_map, skips] at least
  have bound : k < candidates.length := by
    obtain ⟨_, at_k, _⟩ := least
    exact (List.getElem?_eq_some_iff.mp at_k).1
  refine ⟨k, ?_, least⟩
  obtain ⟨first, rest, rfl⟩ := List.exists_cons_of_ne_nil (List.ne_nil_of_mem member)
  rw [CppSchedulerCore.choose, if_neg (by simp [loaded])]
  simp only [List.map_cons, chooseCandidate] at reached ⊢
  rw [if_pos (by omega), reached, zero_add, validIndex_natCast bound]

theorem CppSchedulerCore.choose_fallback {core : CppSchedulerCore} (loaded : core.available = true)
    (request : InferenceRequest) (nonempty : candidates ≠ [])
    (full : ∀ candidate ∈ candidates, candidate.available = false) :
    ∃ k, core.choose request candidates = some k ∧
      FirstLeast (fun _ => false) CandidatePlacement.estimatedTotalLatencyMs candidates k := by
  obtain ⟨first, rest, rfl⟩ := List.exists_cons_of_ne_nil nonempty
  have skipped : bestFrom (fun item : CoreCandidate => decide (item.available = 0))
      (CoreCandidate.score (slaPriority request.slaClass)) ((first :: rest).map .ofPlacement) 0 ⟨-1, none⟩ =
        ⟨-1, none⟩ := by
    apply bestFrom_skips
    intro item member
    obtain ⟨candidate, inside, rfl⟩ := List.mem_map.mp member
    simp [CoreCandidate.ofPlacement, full candidate inside]
  have chosen : core.choose request (first :: rest) = validIndex (bestFrom (fun _ => false)
      CoreCandidate.estimatedLatency (rest.map .ofPlacement) 1
      ⟨0, some first.estimatedTotalLatencyMs⟩).index (rest.length + 1) := by
    rw [CppSchedulerCore.choose, if_neg (by simp [loaded])]
    simp only [List.map_cons, chooseCandidate] at skipped ⊢
    rw [skipped, if_neg (by decide)]
    rfl
  rcases bestFrom_leading (fun _ => false) CoreCandidate.estimatedLatency
    (rest.map .ofPlacement) 1 0 first.estimatedTotalLatencyMs with
    ⟨same, above⟩ | ⟨k, item, reached, at_k, below, least⟩
  · refine ⟨0, ?_, firstLeast_here rfl (fun other member _ => above _ (List.mem_map_of_mem member) rfl)⟩
    rw [chosen, same]
    exact validIndex_natCast (Nat.succ_pos _)
  · rw [firstLeast_map] at least
    rw [List.getElem?_map] at at_k
    obtain ⟨other, found, rfl⟩ := Option.map_eq_some_iff.mp at_k
    refine ⟨k + 1, ?_, least.later (fun _ named at_k => ?_)⟩
    · have bound := (List.getElem?_eq_some_iff.mp found).1
      rw [chosen, reached]
      exact (congrArg (validIndex · _) (by push_cast; ring)).trans (validIndex_natCast (Nat.succ_lt_succ bound))
    · cases found.symm.trans at_k
      exact below

theorem choosePlacement_firstLeast (request : InferenceRequest)
    (usable : ∃ candidate ∈ candidates, candidate.available = true) :
    ∃ k, validIndex (choosePlacement (placementRequest request candidates)).chosenIndex candidates.length = some k ∧
      FirstLeast (fun candidate => !candidate.available)
        (fun candidate => GrpcCandidate.score request.slaClass (.ofPlacement candidate)) candidates k := by
  obtain ⟨candidate, member, available⟩ := usable
  have used : ∃ item ∈ candidates.map GrpcCandidate.ofPlacement, (!item.available) = false := by
    refine ⟨_, List.mem_map_of_mem member, ?_⟩
    simp [GrpcCandidate.ofPlacement, available]
  obtain ⟨k, reached, least⟩ := bestFrom_firstLeast (fun item : GrpcCandidate => !item.available)
    (GrpcCandidate.score request.slaClass) used 0 0
  rw [firstLeast_map] at least
  have bound : k < candidates.length := by
    obtain ⟨_, at_k, _⟩ := least
    exact (List.getElem?_eq_some_iff.mp at_k).1
  have guard : (candidates.map GrpcCandidate.ofPlacement).isEmpty = false := by
    simp [List.ne_nil_of_mem member]
  refine ⟨k, ?_, least⟩
  simp only [choosePlacement, placementRequest, guard, Bool.false_eq_true, if_false]
  rw [reached, zero_add, validIndex_natCast bound]

theorem choosePlacement_fallback (request : InferenceRequest) (nonempty : candidates ≠ [])
    (full : ∀ candidate ∈ candidates, candidate.available = false) :
    validIndex (choosePlacement (placementRequest request candidates)).chosenIndex candidates.length = some 0 := by
  have guard : (candidates.map GrpcCandidate.ofPlacement).isEmpty = false := by simp [nonempty]
  have skipped : bestFrom (fun candidate : GrpcCandidate => !candidate.available)
      (GrpcCandidate.score request.slaClass) (candidates.map .ofPlacement) 0 ⟨0, none⟩ = ⟨0, none⟩ := by
    apply bestFrom_skips
    intro item member
    obtain ⟨candidate, inside, rfl⟩ := List.mem_map.mp member
    simp [GrpcCandidate.ofPlacement, full candidate inside]
  simp only [choosePlacement, placementRequest, guard, Bool.false_eq_true, if_false]
  rw [skipped]
  exact validIndex_natCast (List.length_pos_iff.mpr nonempty)

end Choices

theorem none_available {candidates : List CandidatePlacement}
    (usable : ¬ ∃ candidate ∈ candidates, candidate.available = true) :
    ∀ candidate ∈ candidates, candidate.available = false :=
  fun candidate member => Bool.eq_false_iff.mpr (fun available => usable ⟨candidate, member, available⟩)

def SelectsIndex (candidates : List CandidatePlacement) (chosen : Option ℕ) : Prop :=
  ∃ index choice, chosen = some index ∧ candidates[index]? = some choice ∧ Selects candidates choice

theorem selects_available {candidates : List CandidatePlacement} {choice : CandidatePlacement}
    (member : choice ∈ candidates) (available : choice.available = true) : Selects candidates choice :=
  ⟨member, fun _ => available⟩

theorem selects_unavailable {candidates : List CandidatePlacement} {choice : CandidatePlacement}
    (member : choice ∈ candidates) (full : ∀ candidate ∈ candidates, candidate.available = false) :
    Selects candidates choice := by
  refine ⟨member, fun some => ?_⟩
  obtain ⟨candidate, inside, usable⟩ := some
  rw [full candidate inside] at usable
  cases usable

theorem CppSchedulerCore.choose_selects (core : CppSchedulerCore) (request : InferenceRequest)
    {candidates : List CandidatePlacement} (loaded : core.available = true) (nonempty : candidates ≠ []) :
    SelectsIndex candidates (core.choose request candidates) := by
  by_cases usable : ∃ candidate ∈ candidates, candidate.available = true
  · obtain ⟨k, chosen, choice, found, kept, _⟩ := CppSchedulerCore.choose_firstLeast loaded request usable
    exact ⟨k, choice, chosen, found, selects_available (List.mem_of_getElem? found) (by simpa using kept)⟩
  · have full := none_available usable
    obtain ⟨k, chosen, choice, found, _⟩ := CppSchedulerCore.choose_fallback loaded request nonempty full
    exact ⟨k, choice, chosen, found, selects_unavailable (List.mem_of_getElem? found) full⟩

theorem choosePlacement_selects (request : InferenceRequest) {candidates : List CandidatePlacement}
    (nonempty : candidates ≠ []) :
    SelectsIndex candidates
      (validIndex (choosePlacement (placementRequest request candidates)).chosenIndex candidates.length) := by
  by_cases usable : ∃ candidate ∈ candidates, candidate.available = true
  · obtain ⟨k, chosen, choice, found, kept, _⟩ := choosePlacement_firstLeast request usable
    exact ⟨k, choice, chosen, found, selects_available (List.mem_of_getElem? found) (by simpa using kept)⟩
  · have full := none_available usable
    have chosen := choosePlacement_fallback request nonempty full
    obtain ⟨first, rest, rfl⟩ := List.exists_cons_of_ne_nil nonempty
    exact ⟨0, first, chosen, rfl, selects_unavailable (by simp) full⟩

end NimbusMesh
