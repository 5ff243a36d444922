import NimbusMesh.Foundation.Execution
import NimbusMesh.Foundation.Rotation
import NimbusMesh.Policies.Registry
import NimbusMesh.Scheduler.Slots

namespace NimbusMesh.Policy

open Foundation Foundation.Execution Foundation.Rotation

structure ChooseCall where
  request : InferenceRequest
  candidates : List CandidatePlacement

def chooseAll : Policy → List ChooseCall → Except PyError (List CandidatePlacement × Policy)
  | policy, [] => .ok ([], policy)
  | policy, call :: rest => do
    let (choice, next) ← policy.choose call.request call.candidates
    let (choices, final) ← next.chooseAll rest
    return (choice :: choices, final)

theorem choose_roundRobin (cursor : ℤ) {call : ChooseCall} {size : ℕ} (positive : 0 < size)
    (usable : (availableCandidates call.candidates).length = size) :
    ∃ choice, (availableCandidates call.candidates)[turn cursor size 0]? = some choice ∧
      (roundRobin cursor).choose call.request call.candidates = .ok (choice, roundRobin (cursor + 1)) := by
  subst usable
  have inside := @turn_lt cursor _ positive 0
  have pointed : (cursor % ((availableCandidates call.candidates).length : ℤ)).toNat =
      turn cursor (availableCandidates call.candidates).length 0 := by
    simp [turn]
  have nonempty : availableCandidates call.candidates ≠ [] := List.ne_nil_of_length_pos (by omega)
  refine ⟨_, List.getElem?_eq_getElem inside, ?_⟩
  simp only [choose, nonempty, if_false, pointed, List.getElem?_eq_getElem inside]
  rfl

theorem chooseAll_roundRobin (cursor : ℤ) (calls : List ChooseCall) {size : ℕ} (positive : 0 < size)
    (usable : ∀ call ∈ calls, (availableCandidates call.candidates).length = size) :
    ∃ choices, (roundRobin cursor).chooseAll calls = .ok (choices, roundRobin (cursor + calls.length)) ∧
      choices.map some = List.zipWith (fun call place => (availableCandidates call.candidates)[place]?) calls
        (turns cursor size calls.length) := by
  induction calls generalizing cursor with
  | nil => exact ⟨[], by simp [chooseAll], rfl⟩
  | cons call rest ih =>
    obtain ⟨choice, pointed, chosen⟩ := choose_roundRobin cursor positive (usable call (by simp))
    obtain ⟨choices, ran, placed⟩ := ih (cursor + 1) (fun later member => usable later (by simp [member]))
    refine ⟨choice :: choices, ?_, ?_⟩
    · apply except_bind_eq_ok.mpr
      refine ⟨_, chosen, except_bind_eq_ok.mpr ⟨_, ran, ?_⟩⟩
      have moved : cursor + 1 + (rest.length : ℤ) = cursor + ((call :: rest).length : ℤ) := by
        rw [List.length_cons]
        omega
      rw [moved]
      rfl
    · rw [List.length_cons, turns_succ, List.zipWith_cons_cons, pointed, List.map_cons, placed]

theorem labels_of_turns {β : Type} {label : CandidatePlacement → β} {labels : List β} {calls : List ChooseCall}
    {choices : List CandidatePlacement} {places : List ℕ} (same : places.length = calls.length)
    (steady : ∀ call ∈ calls, (availableCandidates call.candidates).map label = labels)
    (placed : choices.map some =
      List.zipWith (fun call place => (availableCandidates call.candidates)[place]?) calls places) :
    (choices.map label).map some = places.map (fun place => labels[place]?) := by
  induction calls generalizing choices places with
  | nil =>
    obtain rfl := List.length_eq_zero_iff.mp same
    obtain rfl := List.map_eq_nil_iff.mp placed
    rfl
  | cons call rest ih =>
    cases places with
    | nil => simp at same
    | cons place places =>
      cases choices with
      | nil => simp at placed
      | cons choice choices =>
        rw [List.map_cons, List.zipWith_cons_cons, List.cons.injEq] at placed
        have others := ih (by simpa using same) (fun later member => steady later (by simp [member])) placed.2
        have first : some (label choice) = labels[place]? := by
          rw [← steady call (by simp), List.getElem?_map, ← placed.1, Option.map_some]
        rw [List.map_cons, List.map_cons, List.map_cons, first, others]

/-- Round robin is balanced while the usable candidates stay the same: over any number of calls, from any cursor,
    each of them is chosen as often as any other, up to one. -/
theorem roundRobin_balanced {β : Type} [DecidableEq β] (label : CandidatePlacement → β) (usable : List β)
    (nonempty : usable ≠ []) (cursor : ℤ) (calls : List ChooseCall)
    (steady : ∀ call ∈ calls, (availableCandidates call.candidates).map label = usable) :
    ∃ choices places,
      (roundRobin cursor).chooseAll calls = .ok (choices, roundRobin (cursor + calls.length)) ∧
      places.length = calls.length ∧
      choices.map some =
        List.zipWith (fun call place => (availableCandidates call.candidates)[place]?) calls places ∧
      (∀ place < usable.length, places.count place = calls.length / usable.length ∨
        places.count place = (calls.length + usable.length - 1) / usable.length) ∧
      (usable.Nodup → ∀ candidate ∈ usable,
        (choices.map label).count candidate = calls.length / usable.length ∨
        (choices.map label).count candidate = (calls.length + usable.length - 1) / usable.length) := by
  have positive := List.length_pos_of_ne_nil nonempty
  have sized : ∀ call ∈ calls, (availableCandidates call.candidates).length = usable.length := by
    intro call member
    rw [← steady call member, List.length_map]
  obtain ⟨choices, ran, placed⟩ := chooseAll_roundRobin cursor calls positive sized
  have length : (turns cursor usable.length calls.length).length = calls.length := by simp [turns]
  refine ⟨choices, turns cursor usable.length calls.length, ran, length, placed,
    fun place inside => count_turns positive inside, ?_⟩
  intro distinct candidate member
  obtain ⟨place, inside, rfl⟩ := List.mem_iff_getElem.mp member
  have shown := labels_of_turns length steady placed
  have counted : (choices.map label).count usable[place] =
      (turns cursor usable.length calls.length).count place := by
    rw [← List.count_map_of_injective (choices.map label) some (Option.some_injective β), shown,
      List.count_eq_countP, List.countP_map, List.count_eq_countP]
    apply List.countP_congr
    intro turn _
    simp only [Function.comp_apply, beq_iff_eq, List.getElem?_eq_some_iff]
    constructor
    · rintro ⟨bound, same⟩
      exact (distinct.getElem_inj_iff).mp same
    · rintro rfl
      exact ⟨inside, rfl⟩
  rw [counted]
  exact count_turns positive inside

def pooledCandidate (poolId : String) (available : Bool) : CandidatePlacement :=
  { (sessionCall 0).candidate with poolId, available }

def pooledCalls : List ChooseCall :=
  [⟨(sessionCall 0).request, [pooledCandidate "p1" true, pooledCandidate "p2" true]⟩,
    ⟨(sessionCall 0).request, [pooledCandidate "p3" false, pooledCandidate "p1" true, pooledCandidate "p2" true]⟩,
    ⟨(sessionCall 0).request, [pooledCandidate "p1" false, pooledCandidate "p2" false]⟩]

theorem roundRobin_balanced_two_pools :
    ∃ choices, (roundRobin 5).chooseAll pooledCalls = .ok (choices, roundRobin 8) ∧
      choices.map CandidatePlacement.poolId = ["p2", "p1", "p2"] ∧
      ((choices.map CandidatePlacement.poolId).count "p1" = 1 ∨
        (choices.map CandidatePlacement.poolId).count "p1" = 2) := by
  obtain ⟨choices, places, ran, _, _, _, balanced⟩ := roundRobin_balanced CandidatePlacement.poolId ["p1", "p2"]
    (by decide) 5 pooledCalls (by decide +kernel)
  have chosen : ((roundRobin 5).chooseAll pooledCalls).toOption.map
      (fun outcome => outcome.1.map CandidatePlacement.poolId) = some ["p2", "p1", "p2"] := by decide +kernel
  rw [ran] at chosen
  exact ⟨choices, ran, Option.some.inj chosen, balanced (by decide) "p1" (by decide)⟩

end NimbusMesh.Policy
