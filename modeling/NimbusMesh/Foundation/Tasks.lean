import Mathlib.Data.List.Perm.Basic
import NimbusMesh.Foundation.Simulation

namespace Foundation.Tasks

open Foundation.Execution

variable {ε σ ι α : Type}

theorem except_mapM_eq_ok {f : ι → Except ε α} {inputs : List ι} {outputs : List α} :
    inputs.mapM f = .ok outputs ↔ List.Forall₂ (fun i o => f i = .ok o) inputs outputs := by
  induction inputs generalizing outputs with
  | nil =>
    rw [List.mapM_nil, List.forall₂_nil_left_iff]
    exact ⟨fun same => (Except.ok.inj same).symm, fun same => congrArg Except.ok same.symm⟩
  | cons i rest ih =>
    rw [List.mapM_cons, except_bind_eq_ok, List.forall₂_cons_left_iff]
    constructor
    · rintro ⟨o, first, continued⟩
      obtain ⟨others, later, same⟩ := except_bind_eq_ok.mp continued
      exact ⟨o, others, first, ih.mp later, (Except.ok.inj same).symm⟩
    · rintro ⟨o, others, first, later, rfl⟩
      exact ⟨o, first, except_bind_eq_ok.mpr ⟨others, ih.mpr later, rfl⟩⟩

/-- Answers that do not depend on each other are the same in any order of the questions. -/
theorem except_mapM_perm {f : ι → Except ε α} {inputs others : List ι} (perm : inputs.Perm others)
    {outputs : List α} (returned : others.mapM f = .ok outputs) :
    ∃ permuted, inputs.mapM f = .ok permuted ∧ permuted.Perm outputs := by
  obtain ⟨permuted, answers, same⟩ := List.perm_comp_forall₂ perm (except_mapM_eq_ok.mp returned)
  exact ⟨permuted, except_mapM_eq_ok.mpr answers, same⟩

theorem stateAfter_mapM_error {step : ι → EStateM ε σ α} {task : ι} {s t : σ} {e : ε} (raised : step task s = .error e t)
    (rest : List ι) : stateAfter ((task :: rest).mapM step) s = t := by
  rw [List.mapM_cons]
  exact stateAfter_error (bind_of_error raised _)

theorem stateAfter_mapM_ok {step : ι → EStateM ε σ α} {task : ι} {s t : σ} {a : α} (returned : step task s = .ok a t)
    (rest : List ι) : stateAfter ((task :: rest).mapM step) s = stateAfter (rest.mapM step) t := by
  rw [List.mapM_cons]
  cases continued : (rest.mapM step) t with
  | error e u =>
    rw [stateAfter_error continued]
    exact stateAfter_error ((bind_of_ok returned _).trans (bind_of_error continued _))
  | ok others u =>
    rw [stateAfter_ok continued]
    exact stateAfter_ok ((bind_of_ok returned _).trans (bind_of_ok continued _))

def Inert (step : ι → EStateM ε σ α) (tasks : List ι) (s : σ) : Prop := ∀ task ∈ tasks, stateAfter (step task) s = s

def alone (step : ι → EStateM ε σ α) (s : σ) (task : ι) : Except ε α := outcome (step task s)

def endingIn (s : σ) : Except ε α → EStateM.Result ε σ α
  | .ok a => .ok a s
  | .error e => .error e s

theorem eq_of_inert {x : EStateM ε σ α} {s : σ} (inert : stateAfter x s = s) : x s = endingIn s (outcome (x s)) := by
  unfold stateAfter at inert
  cases ran : x s with
  | ok a t =>
    rw [ran] at inert
    cases inert
    rfl
  | error e t =>
    rw [ran] at inert
    cases inert
    rfl

theorem mapM_inert {step : ι → EStateM ε σ α} {tasks : List ι} {s : σ} (inert : Inert step tasks s) :
    (tasks.mapM step) s = endingIn s (tasks.mapM (alone step s)) := by
  induction tasks with
  | nil => rfl
  | cons task rest ih =>
    have later := ih (fun other member => inert other (List.mem_cons_of_mem _ member))
    have first := eq_of_inert (inert task List.mem_cons_self)
    rw [List.mapM_cons, List.mapM_cons]
    cases answer : outcome (step task s) with
    | error e =>
      rw [answer] at first
      rw [bind_of_error first, alone, answer]
      rfl
    | ok output =>
      rw [answer] at first
      rw [bind_of_ok first, alone, answer]
      cases others : rest.mapM (alone step s) with
      | error e =>
        rw [others] at later
        rw [bind_of_error later]
        rfl
      | ok outputs =>
        rw [others] at later
        rw [bind_of_ok later]
        rfl

theorem endingIn_eq_ok {answer : Except ε α} {s t : σ} {a : α} :
    endingIn s answer = .ok a t ↔ answer = .ok a ∧ t = s := by
  cases answer with
  | error e => simp [endingIn]
  | ok other => simp [endingIn, eq_comm]

theorem endingIn_eq_error {answer : Except ε α} {s t : σ} {e : ε} :
    endingIn s answer = .error e t ↔ answer = .error e ∧ t = s := by
  cases answer with
  | error other => simp [endingIn, eq_comm]
  | ok a => simp [endingIn]

/-- Workers take the tasks of a list by their positions and keep what each came to. A task that raises does not stop
    the others. -/
def work (step : ι → EStateM ε σ α) (tasks : List ι) : List ℕ → σ → List (ℕ × Except ε α) × σ
  | [], s => ([], s)
  | position :: rest, s =>
    match tasks[position]? with
    | none => work step tasks rest s
    | some task =>
      let later := work step tasks rest (stateAfter (step task) s)
      ((position, outcome (step task s)) :: later.1, later.2)

/-- Waiting for the tasks of a list in its order. There is no answer as long as a task has not been worked on. -/
def fetch (outcomes : List (ℕ × Except ε α)) (count : ℕ) : Option (Except ε (List α)) :=
  ((List.range count).mapM (fun position => outcomes.lookup position)).map (fun answers => answers.mapM id)

variable {step : ι → EStateM ε σ α} {tasks : List ι} {s : σ}

theorem work_inert (inert : Inert step tasks s) (schedule : List ℕ) :
    work step tasks schedule s =
      (schedule.filterMap (fun position => tasks[position]?.map (fun task => (position, alone step s task))), s) := by
  induction schedule with
  | nil => rfl
  | cons position rest ih =>
    unfold work
    cases found : tasks[position]? with
    | none => simp [found, ih]
    | some task =>
      have same := inert task (List.mem_of_getElem? found)
      simp [found, ih, same, alone]

theorem lookup_work {schedule : List ℕ} {position : ℕ} {task : ι} (taken : position ∈ schedule)
    (found : tasks[position]? = some task) :
    (schedule.filterMap (fun position => tasks[position]?.map (fun task => (position, alone step s task)))).lookup
      position = some (alone step s task) := by
  induction schedule with
  | nil => cases taken
  | cons first rest ih =>
    by_cases same : position = first
    · rw [← same]
      simp [found]
    · have later := ih ((List.mem_cons.mp taken).resolve_left same)
      cases held : tasks[first]? with
      | none => simpa [held] using later
      | some other =>
        have differs : (position == first) = false := beq_false_of_ne same
        simpa [held, List.lookup_cons, differs] using later

theorem option_mapM_eq_some {β γ : Type} {f : β → Option γ} {inputs : List β} {outputs : List γ}
    (answers : List.Forall₂ (fun i o => f i = some o) inputs outputs) : inputs.mapM f = some outputs := by
  induction answers with
  | nil => rfl
  | cons first _ ih =>
    rw [List.mapM_cons, first, ih]
    rfl

/-- However the workers share out inert tasks, waiting for all of them gives what they come to on their own. -/
theorem fetch_work (inert : Inert step tasks s) {schedule : List ℕ}
    (complete : ∀ position < tasks.length, position ∈ schedule) :
    fetch (work step tasks schedule s).1 tasks.length = some (tasks.mapM (alone step s)) := by
  have answers : (List.range tasks.length).mapM (fun position => (work step tasks schedule s).1.lookup position) =
      some (tasks.map (alone step s)) := by
    apply option_mapM_eq_some
    rw [List.forall₂_iff_get]
    refine ⟨by simp, ?_⟩
    intro position below _
    have bound : position < tasks.length := by simpa using below
    rw [work_inert inert]
    simpa using @lookup_work _ _ _ _ step tasks s schedule position tasks[position] (complete position bound)
      (List.getElem?_eq_getElem bound)
  rw [fetch, answers]
  simp [List.mapM_map]

end Foundation.Tasks
