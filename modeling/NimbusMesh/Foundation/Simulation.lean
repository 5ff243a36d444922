import NimbusMesh.Foundation.Execution

namespace Foundation.Execution

variable {ε σ α β ι : Type}

/-- Two results agree on their outcome and leave related states. -/
inductive Related (relation : σ → σ → Prop) : EStateM.Result ε σ α → EStateM.Result ε σ α → Prop where
  | ok {a : α} {s t : σ} (related : relation s t) : Related relation (.ok a s) (.ok a t)
  | error {e : ε} {s t : σ} (related : relation s t) : Related relation (.error e s) (.error e t)

/-- A computation cannot tell related states apart. -/
def Respects (relation : σ → σ → Prop) (x : EStateM ε σ α) : Prop :=
  ∀ s t, relation s t → Related relation (x s) (x t)

def outcome : EStateM.Result ε σ α → Except ε α
  | .ok a _ => .ok a
  | .error e _ => .error e

variable {relation : σ → σ → Prop}

theorem Related.cases {first second : EStateM.Result ε σ α} (related : Related relation first second) :
    (∃ e s t, first = .error e s ∧ second = .error e t ∧ relation s t) ∨
      ∃ a s t, first = .ok a s ∧ second = .ok a t ∧ relation s t := by
  cases related with
  | ok related => exact .inr ⟨_, _, _, rfl, rfl, related⟩
  | error related => exact .inl ⟨_, _, _, rfl, rfl, related⟩

theorem respects_pure (a : α) : Respects relation (pure a : EStateM ε σ α) :=
  fun _ _ related => .ok related

theorem respects_throw (e : ε) : Respects relation (throw e : EStateM ε σ α) :=
  fun _ _ related => .error related

theorem Respects.bind {x : EStateM ε σ α} {f : α → EStateM ε σ β} (first : Respects relation x)
    (next : ∀ a, Respects relation (f a)) : Respects relation (x >>= f) := by
  intro s t related
  change Related relation (EStateM.bind x f s) (EStateM.bind x f t)
  unfold EStateM.bind
  rcases (first s t related).cases with ⟨e, s', t', left, right, reached⟩ | ⟨a, s', t', left, right, reached⟩
  · rw [left, right]
    exact .error reached
  · rw [left, right]
    exact next a s' t' reached

theorem respects_get_bind {f : σ → EStateM ε σ α}
    (next : ∀ s t, relation s t → Related relation (f s s) (f t t)) : Respects relation (get >>= f) :=
  fun s t related => next s t related

theorem Respects.mapM {step : ι → EStateM ε σ α} {inputs : List ι}
    (steps : ∀ i ∈ inputs, Respects relation (step i)) : Respects relation (inputs.mapM step) := by
  induction inputs with
  | nil => exact respects_pure []
  | cons i rest ih =>
    rw [List.mapM_cons]
    apply (steps i (by simp)).bind
    intro o
    exact (ih (fun j member => steps j (by simp [member]))).bind (fun tail => respects_pure (o :: tail))

theorem outcome_mapM_cons_ok {step : ι → EStateM ε σ α} {i : ι} {s t : σ} {o : α} (stepped : step i s = .ok o t)
    (rest : List ι) :
    outcome (((i :: rest).mapM step) s) = (outcome ((rest.mapM step) t)).map (fun tail => o :: tail) := by
  rw [List.mapM_cons]
  change outcome (EStateM.bind (step i) _ s) = _
  simp only [EStateM.bind, stepped]
  change outcome (EStateM.bind (rest.mapM step) _ t) = _
  simp only [EStateM.bind]
  cases (rest.mapM step) t <;> rfl

theorem outcome_mapM_cons_error {step : ι → EStateM ε σ α} {i : ι} {s t : σ} {e : ε}
    (stepped : step i s = .error e t) (rest : List ι) : outcome (((i :: rest).mapM step) s) = .error e := by
  rw [List.mapM_cons, bind_of_error stepped]
  rfl

section Mirror

variable {τ γ δ : Type}

def mapResult (g : σ → τ) (f : α → β) : EStateM.Result ε σ α → EStateM.Result ε τ β
  | .ok a s => .ok (f a) (g s)
  | .error e s => .error e (g s)

/-- From the image of a state in which an invariant holds, the second computation does what the
    first does from the state itself, up to the image, and the first keeps the invariant. -/
def Mirrors (invariant : σ → Prop) (g : σ → τ) (f : α → β) (x : EStateM ε σ α) (y : EStateM ε τ β) : Prop :=
  ∀ s, invariant s → y (g s) = mapResult g f (x s) ∧ invariant (stateAfter x s)

variable {invariant : σ → Prop} {g : σ → τ}

theorem mirrored_ok {f : α → β} {x : EStateM ε σ α} {y : EStateM ε τ β} {s t : σ} {a : α} (returned : x s = .ok a t)
    (mirrored : y (g s) = .ok (f a) (g t)) (kept : invariant t) :
    y (g s) = mapResult g f (x s) ∧ invariant (stateAfter x s) := by
  unfold stateAfter
  rw [returned]
  exact ⟨mirrored, kept⟩

theorem mirrored_error {f : α → β} {x : EStateM ε σ α} {y : EStateM ε τ β} {s t : σ} {e : ε}
    (raised : x s = .error e t) (mirrored : y (g s) = .error e (g t)) (kept : invariant t) :
    y (g s) = mapResult g f (x s) ∧ invariant (stateAfter x s) := by
  unfold stateAfter
  rw [raised]
  exact ⟨mirrored, kept⟩

theorem Mirrors.cases {f : α → β} {x : EStateM ε σ α} {y : EStateM ε τ β} (mirrors : Mirrors invariant g f x y) {s : σ}
    (holds : invariant s) :
    (∃ e t, x s = .error e t ∧ y (g s) = .error e (g t) ∧ invariant t) ∨
      ∃ a t, x s = .ok a t ∧ y (g s) = .ok (f a) (g t) ∧ invariant t := by
  obtain ⟨same, kept⟩ := mirrors s holds
  unfold stateAfter at kept
  cases stepped : x s with
  | error e t =>
    rw [stepped] at same kept
    exact .inl ⟨e, t, rfl, same, kept⟩
  | ok a t =>
    rw [stepped] at same kept
    exact .inr ⟨a, t, rfl, same, kept⟩

theorem mirrors_pure (f : α → β) (a : α) :
    Mirrors invariant g f (pure a : EStateM ε σ α) (pure (f a) : EStateM ε τ β) :=
  fun _ holds => ⟨rfl, holds⟩

theorem Mirrors.bind_returned {f : α → β} {h : γ → δ} {x : EStateM ε σ α} {y : EStateM ε τ β}
    {k : α → EStateM ε σ γ} {l : β → EStateM ε τ δ} (first : Mirrors invariant g f x y)
    (next : ∀ a s t, invariant s → x s = .ok a t → invariant t →
      l (f a) (g t) = mapResult g h (k a t) ∧ invariant (stateAfter (k a) t)) :
    Mirrors invariant g h (x >>= k) (y >>= l) := by
  intro s holds
  obtain ⟨same, kept⟩ := first s holds
  change EStateM.bind y l (g s) = mapResult g h (EStateM.bind x k s) ∧ invariant (stateAfter (EStateM.bind x k) s)
  unfold EStateM.bind
  rw [same]
  simp only [stateAfter] at kept ⊢
  cases returned : x s with
  | error e t =>
    rw [returned] at kept
    exact ⟨rfl, kept⟩
  | ok a t =>
    rw [returned] at kept
    exact next a s t holds returned kept

theorem Mirrors.bind {f : α → β} {h : γ → δ} {x : EStateM ε σ α} {y : EStateM ε τ β}
    {k : α → EStateM ε σ γ} {l : β → EStateM ε τ δ} (first : Mirrors invariant g f x y)
    (next : ∀ a, Mirrors invariant g h (k a) (l (f a))) : Mirrors invariant g h (x >>= k) (y >>= l) :=
  first.bind_returned (fun a _ t _ _ kept => next a t kept)

theorem mirrors_get_bind {h : γ → δ} {k : σ → EStateM ε σ γ} {l : τ → EStateM ε τ δ}
    (next : ∀ s, invariant s → l (g s) (g s) = mapResult g h (k s s) ∧ invariant (stateAfter (k s) s)) :
    Mirrors invariant g h (get >>= k) (get >>= l) :=
  fun s holds => next s holds

theorem Mirrors.mapM {f : α → β} {step : ι → EStateM ε σ α} {mirror : ι → EStateM ε τ β}
    (steps : ∀ i, Mirrors invariant g f (step i) (mirror i)) (inputs : List ι) :
    Mirrors invariant g (List.map f) (inputs.mapM step) (inputs.mapM mirror) := by
  induction inputs with
  | nil => exact mirrors_pure (List.map f) []
  | cons i rest ih =>
    rw [List.mapM_cons, List.mapM_cons]
    apply (steps i).bind
    intro o
    exact ih.bind (fun tail => mirrors_pure (List.map f) (o :: tail))

theorem Mirrors.outcome_eq {f : α → α} {x : EStateM ε σ α} {y : EStateM ε τ α}
    (mirrors : Mirrors invariant g f x y) (same : ∀ a, f a = a) {s : σ} (holds : invariant s) :
    outcome (y (g s)) = outcome (x s) := by
  rw [(mirrors s holds).1]
  cases x s with
  | error e t => rfl
  | ok a t => exact congrArg Except.ok (same a)

theorem Mirrors.stateAfter_eq {f : α → β} {x : EStateM ε σ α} {y : EStateM ε τ β}
    (mirrors : Mirrors invariant g f x y) {s : σ} (holds : invariant s) :
    stateAfter y (g s) = g (stateAfter x s) := by
  unfold stateAfter
  rw [(mirrors s holds).1]
  cases x s <;> rfl

end Mirror

/-- What each of a list of calls gives, where a call that raises is followed by the next one. -/
def transcript (step : ι → EStateM ε σ α) : List ι → σ → List (Except ε α)
  | [], _ => []
  | i :: rest, s => outcome (step i s) :: transcript step rest (stateAfter (step i) s)

def finalState (step : ι → EStateM ε σ α) (inputs : List ι) (s : σ) : σ :=
  inputs.foldl (fun t i => stateAfter (step i) t) s

theorem Mirrors.transcript_eq {τ : Type} {g : σ → τ} {invariant : σ → Prop} {step : ι → EStateM ε σ α}
    {mirror : ι → EStateM ε τ α} {inputs : List ι} (steps : ∀ i ∈ inputs, Mirrors invariant g id (step i) (mirror i))
    {s : σ} (holds : invariant s) :
    transcript mirror inputs (g s) = transcript step inputs s ∧
      finalState mirror inputs (g s) = g (finalState step inputs s) := by
  induction inputs generalizing s with
  | nil => exact ⟨rfl, rfl⟩
  | cons i rest ih =>
    rw [List.forall_mem_cons] at steps
    have later := ih steps.2 (steps.1 s holds).2
    have reached := steps.1.stateAfter_eq holds
    constructor
    · rw [transcript, transcript, steps.1.outcome_eq (fun _ => rfl) holds, reached, later.1]
    · rw [finalState, List.foldl_cons, reached]
      exact later.2

/-- Steps that commute up to a relation they respect can be taken in any order. -/
theorem foldl_related_of_perm {step : σ → ι → σ} (refl : ∀ s, relation s s)
    (trans : ∀ {s t u}, relation s t → relation t u → relation s u)
    (respects : ∀ {s t}, relation s t → ∀ i, relation (step s i) (step t i))
    (commutes : ∀ s i j, relation (step (step s i) j) (step (step s j) i)) (s : σ)
    {inputs others : List ι} (perm : inputs.Perm others) :
    relation (inputs.foldl step s) (others.foldl step s) := by
  have folds : ∀ (rest : List ι) {s t : σ}, relation s t → relation (rest.foldl step s) (rest.foldl step t) := by
    intro rest
    induction rest with
    | nil => exact fun related => related
    | cons i rest ih => exact fun related => ih (respects related i)
  induction perm generalizing s with
  | nil => exact refl s
  | cons i perm ih => exact ih (step s i)
  | swap i j rest => exact folds rest (commutes s j i)
  | trans first second ihFirst ihSecond => exact trans (ihFirst s) (ihSecond s)

end Foundation.Execution
