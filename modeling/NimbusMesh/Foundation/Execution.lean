import Mathlib.Data.List.Induction

namespace Foundation.Execution

variable {ε σ α β ι : Type}

def stateAfter (x : EStateM ε σ α) (s : σ) : σ :=
  match x s with
  | .ok _ t => t
  | .error _ t => t

def valueOf : EStateM.Result ε σ α → Option α
  | .ok a _ => some a
  | .error _ _ => none

theorem valueOf_eq_some {result : EStateM.Result ε σ α} {a : α} :
    valueOf result = some a ↔ ∃ s, result = .ok a s := by
  cases result <;> simp [valueOf]

theorem stateAfter_ok {x : EStateM ε σ α} {s t : σ} {a : α} (returned : x s = .ok a t) :
    stateAfter x s = t := by
  simp [stateAfter, returned]

theorem stateAfter_error {x : EStateM ε σ α} {s t : σ} {e : ε} (raised : x s = .error e t) :
    stateAfter x s = t := by
  simp only [stateAfter, raised]

theorem bind_eq_ok {x : EStateM ε σ α} {f : α → EStateM ε σ β} {s t : σ} {b : β} :
    (x >>= f) s = .ok b t ↔ ∃ a s', x s = .ok a s' ∧ f a s' = .ok b t := by
  change EStateM.bind x f s = _ ↔ _
  unfold EStateM.bind
  cases x s <;> simp

theorem bind_of_error {x : EStateM ε σ α} {s t : σ} {e : ε} (raised : x s = .error e t) (f : α → EStateM ε σ β) :
    (x >>= f) s = .error e t := by
  change EStateM.bind x f s = _
  simp only [EStateM.bind, raised]

theorem bind_of_ok {x : EStateM ε σ α} {s t : σ} {a : α} (returned : x s = .ok a t) (f : α → EStateM ε σ β) :
    (x >>= f) s = f a t := by
  change EStateM.bind x f s = _
  simp only [EStateM.bind, returned]

theorem stateAfter_bind {x : EStateM ε σ α} {f : α → EStateM ε σ β} {s : σ} (first : stateAfter x s = s)
    (next : ∀ a, stateAfter (f a) s = s) : stateAfter (x >>= f) s = s := by
  change stateAfter (EStateM.bind x f) s = s
  unfold stateAfter EStateM.bind at *
  cases returned : x s with
  | error e t =>
    rw [returned] at first
    exact first
  | ok a t =>
    rw [returned] at first
    dsimp only at first ⊢
    rw [first]
    exact next a

theorem pure_eq_ok {a b : α} {s t : σ} :
    (pure a : EStateM ε σ α) s = .ok b t ↔ b = a ∧ t = s := by
  change EStateM.Result.ok a s = .ok b t ↔ _
  rw [EStateM.Result.ok.injEq, eq_comm, @eq_comm _ s]

theorem get_eq_ok {s t u : σ} : (get : EStateM ε σ σ) s = .ok u t ↔ u = s ∧ t = s := by
  change EStateM.Result.ok s s = .ok u t ↔ _
  rw [EStateM.Result.ok.injEq, eq_comm, @eq_comm _ s]

theorem except_bind_eq_ok {x : Except ε α} {f : α → Except ε β} {b : β} :
    (x >>= f) = .ok b ↔ ∃ a, x = .ok a ∧ f a = .ok b := by
  cases x <;> simp [Bind.bind, Except.bind]

theorem except_mapM_eq_ok {name : ι → α} {f : α → Except ε β} {value : ι → β} {items : List ι}
    (returned : ∀ i ∈ items, f (name i) = .ok (value i)) : (items.map name).mapM f = .ok (items.map value) := by
  induction items with
  | nil => rfl
  | cons i rest ih =>
    rw [List.forall_mem_cons] at returned
    rw [List.map_cons, List.mapM_cons, returned.1, ih returned.2]
    rfl

theorem mapM_nil_eq_ok {step : ι → EStateM ε σ α} {s t : σ} {outputs : List α} :
    ([].mapM step) s = .ok outputs t ↔ outputs = [] ∧ t = s := by
  rw [List.mapM_nil, pure_eq_ok]

theorem mapM_cons_eq_ok {step : ι → EStateM ε σ α} {i : ι} {rest : List ι} {s t : σ}
    {outputs : List α} :
    ((i :: rest).mapM step) s = .ok outputs t ↔
      ∃ o s' tail, step i s = .ok o s' ∧ (rest.mapM step) s' = .ok tail t ∧ outputs = o :: tail := by
  simp only [List.mapM_cons, bind_eq_ok, pure_eq_ok]
  constructor
  · rintro ⟨o, s', stepped, tail, _, continued, rfl, rfl⟩
    exact ⟨o, s', tail, stepped, continued, rfl⟩
  · rintro ⟨o, s', tail, stepped, continued, rfl⟩
    exact ⟨o, s', stepped, tail, t, continued, rfl, rfl⟩

theorem mapM_length {step : ι → EStateM ε σ α} {inputs : List ι} {s t : σ} {outputs : List α}
    (returned : (inputs.mapM step) s = .ok outputs t) : outputs.length = inputs.length := by
  induction inputs generalizing s outputs with
  | nil => simp [(mapM_nil_eq_ok.mp returned).1]
  | cons i rest ih =>
    obtain ⟨o, s', tail, _, continued, rfl⟩ := mapM_cons_eq_ok.mp returned
    simp [ih continued]

theorem stateAfter_mapM_cons {step : ι → EStateM ε σ α} {i : ι} {rest : List ι} {s s' : σ} {o : α}
    (stepped : step i s = .ok o s') : stateAfter ((i :: rest).mapM step) s = stateAfter (rest.mapM step) s' := by
  rw [List.mapM_cons, stateAfter, bind_of_ok stepped, stateAfter]
  cases later : (rest.mapM step) s' with
  | ok tail t => rw [bind_of_ok later]; rfl
  | error raised t => rw [bind_of_error later]

/-- What every step that returns preserves holds of the state a run of such steps reaches, and what
    every step then says of its output holds of all the outputs. -/
theorem mapM_entries {step : ι → EStateM ε σ α} {admissible : ι → Prop} (invariant : σ → Prop)
    (property : ι → α → Prop)
    (stepwise : ∀ i s o t, admissible i → invariant s → step i s = .ok o t → invariant t ∧ property i o)
    {inputs : List ι} (inputsMeet : ∀ i ∈ inputs, admissible i) {s t : σ} {outputs : List α}
    (initial : invariant s) (returned : (inputs.mapM step) s = .ok outputs t) :
    invariant t ∧ ∀ entry ∈ inputs.zip outputs, property entry.1 entry.2 := by
  induction inputs generalizing s outputs with
  | nil =>
    obtain ⟨rfl, rfl⟩ := mapM_nil_eq_ok.mp returned
    exact ⟨initial, by simp⟩
  | cons i rest ih =>
    obtain ⟨o, s', tail, stepped, continued, rfl⟩ := mapM_cons_eq_ok.mp returned
    obtain ⟨next, first⟩ := stepwise i s o s' (inputsMeet i (by simp)) initial stepped
    obtain ⟨final, later⟩ := ih (fun j member => inputsMeet j (by simp [member])) next continued
    refine ⟨final, ?_⟩
    intro entry member
    rcases List.mem_cons.mp member with rfl | inTail
    · exact first
    · exact later entry inTail

theorem mapM_invariant {step : ι → EStateM ε σ α} (invariant : σ → Prop)
    (preserved : ∀ i s o t, invariant s → step i s = .ok o t → invariant t)
    {inputs : List ι} {s t : σ} {outputs : List α} (initial : invariant s)
    (returned : (inputs.mapM step) s = .ok outputs t) : invariant t :=
  (mapM_entries invariant (fun _ _ => True)
    (fun i s o t (_ : True) holds stepped => ⟨preserved i s o t holds stepped, True.intro⟩)
    (fun _ _ => True.intro) initial returned).1

theorem mapM_outputs {γ : Type} {step : ι → EStateM ε σ α} (invariant : σ → Prop) (f : α → γ) (g : ι → γ)
    (stepwise : ∀ i s o t, invariant s → step i s = .ok o t → invariant t ∧ f o = g i)
    {inputs : List ι} {s t : σ} {outputs : List α} (initial : invariant s)
    (returned : (inputs.mapM step) s = .ok outputs t) : outputs.map f = inputs.map g := by
  induction inputs generalizing s outputs with
  | nil => rw [(mapM_nil_eq_ok.mp returned).1, List.map_nil, List.map_nil]
  | cons i rest ih =>
    obtain ⟨o, s', tail, stepped, continued, rfl⟩ := mapM_cons_eq_ok.mp returned
    obtain ⟨next, same⟩ := stepwise i s o s' initial stepped
    rw [List.map_cons, List.map_cons, same, ih next continued]

/-- A computation that, when it returns, has not changed a part of the state. -/
def Preserves (part : σ → β) (x : EStateM ε σ α) : Prop := ∀ s a t, x s = .ok a t → part t = part s

section Preserves

variable {γ : Type} {part : σ → γ}

theorem preserves_pure (a : α) : Preserves part (pure a : EStateM ε σ α) := by
  intro s b t returned
  rw [(pure_eq_ok.mp returned).2]

theorem preserves_throw (e : ε) : Preserves part (throw e : EStateM ε σ α) := by
  intro s a t returned
  cases returned

theorem Preserves.bind {x : EStateM ε σ α} {f : α → EStateM ε σ β} (first : Preserves part x)
    (later : ∀ a, Preserves part (f a)) : Preserves part (x >>= f) := by
  intro s b t returned
  obtain ⟨a, s', stepped, continued⟩ := bind_eq_ok.mp returned
  exact (later a s' b t continued).trans (first s a s' stepped)

theorem preserves_get_bind {f : σ → EStateM ε σ α} (later : ∀ s, Preserves part (f s)) :
    Preserves part (get >>= f) :=
  fun s a t returned => later s s a t returned

end Preserves

/-- Whether it returns or raises, a computation leaves a state in which an invariant still holds. -/
def Keeps (invariant : σ → Prop) (x : EStateM ε σ α) : Prop := ∀ s, invariant s → invariant (stateAfter x s)

section Keeps

variable {invariant : σ → Prop}

theorem keeps_pure (a : α) : Keeps invariant (pure a : EStateM ε σ α) := fun _ holds => holds

theorem Keeps.bind {x : EStateM ε σ α} {f : α → EStateM ε σ β} (first : Keeps invariant x)
    (later : ∀ a, Keeps invariant (f a)) : Keeps invariant (x >>= f) := by
  intro s holds
  have kept := first s holds
  change invariant (stateAfter (EStateM.bind x f) s)
  simp only [stateAfter, EStateM.bind] at kept ⊢
  cases returned : x s with
  | error e t =>
    rw [returned] at kept
    exact kept
  | ok a t =>
    rw [returned] at kept
    exact later a t kept

theorem keeps_get_bind {f : σ → EStateM ε σ α} (later : ∀ s, invariant s → invariant (stateAfter (f s) s)) :
    Keeps invariant (get >>= f) :=
  fun s holds => later s holds

theorem Keeps.mapM {step : ι → EStateM ε σ α} {inputs : List ι} (steps : ∀ i ∈ inputs, Keeps invariant (step i)) :
    Keeps invariant (inputs.mapM step) := by
  induction inputs with
  | nil => exact keeps_pure []
  | cons i rest ih =>
    rw [List.mapM_cons]
    apply (steps i (by simp)).bind
    intro o
    exact (ih (fun j member => steps j (by simp [member]))).bind (fun tail => keeps_pure (o :: tail))

end Keeps

/-- From every state that meets an invariant, a computation returns, with a value that has a property and in
    a state that still meets the invariant. -/
def Ensures (invariant : σ → Prop) (x : EStateM ε σ α) (property : α → Prop) : Prop :=
  ∀ s, invariant s → ∃ a t, x s = .ok a t ∧ invariant t ∧ property a

section Ensures

variable {invariant : σ → Prop} {property : α → Prop} {consequence : β → Prop}

theorem ensures_pure {a : α} (holds : property a) : Ensures invariant (pure a : EStateM ε σ α) property :=
  fun s kept => ⟨a, s, rfl, kept, holds⟩

theorem Ensures.imp {x : EStateM ε σ α} {weaker : α → Prop} (returns : Ensures invariant x property)
    (implies : ∀ a, property a → weaker a) : Ensures invariant x weaker := by
  intro s kept
  obtain ⟨a, t, stepped, next, holds⟩ := returns s kept
  exact ⟨a, t, stepped, next, implies a holds⟩

theorem Ensures.bind {x : EStateM ε σ α} {f : α → EStateM ε σ β} (first : Ensures invariant x property)
    (later : ∀ a, property a → Ensures invariant (f a) consequence) : Ensures invariant (x >>= f) consequence := by
  intro s kept
  obtain ⟨a, t, stepped, next, holds⟩ := first s kept
  obtain ⟨b, u, continued, final, follows⟩ := later a holds t next
  exact ⟨b, u, bind_eq_ok.mpr ⟨a, t, stepped, continued⟩, final, follows⟩

theorem ensures_get_bind {f : σ → EStateM ε σ α} (later : ∀ s, invariant s → Ensures invariant (f s) property) :
    Ensures invariant (get >>= f) property :=
  fun s kept => later s kept s kept

theorem Ensures.mapM {step : ι → EStateM ε σ α} {related : ι → α → Prop} {inputs : List ι}
    (steps : ∀ i ∈ inputs, Ensures invariant (step i) (related i)) :
    Ensures invariant (inputs.mapM step) (List.Forall₂ related inputs) := by
  induction inputs with
  | nil => exact ensures_pure List.Forall₂.nil
  | cons i rest ih =>
    rw [List.mapM_cons]
    apply (steps i (by simp)).bind
    intro o first
    apply (ih (fun j member => steps j (by simp [member]))).bind
    intro tail later
    exact ensures_pure (List.Forall₂.cons first later)

theorem Ensures.mapM_all {step : ι → EStateM ε σ α} {inputs : List ι}
    (steps : ∀ i ∈ inputs, Ensures invariant (step i) property) :
    Ensures invariant (inputs.mapM step)
      (fun outputs => outputs.length = inputs.length ∧ ∀ o ∈ outputs, property o) := by
  apply (Ensures.mapM steps).imp
  intro outputs all
  induction all with
  | nil => simp
  | cons holds _ ih =>
    have later := ih (fun i member => steps i (List.mem_cons_of_mem _ member))
    exact ⟨congrArg (· + 1) later.1, List.forall_mem_cons.mpr ⟨holds, later.2⟩⟩

end Ensures

def Along (condition : ι → σ → Prop) (step : ι → EStateM ε σ α) : List ι → σ → Prop
  | [], _ => True
  | i :: rest, s => condition i s ∧
    match step i s with
    | .ok _ t => Along condition step rest t
    | .error _ _ => True

instance decidableAlong (condition : ι → σ → Prop) [∀ i s, Decidable (condition i s)]
    (step : ι → EStateM ε σ α) : ∀ inputs s, Decidable (Along condition step inputs s)
  | [], _ => .isTrue True.intro
  | i :: rest, s => @instDecidableAnd _ _ _
    (match step i s with
    | .ok _ t => decidableAlong condition step rest t
    | .error _ _ => .isTrue True.intro)

theorem Along.next {condition : ι → σ → Prop} {step : ι → EStateM ε σ α} {i : ι} {rest : List ι}
    {s t : σ} {o : α} (meets : Along condition step (i :: rest) s) (stepped : step i s = .ok o t) :
    Along condition step rest t := by
  have later := meets.2
  rwa [stepped] at later

theorem along_true (step : ι → EStateM ε σ α) (inputs : List ι) (s : σ) :
    Along (fun _ _ => True) step inputs s := by
  induction inputs generalizing s with
  | nil => exact True.intro
  | cons i rest ih =>
    refine ⟨True.intro, ?_⟩
    cases step i s with
    | ok o t => exact ih t
    | error raised t => exact True.intro

theorem Along.and_inputs {condition : ι → σ → Prop} {step : ι → EStateM ε σ α} {property : ι → Prop}
    {inputs : List ι} {s : σ} (meets : Along condition step inputs s)
    (inputsMeet : ∀ i ∈ inputs, property i) :
    Along (fun i t => property i ∧ condition i t) step inputs s := by
  induction inputs generalizing s with
  | nil => exact True.intro
  | cons i rest ih =>
    refine ⟨⟨inputsMeet i (by simp), meets.1⟩, ?_⟩
    cases stepped : step i s with
    | ok o t => exact ih (meets.next stepped) (fun j member => inputsMeet j (by simp [member]))
    | error raised t => exact True.intro

/-- What each step preserves, together with its log so far, holds after the whole run. The
    relation orders the inputs of the run, such as a clock that never goes back. -/
theorem run_invariant {step : ι → EStateM ε σ α} {order : ι → ι → Prop}
    {condition : ι → σ → Prop} (invariant : σ → List (ι × α) → Prop)
    (preserved : ∀ s log i o t, invariant s log → (∀ e ∈ log, order e.1 i) → condition i s →
      step i s = .ok o t → invariant t (log ++ [(i, o)]))
    {inputs : List ι} {s t : σ} {log : List (ι × α)} {outputs : List α} (initial : invariant s log)
    (after : ∀ e ∈ log, ∀ i ∈ inputs, order e.1 i) (ordered : inputs.Pairwise order)
    (meets : Along condition step inputs s) (returned : (inputs.mapM step) s = .ok outputs t) :
    invariant t (log ++ inputs.zip outputs) := by
  induction inputs generalizing s log outputs with
  | nil =>
    obtain ⟨rfl, rfl⟩ := mapM_nil_eq_ok.mp returned
    simpa using initial
  | cons i rest ih =>
    obtain ⟨o, s', tail, stepped, continued, rfl⟩ := mapM_cons_eq_ok.mp returned
    obtain ⟨first, later⟩ := List.pairwise_cons.mp ordered
    have next := preserved s log i o s' initial (fun e member => after e member i (by simp)) meets.1 stepped
    have result := ih next ?_ later (meets.next stepped) continued
    · simpa using result
    · intro e member j inRest
      rcases List.mem_append.mp member with earlier | current
      · exact after e earlier j (by simp [inRest])
      · rw [List.mem_singleton.mp current]
        exact first j inRest

/-- The converse of a run rule: a condition that every step needs for its log to stay good is met along
    every run whose log is good in the end. -/
theorem along_of_run {step : ι → EStateM ε σ α} {order : ι → ι → Prop} {condition : ι → σ → Prop}
    (invariant : σ → List (ι × α) → Prop) (good : List (ι × α) → Prop)
    (prefixes : ∀ log later, good (log ++ later) → good log)
    (preserved : ∀ s log i o t, invariant s log → (∀ e ∈ log, order e.1 i) → step i s = .ok o t →
      invariant t (log ++ [(i, o)]))
    (needed : ∀ s log i o t, invariant s log → (∀ e ∈ log, order e.1 i) → step i s = .ok o t →
      good (log ++ [(i, o)]) → condition i s)
    {inputs : List ι} {s t : σ} {log : List (ι × α)} {outputs : List α} (initial : invariant s log)
    (after : ∀ e ∈ log, ∀ i ∈ inputs, order e.1 i) (ordered : inputs.Pairwise order)
    (returned : (inputs.mapM step) s = .ok outputs t) (final : good (log ++ inputs.zip outputs)) :
    Along condition step inputs s := by
  induction inputs generalizing s log outputs with
  | nil => exact True.intro
  | cons i rest ih =>
    obtain ⟨o, s', tail, stepped, continued, rfl⟩ := mapM_cons_eq_ok.mp returned
    obtain ⟨first, later⟩ := List.pairwise_cons.mp ordered
    have earlier : ∀ e ∈ log, order e.1 i := fun e member => after e member i (by simp)
    have split : log ++ (i :: rest).zip (o :: tail) = log ++ [(i, o)] ++ rest.zip tail := by simp
    rw [split] at final
    refine ⟨needed s log i o s' initial earlier stepped (prefixes _ _ final), ?_⟩
    rw [stepped]
    apply ih (preserved s log i o s' initial earlier stepped) ?_ later continued final
    intro e member j inRest
    rcases List.mem_append.mp member with before | current
    · exact after e before j (by simp [inRest])
    · rw [List.mem_singleton.mp current]
      exact first j inRest

def Stepwise (property : List (ι × α) → ι → α → Prop) (log : List (ι × α)) : Prop :=
  ∀ before i o after, log = before ++ (i, o) :: after → property before i o

theorem stepwise_nil (property : List (ι × α) → ι → α → Prop) : Stepwise property [] := by
  intro before i o after split
  simp at split

theorem Stepwise.snoc {property : List (ι × α) → ι → α → Prop} {log : List (ι × α)} {i : ι} {o : α}
    (earlier : Stepwise property log) (last : property log i o) :
    Stepwise property (log ++ [(i, o)]) := by
  intro before j p after split
  rcases List.eq_nil_or_concat after with rfl | ⟨front, final, rfl⟩
  · obtain ⟨rfl, same⟩ := List.append_inj' split rfl
    cases same
    exact last
  · rw [List.concat_eq_append, ← List.cons_append, ← List.append_assoc] at split
    exact earlier before j p front (List.append_inj' split rfl).1

theorem Stepwise.pairwise {property : List (ι × α) → ι → α → Prop} {related : ι × α → ι × α → Prop}
    (relate : ∀ before i o between j p, property before i o →
      property (before ++ (i, o) :: between) j p → related (i, o) (j, p))
    {log : List (ι × α)} (stepwise : Stepwise property log) : log.Pairwise related := by
  induction log using List.reverseRecOn with
  | nil => exact List.Pairwise.nil
  | append_singleton front last ih =>
    refine List.pairwise_append.mpr ⟨ih ?_, List.pairwise_singleton _ _, ?_⟩
    · intro before i o after split
      exact stepwise before i o (after ++ [last]) (by simp [split])
    · intro e member final isLast
      rw [List.mem_singleton.mp isLast]
      obtain ⟨before, between, rfl⟩ := List.append_of_mem member
      have first := stepwise before e.1 e.2 (between ++ [last]) (by simp)
      exact relate before e.1 e.2 between last.1 last.2 first (stepwise _ last.1 last.2 [] rfl)

section Fold

variable (step : σ → ι → σ)

def Throughout (condition : List ι → σ → ι → Prop) (s : σ) (inputs : List ι) : Prop :=
  ∀ before i after, inputs = before ++ i :: after → condition before (before.foldl step s) i

variable {step}

theorem throughout_nil (condition : List ι → σ → ι → Prop) (s : σ) :
    Throughout step condition s [] := by
  intro before i after split
  simp at split

theorem throughout_cons {condition : List ι → σ → ι → Prop} {s : σ} {i : ι} {rest : List ι} :
    Throughout step condition s (i :: rest) ↔
      condition [] s i ∧ Throughout step (fun before => condition (i :: before)) (step s i) rest := by
  constructor
  · intro meets
    exact ⟨meets [] i rest rfl, fun before j after split => meets (i :: before) j after (by simp [split])⟩
  · rintro ⟨first, later⟩ before j after split
    cases before with
    | nil => cases split; exact first
    | cons k before => cases split; exact later before j after rfl

instance decidableThroughout : ∀ (condition : List ι → σ → ι → Prop)
    [∀ before s i, Decidable (condition before s i)] (s : σ) (inputs : List ι),
    Decidable (Throughout step condition s inputs)
  | condition, _, s, [] => .isTrue (throughout_nil condition s)
  | condition, _, s, i :: rest =>
    have := decidableThroughout (fun before => condition (i :: before)) (step s i) rest
    decidable_of_iff (condition [] s i ∧ Throughout step (fun before => condition (i :: before)) (step s i) rest)
      throughout_cons.symm

theorem Throughout.left {condition : List ι → σ → ι → Prop} {s : σ} {inputs more : List ι}
    (meets : Throughout step condition s (inputs ++ more)) : Throughout step condition s inputs := by
  intro before i after split
  apply meets before i (after ++ more)
  simp [split]

/-- What the empty sequence satisfies and every further input preserves holds of the state
    reached by the whole sequence. -/
theorem foldl_invariant {condition : List ι → σ → ι → Prop} (invariant : List ι → σ → Prop) {s : σ}
    (initial : invariant [] s)
    (preserved : ∀ before i t, invariant before t → condition before t i →
      invariant (before ++ [i]) (step t i))
    {inputs : List ι} (meets : Throughout step condition s inputs) :
    invariant inputs (inputs.foldl step s) := by
  induction inputs using List.reverseRecOn with
  | nil => exact initial
  | append_singleton before i ih =>
    rw [List.foldl_append]
    exact preserved before i _ (ih meets.left) (meets before i [] rfl)

theorem foldl_establishes (holds : ι → σ → Prop) (makes : ∀ i s, holds i (step s i))
    (keeps : ∀ i s j, holds i s → holds i (step s j)) (s : σ) {inputs : List ι} {i : ι} (member : i ∈ inputs) :
    holds i (inputs.foldl step s) := by
  have later : ∀ (rest : List ι) (t : σ), holds i t → holds i (rest.foldl step t) := by
    intro rest
    induction rest with
    | nil => exact fun _ held => held
    | cons j rest ih => exact fun t held => ih (step t j) (keeps i t j held)
  obtain ⟨before, after, rfl⟩ := List.append_of_mem member
  rw [List.foldl_append, List.foldl_cons]
  exact later after _ (makes i _)

end Fold

end Foundation.Execution
