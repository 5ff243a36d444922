import NimbusMesh.Foundation.Execution

namespace Foundation.Execution

variable {ε κ ν α ι : Type}

/-- What a computation over a store looks at and what it changes, when it returns. -/
structure Footprint (x : EStateM ε (κ → ν) α) (reads writes : κ → Prop) : Prop where
  frame : ∀ {s t : κ → ν} {a : α}, x s = .ok a t → ∀ k, ¬ writes k → t k = s k
  carries : ∀ {s t u : κ → ν} {a : α}, x s = .ok a t → (∀ k, reads k → u k = s k) →
    ∃ v, x u = .ok a v ∧ ∀ k, writes k → v k = t k

variable {step : ι → EStateM ε (κ → ν) α} {reads writes : ι → κ → Prop}

theorem frame_mapM (footprints : ∀ i, Footprint (step i) (reads i) (writes i)) {inputs : List ι} {s t : κ → ν}
    {outputs : List α} (ran : (inputs.mapM step) s = .ok outputs t) :
    ∀ k, (∀ i ∈ inputs, ¬ writes i k) → t k = s k := by
  induction inputs generalizing s outputs with
  | nil =>
    obtain ⟨_, rfl⟩ := mapM_nil_eq_ok.mp ran
    exact fun _ _ => rfl
  | cons i rest ih =>
    obtain ⟨o, middle, tail, first, later, _⟩ := mapM_cons_eq_ok.mp ran
    intro k untouched
    rw [List.forall_mem_cons] at untouched
    exact (ih later k untouched.2).trans ((footprints i).frame first k untouched.1)

def Undisturbed (reads writes : ι → κ → Prop) : List ι → Prop
  | [] => True
  | i :: rest => (∀ k, reads i k → ∀ j ∈ i :: rest, ¬ writes j k) ∧ Undisturbed reads writes rest

/-- Computations that only look back do the same from two stores that differ in what they will write. -/
theorem mapM_of_agree (footprints : ∀ i, Footprint (step i) (reads i) (writes i)) {inputs : List ι}
    (undisturbed : Undisturbed reads writes inputs) {s t u : κ → ν} {outputs : List α}
    (ran : (inputs.mapM step) s = .ok outputs t) (agree : ∀ k, (∀ i ∈ inputs, ¬ writes i k) → u k = s k) :
    (inputs.mapM step) u = .ok outputs t := by
  induction inputs generalizing s u outputs with
  | nil =>
    obtain ⟨rfl, rfl⟩ := mapM_nil_eq_ok.mp ran
    have same : u = t := funext (fun k => agree k (by simp))
    rw [same]
    rfl
  | cons i rest ih =>
    obtain ⟨o, middle, tail, first, later, rfl⟩ := mapM_cons_eq_ok.mp ran
    obtain ⟨apart, undisturbed⟩ := undisturbed
    obtain ⟨reached, again, written⟩ := (footprints i).carries first (fun k looked => agree k (apart k looked))
    have closer : ∀ k, (∀ j ∈ rest, ¬ writes j k) → reached k = middle k := by
      intro k untouched
      by_cases touched : writes i k
      · exact written k touched
      · have outside : ∀ j ∈ i :: rest, ¬ writes j k := List.forall_mem_cons.mpr ⟨touched, untouched⟩
        calc reached k = u k := (footprints i).frame again k touched
          _ = s k := agree k outside
          _ = middle k := ((footprints i).frame first k touched).symm
    exact mapM_cons_eq_ok.mpr ⟨o, reached, tail, again, ih undisturbed later closer, rfl⟩

theorem mapM_again (footprints : ∀ i, Footprint (step i) (reads i) (writes i)) {inputs : List ι}
    (undisturbed : Undisturbed reads writes inputs) {s t : κ → ν} {outputs : List α}
    (ran : (inputs.mapM step) s = .ok outputs t) : (inputs.mapM step) t = .ok outputs t :=
  mapM_of_agree footprints undisturbed ran (frame_mapM footprints ran)

end Foundation.Execution
