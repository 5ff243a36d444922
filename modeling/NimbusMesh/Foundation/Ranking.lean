import Mathlib.Data.List.MinMax
import Mathlib.Data.List.Sort

namespace Foundation.Ranking

variable {α β κ ι : Type}

theorem foldl_argAux_map {r : β → β → Prop} {q : α → α → Prop} [DecidableRel r] [DecidableRel q]
    {items : List α} (image : α → β) (same : ∀ a ∈ items, ∀ b ∈ items, r (image a) (image b) ↔ q a b)
    {rest : List α} (inside : rest ⊆ items) {chosen : Option α} (member : ∀ a ∈ chosen, a ∈ items) :
    (rest.map image).foldl (List.argAux r) (chosen.map image) =
      (rest.foldl (List.argAux q) chosen).map image := by
  induction rest generalizing chosen with
  | nil => rfl
  | cons a rest ih =>
    have here : a ∈ items := inside (by simp)
    have later : rest ⊆ items := fun b held => inside (by simp [held])
    simp only [List.map_cons, List.foldl_cons]
    cases chosen with
    | none =>
      have first : ∀ b ∈ some a, b ∈ items := by
        intro b held
        cases held
        exact here
      exact ih later first
    | some b =>
      have agree := same a here b (member b rfl)
      by_cases wins : q a b
      · have first : ∀ c ∈ some a, c ∈ items := by
          intro c held
          cases held
          exact here
        have next := ih later first
        simp only [List.argAux, Option.map_some, agree.mpr wins, wins, if_true] at next ⊢
        exact next
      · have loses : ¬ r (image a) (image b) := fun won => wins (agree.mp won)
        have next := ih later member
        simp only [List.argAux, Option.map_some, loses, wins, if_false] at next ⊢
        exact next

variable [Preorder κ] [DecidableLT κ] [Preorder ι] [DecidableLT ι]

theorem argmin_map {key : β → κ} {rank : α → ι} (image : α → β) (items : List α)
    (same : ∀ a ∈ items, ∀ b ∈ items, key (image a) < key (image b) ↔ rank a < rank b) :
    (items.map image).argmin key = (items.argmin rank).map image := by
  have choice := @foldl_argAux_map α β (fun b c => key b < key c) (fun b c => rank b < rank c) _ _
    items image same items (List.Subset.refl items) none (by simp)
  exact choice

theorem argmax_map {key : β → κ} {rank : α → ι} (image : α → β) (items : List α)
    (same : ∀ a ∈ items, ∀ b ∈ items, key (image a) < key (image b) ↔ rank a < rank b) :
    (items.map image).argmax key = (items.argmax rank).map image := by
  have choice := @foldl_argAux_map α β (fun b c => key c < key b) (fun b c => rank c < rank b) _ _
    items image (fun a left b right => same b right a left) items (List.Subset.refl items) none (by simp)
  exact choice

theorem sorted_by_rank {κ : Type} [LinearOrder κ] (rank : α → κ) (items : List α) :
    (items.insertionSort (fun a b => rank a ≤ rank b)).Pairwise (fun a b => rank a ≤ rank b) := by
  have total : Std.Total (fun a b : α => rank a ≤ rank b) := ⟨fun a b => le_total (rank a) (rank b)⟩
  have transitive : IsTrans α (fun a b => rank a ≤ rank b) := ⟨fun _ _ _ left right => left.trans right⟩
  exact List.pairwise_insertionSort _ items

section Precedence

variable {κ : Type} [LinearOrder κ] [DecidableEq α] {key : α → κ} {items : List α} {chosen other : α}

/-- An item comes before another by its key or, with the same key, by its place in the list. -/
def Precedes (key : α → κ) (items : List α) (first second : α) : Prop :=
  key first < key second ∨ key first = key second ∧ items.idxOf first < items.idxOf second

theorem argmin_precedes (picked : items.argmin key = some chosen) (member : other ∈ items)
    (distinct : other ≠ chosen) : Precedes key items chosen other := by
  obtain ⟨inside, least, first⟩ := List.mem_argmin_iff.mp picked
  rcases (least other member).lt_or_eq with below | same
  · exact .inl below
  · have places : items.idxOf chosen ≠ items.idxOf other :=
      fun equal => distinct ((List.idxOf_inj inside).mp equal).symm
    exact .inr ⟨same, lt_of_le_of_ne (first other member same.ge) places⟩

theorem not_precedes_argmin (picked : items.argmin key = some chosen) (member : other ∈ items) :
    ¬ Precedes key items other chosen := by
  obtain ⟨_, least, first⟩ := List.mem_argmin_iff.mp picked
  rintro (below | ⟨same, earlier⟩)
  · exact not_lt.mpr (least other member) below
  · exact not_lt.mpr (first other member same.le) earlier

theorem argmin_least_iff (load : α → ℕ) (picked : items.argmin key = some chosen) :
    (∀ light ∈ items, load chosen ≤ load light) ↔
      ∀ heavy ∈ items, ∀ light ∈ items, load light < load heavy → ∃ ahead ∈ items, Precedes key items ahead heavy := by
  have inside := List.argmin_mem picked
  constructor
  · intro least heavy member light other more
    refine ⟨chosen, inside, argmin_precedes picked member ?_⟩
    rintro rfl
    exact not_lt.mpr (least light other) more
  · intro outranked light member
    apply le_of_not_gt
    intro fewer
    obtain ⟨ahead, listed, before⟩ := outranked chosen inside light member fewer
    exact not_precedes_argmin picked listed before

end Precedence

section FirstLeast

variable {κ : Type} [LinearOrder κ] {skip : α → Bool} {score : α → κ}

/-- The item at a position is not skipped, no other such item has a lower score, and every earlier
    one has a higher score. -/
def FirstLeast (skip : α → Bool) (score : α → κ) (items : List α) (k : ℕ) : Prop :=
  ∃ item, items[k]? = some item ∧ skip item = false ∧
    ∀ j other, items[j]? = some other → skip other = false →
      score item ≤ score other ∧ (j < k → score item < score other)

theorem FirstLeast.unique {items : List α} {j k : ℕ} (left : FirstLeast skip score items j)
    (right : FirstLeast skip score items k) : j = k := by
  obtain ⟨first, at_j, usedFirst, leastFirst⟩ := left
  obtain ⟨second, at_k, usedSecond, leastSecond⟩ := right
  have forward := leastFirst k second at_k usedSecond
  have backward := leastSecond j first at_j usedFirst
  rcases Nat.lt_trichotomy j k with before | same | after
  · exact absurd (backward.2 before) (not_lt.mpr forward.1)
  · exact same
  · exact absurd (forward.2 after) (not_lt.mpr backward.1)

theorem FirstLeast.later {item : α} {rest : List α} {k : ℕ} (least : FirstLeast skip score rest k)
    (passed : skip item = false → ∀ other, rest[k]? = some other → score other < score item) :
    FirstLeast skip score (item :: rest) (k + 1) := by
  obtain ⟨found, at_k, kept, lowest⟩ := least
  refine ⟨found, at_k, kept, ?_⟩
  intro j other at_j used
  cases j with
  | zero =>
    cases at_j
    have below := passed used found at_k
    exact ⟨below.le, fun _ => below⟩
  | succ j =>
    obtain ⟨bound, strict⟩ := lowest j other at_j used
    exact ⟨bound, fun before => strict (by omega)⟩

theorem firstLeast_here {item : α} {rest : List α} (kept : skip item = false)
    (lowest : ∀ other ∈ rest, skip other = false → score item ≤ score other) :
    FirstLeast skip score (item :: rest) 0 := by
  refine ⟨item, rfl, kept, ?_⟩
  intro j other at_j used
  refine ⟨?_, fun before => absurd before (Nat.not_lt_zero j)⟩
  cases j with
  | zero =>
    cases at_j
    exact le_refl _
  | succ j => exact lowest other (List.mem_of_getElem? at_j) used

theorem firstLeast_map (view : β → α) (items : List β) (k : ℕ) :
    FirstLeast skip score (items.map view) k ↔
      FirstLeast (fun item => skip (view item)) (fun item => score (view item)) items k := by
  simp [FirstLeast]

end FirstLeast

end Foundation.Ranking
