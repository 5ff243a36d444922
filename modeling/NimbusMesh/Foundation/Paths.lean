import Mathlib.Algebra.Order.Monoid.Defs
import Mathlib.Order.Bounds.Basic

namespace Foundation.Paths

variable {ν κ : Type} [AddCommMonoid κ] {link : ν → ν → κ → Prop} {source : ν}

/-- A path over weighted links, with the sum of their weights. -/
inductive Path (link : ν → ν → κ → Prop) (source : ν) : ν → κ → Prop
  | start : Path link source source 0
  | follow {u v : ν} {cost weight : κ} : Path link source u cost → link u v weight →
      Path link source v (cost + weight)

variable [LinearOrder κ] [IsOrderedAddMonoid κ]

theorem Path.nonneg (weights : ∀ u v w, link u v w → 0 ≤ w) {v : ν} {cost : κ}
    (path : Path link source v cost) : 0 ≤ cost := by
  induction path with
  | start => exact le_refl 0
  | follow _ last ih => exact add_nonneg ih (weights _ _ _ last)

/-- A path out of a set of nodes crosses its border, no later than at its own cost. -/
theorem Path.crosses (weights : ∀ u v w, link u v w → 0 ≤ w) {inside : ν → Prop} (begins : inside source)
    {target : ν} {cost : κ} (path : Path link source target cost) (ends : ¬ inside target) :
    ∃ u v first weight, inside u ∧ ¬ inside v ∧ Path link source u first ∧ link u v weight ∧
      first + weight ≤ cost := by
  induction path with
  | start => exact absurd begins ends
  | @follow u v cost weight path last ih =>
    by_cases held : inside u
    · exact ⟨u, v, cost, weight, held, ends, path, last, le_refl _⟩
    · obtain ⟨x, y, first, step, left, right, earlier, crossing, bound⟩ := ih held
      have longer : cost ≤ cost + weight := le_add_of_nonneg_right (weights _ _ _ last)
      exact ⟨x, y, first, step, left, right, earlier, crossing, bound.trans longer⟩

/-- Tentative labels of a search from the source. The labels of settled nodes are final, and their
    links have been followed. -/
structure Labelled (link : ν → ν → κ → Prop) (source : ν) (settled : ν → Prop) (label : ν → Option κ) : Prop where
  origin : ∃ cost, label source = some cost ∧ cost ≤ 0
  real : ∀ v cost, label v = some cost → Path link source v cost
  least : ∀ v, settled v → ∃ cost, label v = some cost ∧ ∀ other, Path link source v other → cost ≤ other
  closed : ∀ u, settled u → ∀ cost, label u = some cost → ∀ v weight, link u v weight →
    ∃ known, label v = some known ∧ known ≤ cost + weight

namespace Labelled

variable {settled : ν → Prop} {label : ν → Option κ}

omit [IsOrderedAddMonoid κ] in
theorem lower [DecidableEq ν] (labelled : Labelled link source settled label) {target : ν} {cost : κ}
    (unsettled : ¬ settled target) (path : Path link source target cost)
    (improves : ∀ known, label target = some known → cost ≤ known) :
    Labelled link source settled (fun v => if target = v then some cost else label v) := by
  have apart : ∀ v, settled v → target ≠ v := fun v held same => unsettled (same ▸ held)
  constructor
  · obtain ⟨start, known, small⟩ := labelled.origin
    by_cases here : target = source
    · subst here
      exact ⟨cost, if_pos rfl, (improves start known).trans small⟩
    · exact ⟨start, by rw [if_neg here, known], small⟩
  · intro v other known
    split at known
    · rename_i here
      cases known
      exact here ▸ path
    · exact labelled.real v other known
  · intro v held
    rw [if_neg (apart v held)]
    exact labelled.least v held
  · intro u held known labelU v weight step
    rw [if_neg (apart u held)] at labelU
    obtain ⟨next, labelV, within⟩ := labelled.closed u held known labelU v weight step
    by_cases here : target = v
    · subst here
      exact ⟨cost, if_pos rfl, (improves next labelV).trans within⟩
    · exact ⟨next, by rw [if_neg here, labelV], within⟩

omit [IsOrderedAddMonoid κ] in
theorem settle (labelled : Labelled link source settled label) {node : ν} {cost : κ} (known : label node = some cost)
    (least : ∀ other, Path link source node other → cost ≤ other)
    (closed : ∀ v weight, link node v weight → ∃ next, label v = some next ∧ next ≤ cost + weight) :
    Labelled link source (fun v => v = node ∨ settled v) label := by
  refine ⟨labelled.origin, labelled.real, ?_, ?_⟩
  · rintro v (rfl | held)
    · exact ⟨cost, known, least⟩
    · exact labelled.least v held
  · rintro u (rfl | held) other labelU v weight step
    · cases known.symm.trans labelU
      exact closed v weight step
    · exact labelled.closed u held other labelU v weight step

theorem greedy (labelled : Labelled link source settled label) (weights : ∀ u v w, link u v w → 0 ≤ w)
    {v : ν} {cost : κ} (unsettled : ¬ settled v)
    (lowest : ∀ u other, ¬ settled u → label u = some other → cost ≤ other)
    {other : κ} (path : Path link source v other) : cost ≤ other := by
  by_cases begun : settled source
  · obtain ⟨u, x, first, weight, inner, outer, reached, crossing, bound⟩ := path.crosses weights begun unsettled
    obtain ⟨known, labelU, leastU⟩ := labelled.least u inner
    obtain ⟨tentative, labelX, within⟩ := labelled.closed u inner known labelU x weight crossing
    calc cost ≤ tentative := lowest x tentative outer labelX
      _ ≤ known + weight := within
      _ ≤ first + weight := add_le_add_left (leastU first reached) weight
      _ ≤ other := bound
  · obtain ⟨start, labelS, small⟩ := labelled.origin
    exact ((lowest source start begun labelS).trans small).trans (path.nonneg weights)

omit [IsOrderedAddMonoid κ] in
theorem exhausted (labelled : Labelled link source settled label)
    (done : ∀ v cost, label v = some cost → settled v) {v : ν} {cost : κ} (path : Path link source v cost) :
    settled v := by
  induction path with
  | start =>
    obtain ⟨known, labelS, _⟩ := labelled.origin
    exact done source known labelS
  | @follow u v _ weight _ last ih =>
    obtain ⟨known, labelU, _⟩ := labelled.least u ih
    obtain ⟨next, labelV, _⟩ := labelled.closed u ih known labelU v weight last
    exact done v next labelV

end Labelled

end Foundation.Paths
