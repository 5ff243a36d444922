import Mathlib.Algebra.Order.Ring.Int
import Mathlib.Data.List.ProdSigma

namespace Foundation.Launch

/-- One access of a thread to the device's memory: a read of an input, or a write of the output. -/
inductive Access (α : Type) where
  | load (index : ℤ)
  | store (index : ℤ) (value : α)

namespace Access

variable {α : Type}

def index : Access α → ℤ
  | .load index => index
  | .store index _ => index

def apply (output : List α) : Access α → List α
  | .load _ => output
  | .store index value => output.set index.toNat value

end Access

def Thread (α β : Type) : Type := List (Access α) → β × List (Access α)

namespace Thread

variable {α β γ : Type}

instance : Monad (Thread α) where
  pure value := fun accesses => (value, accesses)
  bind first next := fun accesses => next (first accesses).1 (first accesses).2

def load [Zero α] (input : List α) (index : ℤ) : Thread α α :=
  fun accesses => (input.getD index.toNat 0, accesses ++ [.load index])

def store (index : ℤ) (value : α) : Thread α Unit := fun accesses => ((), accesses ++ [.store index value])

def accesses (thread : Thread α Unit) : List (Access α) := (thread []).2

end Thread

/-- A position of a grid is a block and a thread of the block. -/
def grid (blocks threads : ℕ) : List (ℕ × ℕ) := List.range blocks ×ˢ List.range threads

theorem mem_grid {blocks threads : ℕ} {position : ℕ × ℕ} :
    position ∈ grid blocks threads ↔ position.1 < blocks ∧ position.2 < threads := by
  rw [grid, List.mem_product, List.mem_range, List.mem_range]

def execute {α : Type} (kernel : ℕ × ℕ → Thread α Unit) (order : List (ℕ × ℕ)) (output : List α) : List α :=
  order.foldl (fun output position => (kernel position).accesses.foldl Access.apply output) output

def flatIndex (threads : ℕ) (position : ℕ × ℕ) : ℕ := position.1 * threads + position.2

section FlatIndex

variable {blocks threads index : ℕ}

theorem flatIndex_surjective (inside : index < blocks * threads) :
    (index / threads, index % threads) ∈ grid blocks threads ∧
      flatIndex threads (index / threads, index % threads) = index := by
  have positive : 0 < threads := Nat.pos_of_ne_zero (fun zero => by simp [zero] at inside)
  rw [mem_grid]
  refine ⟨⟨?_, Nat.mod_lt index positive⟩, Nat.div_add_mod' index threads⟩
  exact Nat.div_lt_of_lt_mul (by rwa [mul_comm])

theorem flatIndex_injective {position : ℕ × ℕ} (member : position ∈ grid blocks threads)
    (same : flatIndex threads position = index) : position = (index / threads, index % threads) := by
  obtain ⟨_, bound⟩ := mem_grid.mp member
  have positive : 0 < threads := by omega
  rw [← same, flatIndex, mul_comm]
  ext
  · rw [Nat.mul_add_div positive, Nat.div_eq_of_lt bound, add_zero]
  · rw [Nat.mul_add_mod, Nat.mod_eq_of_lt bound]

theorem flatIndex_lt {position : ℕ × ℕ} (member : position ∈ grid blocks threads) :
    flatIndex threads position < blocks * threads := by
  obtain ⟨block, thread⟩ := mem_grid.mp member
  calc position.1 * threads + position.2 < position.1 * threads + threads := by omega
    _ = (position.1 + 1) * threads := by rw [add_mul, one_mul]
    _ ≤ blocks * threads := Nat.mul_le_mul_right threads block

end FlatIndex

/-- A kernel whose threads each serve the cell of their own number: a thread beyond the output does nothing, and any
    other one reads the inputs at its cell only and ends with the one write of the cell. -/
structure Cellwise {α : Type} (threads size : ℕ) (value : ℕ → α) (kernel : ℕ × ℕ → Thread α Unit)
    (positions : List (ℕ × ℕ)) : Prop where
  beyond : ∀ position ∈ positions, size ≤ flatIndex threads position → (kernel position).accesses = []
  within : ∀ position ∈ positions, flatIndex threads position < size →
    ∃ loads, (kernel position).accesses =
        List.replicate loads (.load (flatIndex threads position)) ++
          [.store (flatIndex threads position) (value (flatIndex threads position))]

section Cellwise

variable {α : Type} {blocks threads size : ℕ} {value : ℕ → α} {kernel : ℕ × ℕ → Thread α Unit}
  {positions : List (ℕ × ℕ)}

theorem Cellwise.inside (cellwise : Cellwise threads size value kernel positions) {position : ℕ × ℕ}
    (member : position ∈ positions) :
    ∀ access ∈ (kernel position).accesses, 0 ≤ access.index ∧ access.index < size := by
  intro access made
  by_cases within : flatIndex threads position < size
  · obtain ⟨loads, traced⟩ := cellwise.within position member within
    rw [traced, List.mem_append, List.mem_singleton] at made
    have own : access.index = flatIndex threads position := by
      rcases made with loaded | rfl
      · rw [List.eq_of_mem_replicate loaded]
        rfl
      · rfl
    omega
  · rw [cellwise.beyond position member (by omega)] at made
    cases made

theorem Cellwise.written (cellwise : Cellwise threads size value kernel (grid blocks threads))
    (covers : size ≤ blocks * threads) {index : ℕ} (inside : index < size) :
    ∃! position, position ∈ grid blocks threads ∧
      ∃ written, Access.store (index : ℤ) written ∈ (kernel position).accesses := by
  obtain ⟨member, number⟩ := flatIndex_surjective (lt_of_lt_of_le inside covers)
  refine ⟨(index / threads, index % threads), ⟨member, value index, ?_⟩, ?_⟩
  · obtain ⟨loads, traced⟩ := cellwise.within _ member (by rwa [number])
    rw [traced, number]
    simp
  · rintro position ⟨placed, written, made⟩
    apply flatIndex_injective placed
    by_cases within : flatIndex threads position < size
    · obtain ⟨loads, traced⟩ := cellwise.within position placed within
      rw [traced, List.mem_append, List.mem_singleton] at made
      rcases made with loaded | stored
      · cases List.eq_of_mem_replicate loaded
      · cases stored
        rfl
    · rw [cellwise.beyond position placed (by omega)] at made
      cases made

theorem foldl_loads (loads : ℕ) (index : ℤ) (output : List α) :
    (List.replicate loads (.load index : Access α)).foldl Access.apply output = output := by
  induction loads with
  | zero => rfl
  | succ loads ih => rwa [List.replicate_succ, List.foldl_cons]

theorem Cellwise.step (cellwise : Cellwise threads size value kernel positions) {position : ℕ × ℕ}
    (member : position ∈ positions) {output : List α} (length : output.length = size) :
    (kernel position).accesses.foldl Access.apply output =
      output.set (flatIndex threads position) (value (flatIndex threads position)) := by
  by_cases within : flatIndex threads position < size
  · obtain ⟨loads, traced⟩ := cellwise.within position member within
    rw [traced, List.foldl_append, foldl_loads]
    rfl
  · rw [cellwise.beyond position member (by omega), List.set_eq_of_length_le (by omega)]
    rfl

theorem Cellwise.run (cellwise : Cellwise threads size value kernel positions) {order : List (ℕ × ℕ)}
    (placed : ∀ position ∈ order, position ∈ positions) {output : List α} (length : output.length = size) :
    (execute kernel order output).length = size ∧
      ∀ index < size, (execute kernel order output)[index]? =
        if ∃ position ∈ order, flatIndex threads position = index then some (value index) else output[index]? := by
  induction order generalizing output with
  | nil => exact ⟨length, fun index _ => by simp [execute]⟩
  | cons position rest ih =>
    have stepped := cellwise.step (placed position (by simp)) length
    have later := @ih (fun other member => placed other (by simp [member]))
      (output.set (flatIndex threads position) (value (flatIndex threads position))) (by rw [List.length_set, length])
    rw [execute, List.foldl_cons, stepped]
    refine ⟨later.1, fun index inside => (later.2 index inside).trans ?_⟩
    by_cases own : flatIndex threads position = index
    · subst own
      simp [length, inside]
    · have same : (∃ other ∈ position :: rest, flatIndex threads other = index) ↔
          ∃ other ∈ rest, flatIndex threads other = index := by
        constructor
        · rintro ⟨other, member, number⟩
          rcases List.mem_cons.mp member with rfl | later
          · exact absurd number own
          · exact ⟨other, later, number⟩
        · rintro ⟨other, member, number⟩
          exact ⟨other, List.mem_cons_of_mem _ member, number⟩
      rw [List.getElem?_set_ne own]
      simp only [same]

/-- In any order of the threads of a grid that covers the output, every cell ends with its own value. -/
theorem Cellwise.execute_eq (cellwise : Cellwise threads size value kernel (grid blocks threads))
    (covers : size ≤ blocks * threads) {order : List (ℕ × ℕ)} (every : order.Perm (grid blocks threads))
    {output : List α} (length : output.length = size) :
    execute kernel order output = (List.range size).map value := by
  have ran := cellwise.run (fun position member => every.mem_iff.mp member) length
  apply List.ext_getElem?
  intro index
  by_cases inside : index < size
  · obtain ⟨member, number⟩ := flatIndex_surjective (lt_of_lt_of_le inside covers)
    rw [ran.2 index inside, if_pos ⟨_, every.mem_iff.mpr member, number⟩]
    simp [inside]
  · rw [List.getElem?_eq_none (by omega), List.getElem?_eq_none (by simp; omega)]

end Cellwise

end Foundation.Launch
