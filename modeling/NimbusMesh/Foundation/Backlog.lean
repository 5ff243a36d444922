import Mathlib.Algebra.BigOperators.Group.List.Basic
import Mathlib.Algebra.Order.Group.MinMax
import Mathlib.Algebra.Order.BigOperators.Group.List
import Mathlib.Tactic.Abel
import NimbusMesh.Foundation.SlotQueue

namespace Foundation.SlotQueue

variable {τ : Type} [AddCommGroup τ] [LinearOrder τ] [IsOrderedAddMonoid τ]

/-- The time that the servers are still taken for after an instant. -/
def committed (slots : List τ) (t : τ) : τ := (slots.map (fun slot => max 0 (slot - t))).sum

def remaining (start finish t : τ) : τ := max 0 (finish - max start t)

def backlog (executions : List (τ × τ)) (t : τ) : τ :=
  (executions.map (fun execution => remaining execution.1 execution.2 t)).sum

omit [IsOrderedAddMonoid τ] in
theorem backlog_snoc (executions : List (τ × τ)) (start finish t : τ) :
    backlog (executions ++ [(start, finish)]) t = backlog executions t + remaining start finish t := by
  simp [backlog]

omit [IsOrderedAddMonoid τ] in
theorem committed_set (slots : List τ) {i : ℕ} (bound : i < slots.length) (finish t : τ) :
    committed (slots.set i finish) t + max 0 (slots.getD i 0 - t) = committed slots t + max 0 (finish - t) := by
  induction slots generalizing i with
  | nil => simp at bound
  | cons slot rest ih =>
    cases i with
    | zero =>
      simp only [committed, List.set_cons_zero, List.map_cons, List.sum_cons, List.getD_cons_zero]
      abel
    | succ i =>
      have tail := @ih i (by simpa using bound)
      simp only [committed, List.set_cons_succ, List.map_cons, List.sum_cons, List.getD_cons_succ] at tail ⊢
      rw [add_assoc, tail]
      abel

theorem committed_take {slot now finish t : τ} (forward : max now slot ≤ finish) (arrived : now ≤ t) :
    max 0 (finish - t) = max 0 (slot - t) + remaining (max now slot) finish t := by
  unfold remaining
  by_cases busy : t < slot
  · have start : max now slot = slot := max_eq_right (arrived.trans busy.le)
    rw [start] at forward ⊢
    have later : t ≤ finish := busy.le.trans forward
    rw [max_eq_left busy.le, max_eq_right (sub_nonneg.mpr later), max_eq_right (sub_nonneg.mpr busy.le),
      max_eq_right (sub_nonneg.mpr forward)]
    abel
  · have free : slot ≤ t := le_of_not_gt busy
    rw [max_eq_right (max_le arrived free), max_eq_left (sub_nonpos.mpr free), zero_add]

/-- From an instant on, the servers are taken for exactly the work that is left. -/
def Conserves (slots : List τ) (executions : List (τ × τ)) (now : τ) : Prop :=
  ∀ t, now ≤ t → committed slots t = backlog executions t

theorem conserves_initial (count : ℕ) : Conserves (List.replicate count (0 : τ)) [] 0 := by
  intro t nonneg
  simp [committed, backlog, List.map_replicate, nonneg]

omit [IsOrderedAddMonoid τ] in
theorem Conserves.later {slots : List τ} {executions : List (τ × τ)} {earlier now : τ}
    (conserves : Conserves slots executions earlier) (le : earlier ≤ now) : Conserves slots executions now :=
  fun t arrived => conserves t (le.trans arrived)

theorem Conserves.book {slots : List τ} {executions : List (τ × τ)} {now finish : τ}
    (conserves : Conserves slots executions now) {i : ℕ} (bound : i < slots.length)
    (forward : max now (slots.getD i 0) ≤ finish) :
    Conserves (slots.set i finish) (executions ++ [(max now (slots.getD i 0), finish)]) now := by
  intro t arrived
  have moved := committed_set slots bound finish t
  rw [committed_take forward arrived, conserves t arrived] at moved
  rw [backlog_snoc]
  apply add_right_cancel (b := max 0 (slots.getD i 0 - t))
  rw [moved]
  abel

theorem earliest_le_average {slots : List τ} {i : ℕ} (found : earliest slots = some i) (t : τ) :
    slots.length • max 0 (slots.getD i 0 - t) ≤ committed slots t := by
  have each : ∀ taken ∈ slots.map (fun slot => max 0 (slot - t)), max 0 (slots.getD i 0 - t) ≤ taken := by
    intro taken member
    obtain ⟨slot, held, rfl⟩ := List.mem_map.mp member
    exact max_le_max_left 0 (sub_le_sub_right (earliest_le found held) t)
  have total := List.card_nsmul_le_sum (slots.map (fun slot => max 0 (slot - t))) _ each
  rwa [List.length_map] at total

theorem Conserves.wait_le {slots : List τ} {executions : List (τ × τ)} {now : τ}
    (conserves : Conserves slots executions now) {i : ℕ} (found : earliest slots = some i) :
    slots.length • (max now (slots.getD i 0) - now) ≤ backlog executions now := by
  have wait : max now (slots.getD i 0) - now = max 0 (slots.getD i 0 - now) := by
    rw [← max_sub_sub_right, sub_self]
  rw [wait, ← conserves now (le_refl now)]
  exact earliest_le_average found now

end Foundation.SlotQueue
