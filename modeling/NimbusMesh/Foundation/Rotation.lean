import Mathlib.Data.Int.CardIntervalMod
import Mathlib.Data.List.Count
import Mathlib.Data.List.Nodup

namespace Foundation.Rotation

/-- The position that a counter points at among so many, after so many steps. -/
def turn (start : ℤ) (size step : ℕ) : ℕ := ((start + step) % size).toNat

def turns (start : ℤ) (size steps : ℕ) : List ℕ := (List.range steps).map (turn start size)

variable {start : ℤ} {size steps position : ℕ}

theorem turn_lt (positive : 0 < size) (step : ℕ) : turn start size step < size := by
  have above := Int.emod_nonneg (start + step) (show (size : ℤ) ≠ 0 by omega)
  have below := Int.emod_lt_of_pos (start + step) (show (0 : ℤ) < size by omega)
  unfold turn
  omega

theorem turns_succ (start : ℤ) (size steps : ℕ) :
    turns start size (steps + 1) = turn start size 0 :: turns (start + 1) size steps := by
  simp only [turns, List.range_succ_eq_map, List.map_cons, List.map_map]
  congr 2
  funext step
  simp only [turn, Function.comp_apply, Nat.succ_eq_add_one, Nat.cast_add, Nat.cast_one]
  congr 2
  omega

theorem turn_eq_iff (positive : 0 < size) (inside : position < size) (step : ℕ) :
    turn start size step = position ↔ step ≡ ((position - start) % size).toNat [MOD size] := by
  have whole : (size : ℤ) ≠ 0 := by omega
  have nonneg := Int.emod_nonneg (start + step) whole
  have residue := Int.emod_nonneg (position - start) whole
  have small : (position : ℤ) % size = position := Int.emod_eq_of_lt (by omega) (by omega)
  calc turn start size step = position
      ↔ (start + step) % size = (position : ℤ) := by
        unfold turn
        omega
    _ ↔ start + step ≡ position [ZMOD size] := by rw [Int.ModEq, small]
    _ ↔ (step : ℤ) ≡ position - start [ZMOD size] := by
        constructor
        · intro same
          simpa using same.sub_right start
        · intro same
          simpa [add_comm] using same.add_left start
    _ ↔ step ≡ ((position - start) % size).toNat [MOD size] := by
        rw [← Int.natCast_modEq_iff, Int.toNat_of_nonneg residue]
        exact ⟨fun same => same.trans (Int.mod_modEq _ _).symm, fun same => same.trans (Int.mod_modEq _ _)⟩

/-- In any window of steps every position has its turn equally often, up to one turn that a last incomplete
    round may add. -/
theorem count_turns (positive : 0 < size) (inside : position < size) :
    (turns start size steps).count position = steps / size ∨
      (turns start size steps).count position = (steps + size - 1) / size := by
  have counted : (turns start size steps).count position =
      steps.count (fun step => step ≡ ((position - start) % size).toNat [MOD size]) := by
    rw [turns, List.count_eq_countP, List.countP_map, Nat.count]
    apply List.countP_congr
    intro step _
    simpa using turn_eq_iff positive inside step
  rw [counted, Nat.count_modEq_card _ positive]
  split
  · rename_i late
    right
    have divided := Nat.div_add_mod steps size
    have rounded : steps + size - 1 = size * (steps / size + 1) + (steps % size - 1) := by
      rw [mul_add]
      omega
    have remainder := Nat.mod_lt steps positive
    rw [rounded, Nat.mul_add_div positive, Nat.div_eq_of_lt (show steps % size - 1 < size by omega)]
  · exact .inl rfl

end Foundation.Rotation
