import Mathlib.Algebra.Order.Ring.Nat
import Mathlib.Data.Nat.ModEq
import Mathlib.Logic.Function.Basic

/-! Cells that stand in a circle. A window of them, from a start cell on, is a queue that grows
behind and shrinks in front. -/

namespace CircularBuffer

variable {α : Type*} {cells : Nat → α} {capacity start size : Nat}

def window (cells : Nat → α) (capacity start size : Nat) : List α :=
  (List.range size).map fun i => cells ((start + i) % capacity)

@[simp] theorem window_zero : window cells capacity start 0 = [] := rfl

@[simp] theorem length_window : (window cells capacity start size).length = size := by
  simp [window]

theorem window_succ : window cells capacity start (size + 1) =
    cells (start % capacity) :: window cells capacity ((start + 1) % capacity) size := by
  simp only [window, List.range_succ_eq_map, List.map_cons, List.map_map, Nat.add_zero]
  congr 1
  apply List.map_congr_left
  intro i _
  simp only [Function.comp, Nat.mod_add_mod]
  congr 2
  omega

theorem window_add (n : Nat) : window cells capacity start (size + n) =
    window cells capacity start size ++ window cells capacity (start + size) n := by
  simp only [window, List.range_add, List.map_append, List.map_map]
  congr 1
  apply List.map_congr_left
  intro i _
  simp only [Function.comp, Nat.add_assoc]

theorem index_ne {i j : Nat} (hij : i < j) (hj : j < capacity) :
    (start + i) % capacity ≠ (start + j) % capacity := by
  intro he
  have hmod : i ≡ j [MOD capacity] := Nat.ModEq.add_left_cancel' start he
  have heq := Nat.ModEq.eq_of_lt_of_lt hmod (hij.trans hj) hj
  omega

theorem window_update {i : Nat} (hsize : size ≤ i) (hi : i < capacity) (a : α) :
    window (Function.update cells ((start + i) % capacity) a) capacity start size =
      window cells capacity start size := by
  apply List.map_congr_left
  intro j hj
  have hlt : j < i := (List.mem_range.mp hj).trans_le hsize
  rw [Function.update_of_ne (index_ne hlt hi)]

end CircularBuffer
