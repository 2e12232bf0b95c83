import Mathlib.Algebra.Order.Ring.Nat
import Mathlib.Data.List.Basic

/-! A list cut into pages of at most `n` entries. -/

namespace Pages

variable {α : Type*} {n : Nat} {l : List α}

def page (n : Nat) (l : List α) (k : Nat) : List α := (l.drop (n * k)).take n

def pages (n m : Nat) (l : List α) : List (List α) := (List.range m).map (page n l)

/-- Every entry is on one page, in order, and no page is empty or too long. -/
structure Paginated (n : Nat) (l : List α) (ps : List (List α)) : Prop where
  flatten : ps.flatten = l
  length : ps.length = (l.length + (n - 1)) / n
  short : ∀ p ∈ ps, 0 < p.length ∧ p.length ≤ n

theorem pages_flatten (m : Nat) : (pages n m l).flatten = l.take (n * m) := by
  induction m with
  | zero => simp [pages]
  | succ m ih =>
    have hlast : pages n (m + 1) l = pages n m l ++ [page n l m] := by
      simp [pages, List.range_succ]
    rw [hlast, List.flatten_append, ih, List.flatten_singleton, page, Nat.mul_succ, List.take_add]

theorem paginated (hn : 0 < n) : Paginated n l (pages n ((l.length + (n - 1)) / n) l) := by
  have hdiv := Nat.div_add_mod (l.length + (n - 1)) n
  have hmod := Nat.mod_lt (l.length + (n - 1)) hn
  refine ⟨?_, by simp [pages], fun p hp => ?_⟩
  · rw [pages_flatten, List.take_of_length_le]
    omega
  · obtain ⟨k, hk, rfl⟩ := List.mem_map.mp hp
    have hlt := Nat.mul_le_mul_left n (Nat.succ_le_of_lt (List.mem_range.mp hk))
    rw [page, List.length_take, List.length_drop]
    rw [Nat.mul_succ] at hlt
    omega

end Pages
