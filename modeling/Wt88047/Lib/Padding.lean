import Mathlib.Data.Nat.Bitwise

/-! Rounding a size up with a mask, `(size + (padding - 1)) & ~(padding - 1)`: what it gives for every padding,
and for a power of two. -/

namespace Padding

def padToSize (size padding : Nat) : Nat :=
  if padding = 0 then 0 else size + (padding - 1) - (size + (padding - 1) &&& padding - 1)

/-- The mask takes away at most itself, whether or not it is one less than a power of two. -/
theorem le_padToSize {padding : Nat} (h : 0 < padding) (size : Nat) : size ≤ padToSize size padding := by
  have hle : (size + (padding - 1) &&& padding - 1) ≤ padding - 1 := Nat.and_le_right
  rw [padToSize, if_neg (Nat.ne_of_gt h)]
  omega

@[simp] theorem padToSize_zero (padding : Nat) : padToSize 0 padding = 0 := by
  unfold padToSize
  split
  · rfl
  · rw [Nat.zero_add, Nat.and_self, Nat.sub_self]

theorem padToSize_two_pow (size k : Nat) :
    padToSize size (2 ^ k) = (size + (2 ^ k - 1)) / 2 ^ k * 2 ^ k := by
  have hdiv := Nat.mod_add_div' (size + (2 ^ k - 1)) (2 ^ k)
  rw [padToSize, if_neg (Nat.ne_of_gt (Nat.two_pow_pos k)), Nat.and_two_pow_sub_one_eq_mod]
  omega

theorem dvd_padToSize (size k : Nat) : 2 ^ k ∣ padToSize size (2 ^ k) := by
  rw [padToSize_two_pow]
  exact Nat.dvd_mul_left ..

end Padding
