import Mathlib.Data.List.Basic
import Mathlib.Algebra.Order.Ring.Nat

/-! Memory as bytes, with little-endian words in it. -/

namespace Bytes

abbrev Mem := Nat → UInt8

variable {m n : Mem} {a b k v : Nat} {l l' : List UInt8}

def write (m : Mem) (a : Nat) (l : List UInt8) : Mem :=
  fun i => if a ≤ i then (l[i - a]?).getD (m i) else m i

def read (m : Mem) (a n : Nat) : List UInt8 := (List.range n).map fun i => m (a + i)

def word : List UInt8 → Nat
  | [] => 0
  | x :: l => x.toNat + 256 * word l

def bytes : Nat → Nat → List UInt8
  | 0, _ => []
  | k + 1, v => UInt8.ofNat v :: bytes k (v / 256)

def readWord (m : Mem) (a : Nat) : Nat := word (read m a 4)

def writeWord (m : Mem) (a v : Nat) : Mem := write m a (bytes 4 v)

@[simp] theorem length_bytes (k v : Nat) : (bytes k v).length = k := by
  induction k generalizing v with
  | zero => rfl
  | succ k ih => rw [bytes, List.length_cons, ih]

@[simp] theorem length_read (m : Mem) (a n : Nat) : (read m a n).length = n := by simp [read]

theorem word_bytes (h : v < 256 ^ k) : word (bytes k v) = v := by
  induction k generalizing v with
  | zero =>
    rw [Nat.pow_zero] at h
    rw [bytes, word]
    omega
  | succ k ih =>
    have hdiv : v / 256 < 256 ^ k := by
      rw [Nat.pow_succ] at h
      omega
    have hlow : (UInt8.ofNat v).toNat = v % 256 := by simp
    rw [bytes, word, ih hdiv, hlow]
    omega

theorem write_before (h : b < a) : write m a l b = m b := if_neg (Nat.not_le.mpr h)

theorem write_after (h : a + l.length ≤ b) : write m a l b = m b := by
  unfold write
  rw [if_pos (by omega), List.getElem?_eq_none (by omega)]
  rfl

theorem write_apart (h : b < a ∨ a + l.length ≤ b) : write m a l b = m b :=
  h.elim write_before write_after

theorem read_congr (h : ∀ i, a ≤ i → i < a + k → n i = m i) : read n a k = read m a k := by
  unfold read
  apply List.map_congr_left
  intro i hi
  have hlt := List.mem_range.mp hi
  exact h (a + i) (by omega) (by omega)

theorem readWord_congr (h : ∀ i, a ≤ i → i < a + 4 → n i = m i) : readWord n a = readWord m a := by
  unfold readWord
  rw [read_congr h]

@[simp] theorem read_write : read (write m a l) a l.length = l := by
  apply List.ext_getElem
  · simp
  · intro i hi hl
    have hget : write m a l (a + i) = l[i] := by
      unfold write
      rw [if_pos (by omega), Nat.add_sub_cancel_left, List.getElem?_eq_getElem hl]
      rfl
    simpa [read] using hget

theorem readWord_writeWord (h : v < 2 ^ 32) : readWord (writeWord m a v) a = v := by
  have hread : read (write m a (bytes 4 v)) a 4 = bytes 4 v := by
    have hsame := @read_write m a (bytes 4 v)
    rwa [length_bytes] at hsame
  unfold readWord writeWord
  rw [hread]
  exact word_bytes h

theorem writeWord_apart (h : b < a ∨ a + 4 ≤ b) : writeWord m a v b = m b := by
  refine write_apart (h.imp id fun h => ?_)
  rwa [length_bytes]

theorem readWord_writeWord_apart (h : b + 4 ≤ a ∨ a + 4 ≤ b) :
    readWord (writeWord m a v) b = readWord m b :=
  readWord_congr fun i hi hlt => writeWord_apart (h.imp (by omega) (by omega))

theorem readWord_write_apart (h : b + 4 ≤ a ∨ a + l.length ≤ b) :
    readWord (write m a l) b = readWord m b :=
  readWord_congr fun i hi hlt => write_apart (h.imp (by omega) (by omega))

end Bytes
