import Wt88047.Lib.CircularBuffer
import Wt88047.Sensors.MultiHal
import Mathlib.Tactic.SplitIfs

/-! The queue between a sub-HAL's poll thread, which writes into its cells without the lock, and
the reader. -/

namespace Wt88047.Sensors

/-- The cells below `mCapacity` are those of the array. -/
structure SensorEventQueue where
  mCapacity : Nat
  mStart : Nat
  mSize : Nat
  mData : Nat → SensorsEvent

namespace SensorEventQueue

def new (capacity : Nat) (memory : Nat → SensorsEvent) : SensorEventQueue :=
  ⟨capacity, 0, 0, memory⟩

def getWritableRegion (requestedLength : Nat) (q : SensorEventQueue) : Option Nat × Nat :=
  if q.mSize = q.mCapacity ∨ requestedLength = 0 then (none, 0)
  else
    let firstWritable := (q.mStart + q.mSize) % q.mCapacity
    let lastWritable := firstWritable + requestedLength - 1
    -- Don't go past the end of the data array.
    let lastWritable := if q.mCapacity - 1 < lastWritable then q.mCapacity - 1 else lastWritable
    -- Don't go into the readable region.
    let lastWritable :=
      if firstWritable < q.mStart ∧ q.mStart ≤ lastWritable then q.mStart - 1 else lastWritable
    (some firstWritable, lastWritable - firstWritable + 1)

def markAsWritten (count : Nat) (q : SensorEventQueue) : SensorEventQueue :=
  { q with mSize := q.mSize + count }

def peek (q : SensorEventQueue) : Option SensorsEvent :=
  if q.mSize = 0 then none else some (q.mData q.mStart)

def dequeue (q : SensorEventQueue) : SensorEventQueue :=
  if q.mSize = 0 then q
  else { q with mSize := q.mSize - 1, mStart := (q.mStart + 1) % q.mCapacity }

def write (cell : Nat) (event : SensorsEvent) (q : SensorEventQueue) : SensorEventQueue :=
  { q with mData := Function.update q.mData cell event }

def readable (q : SensorEventQueue) : List SensorsEvent :=
  CircularBuffer.window q.mData q.mCapacity q.mStart q.mSize

def buffered (buffer n : Nat) (q : SensorEventQueue) : List SensorsEvent :=
  (List.range n).map fun i => q.mData (buffer + i)

structure Sound (q : SensorEventQueue) : Prop where
  start : q.mStart < q.mCapacity
  size : q.mSize ≤ q.mCapacity

structure Region (q : SensorEventQueue) (first length : Nat) : Prop where
  start : first = (q.mStart + q.mSize) % q.mCapacity
  inside : first + length ≤ q.mCapacity
  room : q.mSize + length ≤ q.mCapacity

variable {q : SensorEventQueue} {first length : Nat}

theorem new_sound {capacity : Nat} (h : 0 < capacity) (memory : Nat → SensorsEvent) :
    (new capacity memory).Sound := ⟨h, Nat.zero_le _⟩

theorem Sound.dequeue (h : q.Sound) : q.dequeue.Sound := by
  have hstart := h.start
  have hsize := h.size
  unfold SensorEventQueue.dequeue
  split_ifs
  · exact h
  · exact ⟨Nat.mod_lt _ (by omega), by simp only; omega⟩

theorem Sound.region (h : q.Sound) (hspace : q.mSize ≠ q.mCapacity) {requestedLength : Nat}
    (hr : 0 < requestedLength) : ∃ first length,
      q.getWritableRegion requestedLength = (some first, length) ∧ q.Region first length := by
  have hstart := h.start
  have hsize := h.size
  refine ⟨_, _, by rw [getWritableRegion, if_neg (by omega)], rfl, ?_, ?_⟩
  · have hlt := Nat.mod_lt (q.mStart + q.mSize) (show q.mCapacity > 0 by omega)
    split_ifs <;> omega
  · rcases Nat.lt_or_ge (q.mStart + q.mSize) q.mCapacity with hlt | hge
    · rw [Nat.mod_eq_of_lt hlt]
      split_ifs <;> omega
    · rw [Nat.mod_eq_sub_mod hge, Nat.mod_eq_of_lt (by omega)]
      split_ifs <;> omega

theorem Region.shorten (h : q.Region first length) {n : Nat} (hn : n ≤ length) :
    q.Region first n := by
  have hin := h.inside
  have hroom := h.room
  exact ⟨h.start, by omega, by omega⟩

theorem Region.cell (h : q.Region first length) {j : Nat} (hj : j < length) :
    first + j = (q.mStart + (q.mSize + j)) % q.mCapacity := by
  have hin := h.inside
  rw [← Nat.add_assoc, ← Nat.mod_add_mod, ← h.start, Nat.mod_eq_of_lt (by omega)]

theorem Region.separate (h : q.Region first length) {i j : Nat} (hj : j < length)
    (hi : i < q.mSize) : first + j ≠ (q.mStart + i) % q.mCapacity := by
  have hroom := h.room
  rw [h.cell hj]
  exact (CircularBuffer.index_ne (by omega) (by omega)).symm

theorem dequeue_mData (q : SensorEventQueue) : q.dequeue.mData = q.mData := by
  unfold SensorEventQueue.dequeue
  split_ifs <;> rfl

theorem Region.dequeue (h : q.Region first length) : q.dequeue.Region first length := by
  have hstart' := h.start
  have hroom := h.room
  unfold SensorEventQueue.dequeue
  split_ifs with h0
  · exact h
  · refine ⟨?_, h.inside, by simp only; omega⟩
    rw [hstart']
    simp only [Nat.mod_add_mod]
    congr 1
    omega

theorem Region.write (h : q.Region first length) (cell : Nat) (event : SensorsEvent) :
    (q.write cell event).Region first length := ⟨h.start, h.inside, h.room⟩

theorem Region.readable_write (h : q.Region first length) {j : Nat} (hj : j < length)
    (event : SensorsEvent) : (q.write (first + j) event).readable = q.readable := by
  have hroom := h.room
  rw [h.cell hj]
  exact CircularBuffer.window_update (Nat.le_add_right q.mSize j) (by omega) event

theorem Region.readable_mark (h : q.Region first length) {n : Nat} (hn : n ≤ length) :
    (q.markAsWritten n).readable = q.readable ++ q.buffered first n := by
  have hsplit : (q.markAsWritten n).readable = q.readable ++
      CircularBuffer.window q.mData q.mCapacity (q.mStart + q.mSize) n :=
    CircularBuffer.window_add n
  rw [hsplit]
  congr 1
  apply List.map_congr_left
  intro i hi
  have hlt := List.mem_range.mp hi
  rw [h.cell (show i < length by omega), Nat.add_assoc]

theorem Region.mark_sound (h : q.Region first length) (hs : q.Sound) {n : Nat} (hn : n ≤ length) :
    (q.markAsWritten n).Sound := by
  have hroom := h.room
  exact ⟨hs.start, by simp only [markAsWritten]; omega⟩

theorem Sound.readable_cases (h : q.Sound) : (q.peek = none ∧ q.readable = []) ∨
    ∃ event, q.peek = some event ∧ q.readable = event :: q.dequeue.readable := by
  cases hn : q.mSize with
  | zero => exact Or.inl ⟨by simp [peek, hn], by simp [readable, hn]⟩
  | succ n =>
    have hdeq : q.dequeue = { q with mSize := n, mStart := (q.mStart + 1) % q.mCapacity } := by
      simp [SensorEventQueue.dequeue, hn]
    refine Or.inr ⟨q.mData q.mStart, by simp [peek, hn], ?_⟩
    simp only [hdeq, readable, hn, CircularBuffer.window_succ, Nat.mod_eq_of_lt h.start]

theorem readable_eq_nil : q.readable = [] ↔ q.mSize = 0 := by
  rw [← List.length_eq_zero_iff, readable, CircularBuffer.length_window]

end SensorEventQueue

end Wt88047.Sensors
