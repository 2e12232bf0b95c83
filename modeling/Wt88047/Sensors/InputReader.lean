import Wt88047.Lib.CircularBuffer
import Mathlib.Tactic.SplitIfs

/-! The ring of input events between a sensor's device node and its driver. The array is twice as
long as the ring, so that a `read` may run over its end. -/

namespace Wt88047.Sensors

structure InputEvent where
  time : Int
  type : Nat
  code : Nat
  value : Int
  deriving DecidableEq

def evSyn : Nat := 0
def evAbs : Nat := 3
def synReport : Nat := 0
def synTimeSec : Nat := 4
def synTimeNsec : Nat := 5

/-- What `read` gives back: an error, a size that is not one of whole events, or events. -/
inductive ReadResult
  | failed (errno : Int)
  | ragged
  | events (es : List InputEvent)
  deriving DecidableEq

structure InputEventCircularReader where
  numEvents : Nat
  mBuffer : Nat → InputEvent
  mHead : Nat
  mCurr : Nat
  mFreeSpace : Nat

namespace InputEventCircularReader

def new (numEvents : Nat) (memory : Nat → InputEvent) : InputEventCircularReader :=
  ⟨numEvents, memory, 0, 0, numEvents⟩

/-- The events are written from `mHead` on; what lies behind the end is copied to the start. -/
def append (es : List InputEvent) (r : InputEventCircularReader) : InputEventCircularReader :=
  let written := fun c => if r.mHead ≤ c then es.getD (c - r.mHead) (r.mBuffer c) else r.mBuffer c
  let head := r.mHead + es.length
  let freeSpace := r.mFreeSpace - es.length
  if r.numEvents < head then
    let s := head - r.numEvents
    { r with
      mBuffer := fun c => if c < s then written (r.numEvents + c) else written c
      mHead := s
      mFreeSpace := freeSpace }
  else { r with mBuffer := written, mHead := head, mFreeSpace := freeSpace }

/-- `fill`, when there is free space, with what `read` gives back: no more than it was asked for. -/
def fill (result : ReadResult) (r : InputEventCircularReader) :
    Option (Int × InputEventCircularReader) :=
  match result with
  | .failed errno => some (-errno, r)
  | .ragged => some (-22, r)
  | .events es =>
    if es.length ≤ r.mFreeSpace then
      some (es.length, if es = [] then r else r.append es)
    else none

def available (r : InputEventCircularReader) : Nat := r.numEvents - r.mFreeSpace

def readEvent (r : InputEventCircularReader) : Option InputEvent :=
  if r.available = 0 then none else some (r.mBuffer r.mCurr)

def next (r : InputEventCircularReader) : InputEventCircularReader :=
  { r with
    mFreeSpace := r.mFreeSpace + 1
    mCurr := if r.numEvents ≤ r.mCurr + 1 then 0 else r.mCurr + 1 }

def contents (r : InputEventCircularReader) : List InputEvent :=
  CircularBuffer.window r.mBuffer r.numEvents r.mCurr r.available

structure Sound (r : InputEventCircularReader) : Prop where
  curr : r.mCurr < r.numEvents
  free : r.mFreeSpace ≤ r.numEvents
  headLe : r.mHead ≤ r.numEvents
  head : r.mHead % r.numEvents = (r.mCurr + r.available) % r.numEvents

variable {r : InputEventCircularReader} {es : List InputEvent}

theorem new_sound {numEvents : Nat} (h : 0 < numEvents) (memory : Nat → InputEvent) :
    (new numEvents memory).Sound ∧ (new numEvents memory).contents = [] := by
  refine ⟨⟨h, le_refl _, Nat.zero_le _, ?_⟩, ?_⟩
  · simp [new, available]
  · simp [new, contents, available]

theorem length_contents : r.contents.length = r.available := CircularBuffer.length_window

theorem Sound.append_cell (h : r.Sound) (hes : es.length ≤ r.mFreeSpace) :
    (∀ i (hi : i < es.length),
      (r.append es).mBuffer ((r.mHead + i) % r.numEvents) = es.get ⟨i, hi⟩) ∧
    ∀ c < r.numEvents, (∀ i < es.length, c ≠ (r.mHead + i) % r.numEvents) →
      (r.append es).mBuffer c = r.mBuffer c := by
  have hfree := h.free
  have hle := h.headLe
  have hwrap : ∀ i < es.length, (r.mHead + i < r.numEvents ∧
      (r.mHead + i) % r.numEvents = r.mHead + i) ∨ (r.numEvents ≤ r.mHead + i ∧
      (r.mHead + i) % r.numEvents = r.mHead + i - r.numEvents) := by
    intro i hi
    rcases Nat.lt_or_ge (r.mHead + i) r.numEvents with hlt | hge
    · exact Or.inl ⟨hlt, Nat.mod_eq_of_lt hlt⟩
    · refine Or.inr ⟨hge, ?_⟩
      rw [Nat.mod_eq_sub_mod hge, Nat.mod_eq_of_lt (by omega)]
  constructor
  · intro i hi
    have hget : es.getD i (r.mBuffer (r.mHead + i)) = es.get ⟨i, hi⟩ := by
      simp [List.getD_eq_getElem?_getD, List.getElem?_eq_getElem hi]
    rcases hwrap i hi with ⟨hlt, he⟩ | ⟨hge, he⟩
    · rw [he]
      simp only [append]
      split_ifs with hn
      · simp only
        rw [if_neg (by omega), if_pos (by omega), Nat.add_sub_cancel_left, hget]
      · simp only
        rw [if_pos (by omega), Nat.add_sub_cancel_left, hget]
    · rw [he]
      simp only [append]
      rw [if_pos (by omega)]
      simp only
      rw [if_pos (by omega), if_pos (by omega)]
      rw [show r.numEvents + (r.mHead + i - r.numEvents) = r.mHead + i by omega,
        Nat.add_sub_cancel_left, hget]
  · intro c hc hnot
    have hout : ∀ d, r.mHead + es.length ≤ d → es.getD (d - r.mHead) (r.mBuffer d) = r.mBuffer d := by
      intro d hd
      rw [List.getD_eq_getElem?_getD, List.getElem?_eq_none (by omega), Option.getD_none]
    have hkeep : (if r.mHead ≤ c then es.getD (c - r.mHead) (r.mBuffer c) else r.mBuffer c) =
        r.mBuffer c := by
      split_ifs with hge
      · apply hout
        by_contra hlt
        have hne := hnot (c - r.mHead) (by omega)
        rw [show r.mHead + (c - r.mHead) = c by omega, Nat.mod_eq_of_lt hc] at hne
        exact hne rfl
      · rfl
    simp only [append]
    split_ifs with hn
    · simp only
      rw [if_neg, hkeep]
      intro hlt
      have hne := hnot (c + r.numEvents - r.mHead) (by omega)
      rw [show r.mHead + (c + r.numEvents - r.mHead) = c + r.numEvents by omega,
        Nat.add_mod_right, Nat.mod_eq_of_lt hc] at hne
      exact hne rfl
    · exact hkeep

theorem Sound.append (h : r.Sound) (hes : es.length ≤ r.mFreeSpace) :
    (r.append es).Sound ∧ (r.append es).contents = r.contents ++ es := by
  have hcurr := h.curr
  have hfree := h.free
  have hle := h.headLe
  have hhead := h.head
  obtain ⟨hnew, hold⟩ := h.append_cell hes
  have hfields : (r.append es).numEvents = r.numEvents ∧ (r.append es).mCurr = r.mCurr ∧
      (r.append es).mFreeSpace = r.mFreeSpace - es.length ∧ (r.append es).mHead ≤ r.numEvents ∧
      (r.append es).mHead % r.numEvents = (r.mHead + es.length) % r.numEvents := by
    simp only [InputEventCircularReader.append]
    split_ifs with hn
    · refine ⟨rfl, rfl, rfl, by simp only; omega, ?_⟩
      simp only
      rw [Nat.mod_eq_sub_mod (by omega : r.mHead + es.length ≥ r.numEvents)]
    · exact ⟨rfl, rfl, rfl, by simp only; omega, rfl⟩
  obtain ⟨hn, hc, hf, hhead', hmod⟩ := hfields
  have havail : (r.append es).available = r.available + es.length := by
    simp only [available, hn, hf]
    omega
  have hplace : ∀ i, (r.mCurr + r.available + i) % r.numEvents = (r.mHead + i) % r.numEvents := by
    intro i
    rw [Nat.add_mod, ← hhead, ← Nat.add_mod]
  refine ⟨⟨by rw [hc, hn]; exact hcurr, by rw [hf, hn]; omega, by rw [hn]; exact hhead', ?_⟩, ?_⟩
  · rw [hn, hmod, hc, havail, ← Nat.add_assoc, hplace]
  · rw [contents, hn, hc, havail, CircularBuffer.window_add]
    congr 1
    · apply List.map_congr_left
      intro j hj
      have hlt := List.mem_range.mp hj
      apply hold _ (Nat.mod_lt _ (by omega))
      intro i hi
      rw [← hplace, Nat.add_assoc]
      refine CircularBuffer.index_ne (by omega) ?_
      simp only [available] at hlt ⊢
      omega
    · apply List.ext_getElem
      · simp
      · intro i hi hi'
        simp only [CircularBuffer.window, List.getElem_map, List.getElem_range, hplace]
        rw [hnew i hi']
        rfl

theorem Sound.fill_events (h : r.Sound) (hes : es.length ≤ r.mFreeSpace) : ∃ reader,
    r.fill (.events es) = some ((es.length : Int), reader) ∧ reader.Sound ∧
    reader.contents = r.contents ++ es ∧ reader.numEvents = r.numEvents := by
  rw [fill, if_pos hes]
  by_cases hnil : es = []
  · rw [if_pos hnil]
    exact ⟨r, rfl, h, by simp [hnil], rfl⟩
  · rw [if_neg hnil]
    obtain ⟨hsound, hcontents⟩ := h.append hes
    refine ⟨r.append es, rfl, hsound, hcontents, ?_⟩
    rw [InputEventCircularReader.append]
    split <;> rfl

theorem Sound.readEvent_cases (h : r.Sound) : (r.readEvent = none ∧ r.contents = []) ∨
    ∃ event, r.readEvent = some event ∧ r.contents = event :: r.next.contents ∧ r.next.Sound := by
  have hcurr := h.curr
  have hfree := h.free
  cases hn : r.available with
  | zero => exact Or.inl ⟨by simp [readEvent, hn], by simp [contents, hn]⟩
  | succ n =>
    have hwrap : r.next.mCurr = (r.mCurr + 1) % r.numEvents := by
      simp only [next]
      split_ifs with hge
      · rw [show r.mCurr + 1 = r.numEvents by omega, Nat.mod_self]
      · rw [Nat.mod_eq_of_lt (by omega)]
    have havail : r.next.available = n := by
      simp only [available, next] at hn ⊢
      omega
    have hlt : r.next.mCurr < r.numEvents := by
      rw [hwrap]
      exact Nat.mod_lt _ (by omega)
    refine Or.inr ⟨r.mBuffer r.mCurr, by simp [readEvent, hn], ?_, hlt, ?_, h.headLe, ?_⟩
    · rw [contents, hn, CircularBuffer.window_succ, Nat.mod_eq_of_lt hcurr, contents, havail, hwrap]
      rfl
    · simp only [available, next] at hn ⊢
      omega
    · show r.mHead % r.numEvents = (r.next.mCurr + r.next.available) % r.numEvents
      rw [h.head, havail, hwrap, hn, Nat.mod_add_mod]
      congr 1
      omega

end InputEventCircularReader

end Wt88047.Sensors
