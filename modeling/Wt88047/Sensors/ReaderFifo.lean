import Wt88047.Lib.Runs
import Wt88047.Sensors.InputReader

/-! The circular reader over its array of `2 * numEvents` cells, with the accesses that `read`,
`memcpy` and the caller make to it. -/

namespace Wt88047.Sensors

/-- What `read` does: it fails, or leaves a size that is not one of whole events and scraps in the
cells, or gives events, no more than there is room for. -/
inductive ReadOutcome
  | failed (errno : Int)
  | partialEvent (scraps : List InputEvent)
  | events (es : List InputEvent)

def ReadOutcome.given (n : Nat) : ReadOutcome → List InputEvent
  | .events es => es.take n
  | _ => []

structure CheckedReader where
  reader : InputEventCircularReader
  written : Nat → Bool

namespace CheckedReader

def new (numEvents : Nat) (memory : Nat → InputEvent) : CheckedReader :=
  ⟨.new numEvents memory, fun _ => false⟩

def target (n : Nat) (m : CheckedReader) (c : Nat) : Bool :=
  decide (m.reader.mHead ≤ c ∧ c < m.reader.mHead + n)

/-- Scraps of a partial event in the cells from `mHead` on. -/
def scribble (scraps : List InputEvent) (m : CheckedReader) : CheckedReader :=
  { reader := { m.reader with
      mBuffer := fun c => bif m.target scraps.length c then scraps.getD (c - m.reader.mHead) (m.reader.mBuffer c)
        else m.reader.mBuffer c }
    written := fun c => !m.target scraps.length c && m.written c }

theorem scribble_apart (m : CheckedReader) {scraps : List InputEvent} {c : Nat}
    (hc : m.target scraps.length c = false) :
    (m.scribble scraps).reader.mBuffer c = m.reader.mBuffer c ∧
      (m.scribble scraps).written c = m.written c := by
  constructor
  · show (bif m.target scraps.length c then _ else _) = _
    rw [hc]
    rfl
  · show (!m.target scraps.length c && m.written c) = _
    rw [hc]
    rfl

/-- How many of `n` new events lie behind the end of the ring, and are copied to its start. -/
def overrun (n : Nat) (m : CheckedReader) : Nat := m.reader.mHead + n - m.reader.numEvents

def arrived (n : Nat) (m : CheckedReader) (c : Nat) : Bool := m.target n c || m.written c

/-- The events given are put into the ring. The copy may read cells that hold an event only, and it
must not overlap them. -/
def accept (es : List InputEvent) (m : CheckedReader) : Option (Int × CheckedReader) :=
  let s := m.overrun es.length
  if s ≤ m.reader.numEvents ∧ ∀ c < s, m.arrived es.length (m.reader.numEvents + c) = true then
    some (es.length, ⟨m.reader.append es, fun c => decide (c < s) || m.arrived es.length c⟩)
  else none

/-- `fill`; there is no next state when `read` may write past the array. -/
def fill (outcome : ReadOutcome) (m : CheckedReader) : Option (Int × CheckedReader) :=
  if m.reader.mFreeSpace = 0 then some (0, m)
  else if 2 * m.reader.numEvents < m.reader.mHead + m.reader.mFreeSpace then none
  else match outcome with
    | .failed errno => some (-errno, m)
    | .partialEvent scraps => some (-22, m.scribble (scraps.take m.reader.mFreeSpace))
    | .events es =>
      if es.take m.reader.mFreeSpace = [] then some (0, m) else m.accept (es.take m.reader.mFreeSpace)

/-- `readEvent` and the look at the event that it points to; there is no next state when that is
none the kernel wrote. -/
def readEvent (m : CheckedReader) : Option (Option InputEvent) :=
  if m.reader.available = 0 then some none
  else if m.reader.mCurr < 2 * m.reader.numEvents ∧ m.written m.reader.mCurr = true then
    some (some (m.reader.mBuffer m.reader.mCurr))
  else none

def SameState (m m' : CheckedReader) : Prop :=
  m'.reader.mHead = m.reader.mHead ∧ m'.reader.mCurr = m.reader.mCurr ∧
    m'.reader.mFreeSpace = m.reader.mFreeSpace ∧ m'.reader.numEvents = m.reader.numEvents ∧
    m'.reader.contents = m.reader.contents

end CheckedReader

structure ReaderRun where
  m : CheckedReader
  given : List InputEvent := []
  taken : List InputEvent := []

namespace ReaderRun

inductive Call
  | fill (outcome : ReadOutcome)
  | readEvent
  | next

/-- One call. `next` takes the event that `readEvent` shows; the drivers call it for no other. -/
def step (s : ReaderRun) : Call → Option ReaderRun
  | .fill outcome => (s.m.fill outcome).map fun r =>
      { s with m := r.2, given := s.given ++ outcome.given s.m.reader.mFreeSpace }
  | .readEvent => s.m.readEvent.map fun _ => s
  | .next => s.m.readEvent.map fun
    | none => s
    | some event =>
      { s with m := { s.m with reader := s.m.reader.next }, taken := s.taken ++ [event] }

def start (numEvents : Nat) (memory : Nat → InputEvent) : ReaderRun := { m := .new numEvents memory }

end ReaderRun

namespace CheckedReader

open InputEventCircularReader (Sound)

/-- The ring is in order, and its events are in written cells. A ring of no cells stays as it is. -/
structure Orderly (n : Nat) (m : CheckedReader) : Prop where
  size : m.reader.numEvents = n
  sound : 0 < n → m.reader.Sound
  bare : n = 0 → m.reader.mFreeSpace = 0
  held : ∀ i < m.reader.available, m.written ((m.reader.mCurr + i) % n) = true

variable {n : Nat} {m : CheckedReader} {es : List InputEvent}

theorem new_orderly (n : Nat) (memory : Nat → InputEvent) :
    (new n memory).Orderly n ∧ (new n memory).reader.contents = [] := by
  have hempty : (new n memory).reader.available = 0 := Nat.sub_self n
  refine ⟨⟨rfl, fun hn => (InputEventCircularReader.new_sound hn memory).1, fun hn => hn, ?_⟩, ?_⟩
  · intro i hi
    omega
  · rw [InputEventCircularReader.contents, hempty, CircularBuffer.window_zero]

theorem Orderly.free_le (h : m.Orderly n) : m.reader.mFreeSpace ≤ n := by
  rcases Nat.eq_zero_or_pos n with hn | hn
  · exact (h.bare hn).le.trans (Nat.zero_le n)
  · exact h.size ▸ (h.sound hn).free

theorem Orderly.available_add_free (h : m.Orderly n) :
    m.reader.available + m.reader.mFreeSpace = n := by
  have hle := h.free_le
  have hsize := h.size
  simp only [InputEventCircularReader.available]
  omega

theorem Orderly.pos (h : m.Orderly n) (hfree : m.reader.mFreeSpace ≠ 0) : 0 < n :=
  Nat.pos_of_ne_zero fun hn => hfree (h.bare hn)

theorem Orderly.room (h : m.Orderly n) (hfree : m.reader.mFreeSpace ≠ 0) :
    ¬2 * m.reader.numEvents < m.reader.mHead + m.reader.mFreeSpace := by
  have hle := (h.sound (h.pos hfree)).headLe
  have hsize := h.size
  have hspace := h.free_le
  omega

theorem Orderly.held_apart (h : m.Orderly n) (hn : 0 < n) {i j : Nat} (hi : i < m.reader.available)
    (hj : j < m.reader.mFreeSpace) : (m.reader.mCurr + i) % n ≠ m.reader.mHead + j := by
  intro he
  have hsum := h.available_add_free
  have hhead := (h.sound hn).head
  rw [h.size] at hhead
  have hlt := Nat.mod_lt (m.reader.mCurr + i) hn
  have hcell : (m.reader.mHead + j) % n = (m.reader.mCurr + (m.reader.available + j)) % n := by
    rw [Nat.add_mod, hhead, ← Nat.add_mod, Nat.add_assoc]
  have hsame : (m.reader.mCurr + i) % n = (m.reader.mCurr + (m.reader.available + j)) % n := by
    rw [← hcell, ← he, Nat.mod_mod]
  exact CircularBuffer.index_ne (by omega) (by omega) hsame

theorem Orderly.scribble (h : m.Orderly n) {scraps : List InputEvent}
    (hlen : scraps.length ≤ m.reader.mFreeSpace) (hn : 0 < n) :
    (m.scribble scraps).Orderly n ∧ m.SameState (m.scribble scraps) := by
  have hs := h.sound hn
  have hout : ∀ i < m.reader.available, m.target scraps.length ((m.reader.mCurr + i) % n) = false := by
    intro i hi
    apply decide_eq_false
    rintro ⟨hge, hlt⟩
    exact h.held_apart hn (j := (m.reader.mCurr + i) % n - m.reader.mHead) hi (by omega) (by omega)
  refine ⟨⟨h.size, fun _ => ⟨hs.curr, hs.free, hs.headLe, hs.head⟩, h.bare, ?_⟩, rfl, rfl, rfl, rfl, ?_⟩
  · intro i hi
    exact (m.scribble_apart (hout i hi)).2.trans (h.held i hi)
  · apply List.map_congr_left
    intro i hi
    exact (m.scribble_apart (h.size ▸ hout i (List.mem_range.mp hi))).1

theorem Orderly.accept (h : m.Orderly n) (hn : 0 < n) (hlen : es.length ≤ m.reader.mFreeSpace) :
    ∃ m', m.accept es = some ((es.length : Int), m') ∧ m'.Orderly n ∧
      m'.reader.contents = m.reader.contents ++ es := by
  have hs := h.sound hn
  have hsize := h.size
  have hfree := h.free_le
  have hle := hs.headLe
  obtain ⟨hsound, hcontents⟩ := hs.append hlen
  have hroom : m.overrun es.length ≤ m.reader.numEvents ∧
      ∀ c < m.overrun es.length, m.arrived es.length (m.reader.numEvents + c) = true := by
    simp only [overrun]
    refine ⟨by omega, fun c hc => ?_⟩
    rw [arrived, target, decide_eq_true (by omega), Bool.true_or]
  have hfields : (m.reader.append es).numEvents = n ∧ (m.reader.append es).mCurr = m.reader.mCurr ∧
      (m.reader.append es).mFreeSpace = m.reader.mFreeSpace - es.length := by
    simp only [InputEventCircularReader.append]
    split <;> exact ⟨hsize, rfl, rfl⟩
  obtain ⟨hnum, hcurr, hspace⟩ := hfields
  refine ⟨_, if_pos hroom, ⟨hnum, fun _ => hsound, fun h0 => absurd h0 hn.ne', ?_⟩, hcontents⟩
  intro i hi
  have hsum := h.available_add_free
  simp only [InputEventCircularReader.available, hnum, hspace] at hi
  show (decide (_ < m.overrun es.length) || m.arrived es.length ((_ + i) % n)) = true
  rw [hcurr, arrived]
  rcases Nat.lt_or_ge i m.reader.available with hold | hnew
  · rw [h.held i hold, Bool.or_true, Bool.or_true]
  · -- the new events follow from `mHead` on, those behind the end at the start of the ring
    have hhead := hs.head
    rw [hsize] at hhead
    have hcell : (m.reader.mCurr + i) % n = (m.reader.mHead + (i - m.reader.available)) % n := by
      rw [Nat.add_mod m.reader.mHead, hhead, ← Nat.add_mod]
      congr 1
      omega
    rw [hcell]
    rcases Nat.lt_or_ge (m.reader.mHead + (i - m.reader.available)) n with hlt | hge
    · rw [Nat.mod_eq_of_lt hlt]
      have hin : m.reader.mHead ≤ m.reader.mHead + (i - m.reader.available) ∧
          m.reader.mHead + (i - m.reader.available) < m.reader.mHead + es.length := by omega
      rw [target, decide_eq_true hin, Bool.true_or, Bool.or_true]
    · have hwrap : (m.reader.mHead + (i - m.reader.available)) % n =
          m.reader.mHead + (i - m.reader.available) - n := by
        rw [Nat.mod_eq_sub_mod hge, Nat.mod_eq_of_lt (by omega)]
      rw [hwrap, decide_eq_true (by simp only [overrun]; omega), Bool.true_or]

theorem Orderly.fill (h : m.Orderly n) (outcome : ReadOutcome) : ∃ code m',
    m.fill outcome = some (code, m') ∧ m'.Orderly n ∧
      m'.reader.contents = m.reader.contents ++ outcome.given m.reader.mFreeSpace := by
  by_cases hfree : m.reader.mFreeSpace = 0
  · refine ⟨0, m, if_pos hfree, h, ?_⟩
    rw [hfree]
    cases outcome <;> simp [ReadOutcome.given]
  · have hn := h.pos hfree
    simp only [CheckedReader.fill, if_neg hfree, if_neg (h.room hfree)]
    cases outcome with
    | failed errno => exact ⟨-errno, m, rfl, h, (List.append_nil _).symm⟩
    | partialEvent scraps =>
      obtain ⟨ho, -, -, -, -, hc⟩ := h.scribble (List.length_take_le m.reader.mFreeSpace scraps) hn
      exact ⟨-22, _, rfl, ho, hc.trans (List.append_nil _).symm⟩
    | events es =>
      by_cases hnil : es.take m.reader.mFreeSpace = []
      · exact ⟨0, m, if_pos hnil, h, by rw [ReadOutcome.given, hnil, List.append_nil]⟩
      · obtain ⟨m', hm, ho, hc⟩ := h.accept hn (List.length_take_le m.reader.mFreeSpace es)
        exact ⟨_, m', (if_neg hnil).trans hm, ho, hc⟩

theorem Orderly.readEvent (h : m.Orderly n) : m.readEvent = some m.reader.contents.head? ∧
    ∀ event, m.reader.contents.head? = some event →
      m.reader.contents = event :: m.reader.next.contents ∧
      ({ m with reader := m.reader.next } : CheckedReader).Orderly n := by
  rcases Nat.eq_zero_or_pos m.reader.available with hnone | hsome
  · have hnil : m.reader.contents = [] := by
      rw [InputEventCircularReader.contents, hnone, CircularBuffer.window_zero]
    rw [hnil, CheckedReader.readEvent, if_pos hnone]
    exact ⟨rfl, fun event he => absurd he.symm (Option.some_ne_none event)⟩
  · have hsum := h.available_add_free
    have hsize := h.size
    have hn : 0 < n := by omega
    have hs := h.sound hn
    have hcurr := hs.curr
    have hin : (m.reader.mCurr + 0) % n = m.reader.mCurr := Nat.mod_eq_of_lt (by omega)
    have hheld := h.held 0 hsome
    rw [hin] at hheld
    rcases hs.readEvent_cases with ⟨-, hnil⟩ | ⟨event, hevent, hcontents, hnext⟩
    · have hlen := InputEventCircularReader.length_contents (r := m.reader)
      rw [hnil, List.length_nil] at hlen
      omega
    · rw [InputEventCircularReader.readEvent, if_neg hsome.ne'] at hevent
      rw [hcontents, CheckedReader.readEvent, if_neg hsome.ne', if_pos ⟨by omega, hheld⟩, hevent]
      refine ⟨rfl, fun e he => ?_⟩
      obtain rfl := Option.some.inj he
      refine ⟨rfl, hsize, fun _ => hnext, fun h0 => absurd h0 hn.ne', fun i hi => ?_⟩
      have hmove : (m.reader.next.mCurr + i) % n = (m.reader.mCurr + (i + 1)) % n := by
        simp only [InputEventCircularReader.next, hsize]
        split
        · rw [show m.reader.mCurr + (i + 1) = i + n by omega, Nat.add_mod_right, Nat.zero_add]
        · congr 1
          omega
      show m.written ((m.reader.next.mCurr + i) % n) = true
      rw [hmove]
      apply h.held
      simp only [InputEventCircularReader.available, InputEventCircularReader.next] at hi ⊢
      omega

end CheckedReader

namespace ReaderRun

variable {n : Nat} {s : ReaderRun}

/-- What was given is what was taken and what can still be read, in this order. -/
structure InOrder (n : Nat) (s : ReaderRun) : Prop where
  orderly : s.m.Orderly n
  order : s.given = s.taken ++ s.m.reader.contents

theorem InOrder.step (h : s.InOrder n) (call : Call) : ∃ t, s.step call = some t ∧ t.InOrder n := by
  obtain ⟨hread, hnext⟩ := h.orderly.readEvent
  cases call with
  | fill outcome =>
    obtain ⟨code, m', hfill, horderly, hcontents⟩ := h.orderly.fill outcome
    refine ⟨_, Option.map_eq_some_iff.mpr ⟨(code, m'), hfill, rfl⟩, horderly, ?_⟩
    show s.given ++ _ = s.taken ++ m'.reader.contents
    rw [hcontents, h.order, List.append_assoc]
  | readEvent => exact ⟨s, Option.map_eq_some_iff.mpr ⟨_, hread, rfl⟩, h⟩
  | next =>
    refine ⟨_, Option.map_eq_some_iff.mpr ⟨_, hread, rfl⟩, ?_⟩
    cases hfirst : s.m.reader.contents.head? with
    | none => exact h
    | some event =>
      obtain ⟨hcontents, horderly⟩ := hnext event hfirst
      refine ⟨horderly, ?_⟩
      show s.given = (s.taken ++ [event]) ++ s.m.reader.next.contents
      rw [h.order, hcontents, List.append_assoc, List.singleton_append]

/-- Every sequence of calls stays within the array. The events come out once each and in the order
in which they were given, and a `read` that fails or gives a partial event changes nothing. -/
theorem events_read_in_order (numEvents : Nat) (memory : Nat → InputEvent) (calls : List Call) :
    ∃ s, Runs.play step (start numEvents memory) calls = some s ∧
      s.given = s.taken ++ s.m.reader.contents ∧
      s.m.readEvent = some (s.given.drop s.taken.length).head? ∧
      s.m.reader.contents.length = s.m.reader.available ∧
      s.m.reader.available + s.m.reader.mFreeSpace = numEvents ∧
      (∀ errno, ∃ code, s.m.fill (.failed errno) = some (code, s.m)) ∧
      ∀ scraps, ∃ code m', s.m.fill (.partialEvent scraps) = some (code, m') ∧ s.m.SameState m' := by
  obtain ⟨horderly, hempty⟩ := CheckedReader.new_orderly numEvents memory
  have hstart : (start numEvents memory).InOrder numEvents := ⟨horderly, hempty.symm⟩
  obtain ⟨s, hs, h⟩ := Runs.play_total (fun s e h _ => h.step e) hstart
    (Runs.Along.of_forall (P := fun _ _ => True) (fun _ _ _ => trivial) _)
  refine ⟨s, hs, h.order, ?_, InputEventCircularReader.length_contents,
    h.orderly.available_add_free, fun errno => ?_, fun scraps => ?_⟩
  · rw [h.order, List.drop_left, h.orderly.readEvent.1]
  · by_cases hfree : s.m.reader.mFreeSpace = 0
    · exact ⟨0, if_pos hfree⟩
    · exact ⟨-errno, (if_neg hfree).trans (if_neg (h.orderly.room hfree))⟩
  · by_cases hfree : s.m.reader.mFreeSpace = 0
    · exact ⟨0, s.m, if_pos hfree, rfl, rfl, rfl, rfl, rfl⟩
    · exact ⟨-22, _, (if_neg hfree).trans (if_neg (h.orderly.room hfree)),
        (h.orderly.scribble (List.length_take_le _ scraps) (h.orderly.pos hfree)).2⟩

end ReaderRun

end Wt88047.Sensors
