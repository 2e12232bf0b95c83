import Wt88047.Sensors.EventQueue
import Wt88047.Sensors.MultiHalRouting

/-! The poll threads of the sub-HALs, each filling its queue, and the reader that empties them. A
step is a section under the lock, or what a thread does between two of them; the reader's scan is
taken turn by turn. -/

namespace Wt88047.Sensors

inductive WriterTask
  | locking
  | waitingForSpace (signalled : Bool)
  | polling (buffer : Option Nat) (bufferSize : Nat)
  | marking (buffer eventsPolled : Nat)
  deriving DecidableEq

def WriterTask.signal : WriterTask → WriterTask
  | .waitingForSpace _ => .waitingForSpace true
  | w => w

structure Channel where
  queue : SensorEventQueue
  writer : WriterTask
  polled : List SensorsEvent

namespace Channel

/-- `waitForSpace`, then `getWritableRegion`. -/
def reserve (c : Channel) : Channel :=
  if c.queue.mSize = c.queue.mCapacity then { c with writer := .waitingForSpace false }
  else
    let region := c.queue.getWritableRegion sensorEventQueueCapacity
    { c with writer := .polling region.1 region.2 }

def lockQueue (c : Channel) : Option Channel :=
  match c.writer with
  | .locking => some c.reserve
  | _ => none

def spaceAvailable (c : Channel) : Option Channel :=
  match c.writer with
  | .waitingForSpace _ => some c.reserve
  | _ => none

/-- The device writes the event into its buffer, at `j`. -/
def write (j : Nat) (event : SensorsEvent) (c : Channel) : Option Channel :=
  match c.writer with
  | .polling (some buffer) bufferSize =>
    if j < bufferSize then some { c with queue := c.queue.write (buffer + j) event } else none
  | _ => none

/-- The device's `poll` returns, with no more events than the buffer holds. -/
def pollReturned (eventsPolled : Int) (c : Channel) : Option Channel :=
  match c.writer with
  | .polling buffer bufferSize =>
    if eventsPolled ≤ 0 then some { c with writer := .locking }
    else
      match buffer with
      | some buffer =>
        if eventsPolled ≤ bufferSize then
          some { c with
            writer := .marking buffer eventsPolled.toNat
            polled := c.polled ++ c.queue.buffered buffer eventsPolled.toNat }
        else none
      | none => none
  | _ => none

def markAsWritten (c : Channel) : Option Channel :=
  match c.writer with
  | .marking _ eventsPolled =>
    some { c with queue := c.queue.markAsWritten eventsPolled, writer := .locking }
  | _ => none

def dequeue (c : Channel) : Channel :=
  { c with
    queue := c.queue.dequeue
    writer := if c.queue.mSize = c.queue.mCapacity then c.writer.signal else c.writer }

end Channel

/-- Where the reader is in `poll`; it has the lock while it scans. -/
inductive PollTask
  | idle
  | scanning (maxReads : Int) (empties : Nat) (data : List SensorsEvent)
  | waiting (maxReads : Int) (signalled : Bool)
  deriving DecidableEq

def PollTask.data : PollTask → List SensorsEvent
  | .scanning _ _ data => data
  | _ => []

def SensorsEvent.localHandle (e : SensorsEvent) : Int :=
  if e.type = metaData then e.metaDataSensor else e.sensor

structure Taken where
  index : Nat
  event : SensorsEvent
  handle : Option Int
  deriving DecidableEq

def Taken.due (x : Taken) : Option SensorsEvent := x.handle.map x.event.withHandle

/-- `taken` and `returned` record the past: what left the queues, and the polls that returned. -/
structure EventHal where
  table : HandleTable
  channels : List Channel
  nextReadIndex : Nat
  reader : PollTask
  waitingForData : Bool
  taken : List Taken
  returned : List (Int × List SensorsEvent)

inductive EventHalEvent
  | assignGlobalHandle (moduleIndex : Nat) (localHandle : Int)
  | lockQueue (k : Nat)
  | spaceAvailable (k : Nat)
  | write (k j : Nat) (event : SensorsEvent)
  | pollReturned (k : Nat) (eventsPolled : Int)
  | markAsWritten (k : Nat)
  | poll (maxReads : Int)
  | pollTurn
  | pollScanned
  | dataAvailable

namespace EventHal

def init (queueCount : Nat) (memory : Nat → Nat → SensorsEvent) : EventHal where
  table := .empty
  channels := (List.range queueCount).map fun k =>
    ⟨.new sensorEventQueueCapacity (memory k), .locking, []⟩
  nextReadIndex := 0
  reader := .idle
  waitingForData := false
  taken := []
  returned := []

def mutexLocked (s : EventHal) : Bool :=
  match s.reader with
  | .scanning .. => true
  | _ => false

def onChannel (k : Nat) (f : Channel → Option Channel) (s : EventHal) : Option EventHal :=
  match s.channels[k]? with
  | none => none
  | some c => (f c).map fun c => { s with channels := s.channels.set k c }

def underLock (k : Nat) (f : Channel → Option Channel) (s : EventHal) : Option EventHal :=
  if s.mutexLocked then none else s.onChannel k f

def broadcast (s : EventHal) : EventHal :=
  match s.reader with
  | .waiting maxReads _ => { s with reader := .waiting maxReads true }
  | _ => s

def markAsWritten (k : Nat) (s : EventHal) : Option EventHal :=
  (s.underLock k Channel.markAsWritten).map fun s => if s.waitingForData then s.broadcast else s

def poll (maxReads : Int) (s : EventHal) : Option EventHal :=
  match s.reader with
  | .idle => some { s with reader := .scanning maxReads 0 [] }
  | _ => none

def pollTurn (s : EventHal) : Option EventHal :=
  match s.reader with
  | .scanning maxReads empties data =>
    if empties < s.channels.length ∧ (data.length : Int) < maxReads then
      let next := (s.nextReadIndex + 1) % s.channels.length
      match s.channels[s.nextReadIndex]? with
      | none => none
      | some c =>
        match c.queue.peek with
        | none => some { s with
            reader := .scanning maxReads (empties + 1) data
            nextReadIndex := next }
        | some event =>
          let dest := s.table.copyEventRemapHandle event s.nextReadIndex
          let full : FullHandle := ⟨s.nextReadIndex, event.localHandle⟩
          some { s with
            reader := .scanning maxReads 0 (if dest.sensor = -1 then data else data ++ [dest])
            channels := s.channels.set s.nextReadIndex c.dequeue
            nextReadIndex := next
            taken := s.taken ++ [⟨s.nextReadIndex, event, s.table.fullToGlobal full⟩] }
    else none
  | _ => none

/-- The inner loop is over: `poll` returns, or waits when it has read nothing. -/
def pollScanned (s : EventHal) : Option EventHal :=
  match s.reader with
  | .scanning maxReads empties data =>
    if empties < s.channels.length ∧ (data.length : Int) < maxReads then none
    else if data = [] then
      some { s with reader := .waiting maxReads false, waitingForData := true }
    else some { s with reader := .idle, returned := s.returned ++ [(maxReads, data)] }
  | _ => none

/-- `pthread_cond_wait` returns to the reader, for whatever reason. -/
def dataAvailable (s : EventHal) : Option EventHal :=
  match s.reader with
  | .waiting maxReads _ =>
    some { s with reader := .scanning maxReads 0 [], waitingForData := false }
  | _ => none

def step (s : EventHal) : EventHalEvent → Option EventHal
  | .assignGlobalHandle i l => some { s with table := (s.table.assignGlobalHandle i l).2 }
  | .lockQueue k => s.underLock k Channel.lockQueue
  | .spaceAvailable k => s.underLock k Channel.spaceAvailable
  | .write k j event => s.onChannel k (Channel.write j event)
  | .pollReturned k eventsPolled => s.onChannel k (Channel.pollReturned eventsPolled)
  | .markAsWritten k => s.markAsWritten k
  | .poll maxReads => s.poll maxReads
  | .pollTurn => s.pollTurn
  | .pollScanned => s.pollScanned
  | .dataAvailable => s.dataAvailable

end EventHal

def WriterTask.unmarked (q : SensorEventQueue) : WriterTask → List SensorsEvent
  | .marking buffer eventsPolled => q.buffered buffer eventsPolled
  | _ => []

def WriterTask.region : WriterTask → List Nat
  | .polling (some buffer) bufferSize => (List.range bufferSize).map (buffer + ·)
  | .marking buffer eventsPolled => (List.range eventsPolled).map (buffer + ·)
  | _ => []

def WriterTask.Sound (q : SensorEventQueue) : WriterTask → Prop
  | .locking => True
  | .waitingForSpace signalled => signalled = false → q.mSize = q.mCapacity
  | .polling buffer bufferSize => ∃ first, buffer = some first ∧ q.Region first bufferSize
  | .marking buffer eventsPolled => q.Region buffer eventsPolled

namespace Channel

structure Sound (c : Channel) (taken : List SensorsEvent) : Prop where
  queue : c.queue.Sound
  writer : c.writer.Sound c.queue
  ledger : c.polled = taken ++ c.queue.readable ++ c.writer.unmarked c.queue

variable {c d : Channel} {taken : List SensorsEvent}

theorem Sound.reserve (h : c.Sound taken) (hw : c.writer.unmarked c.queue = []) :
    c.reserve.Sound taken ∧ c.reserve.queue = c.queue := by
  have hledger := h.ledger
  rw [hw] at hledger
  unfold Channel.reserve
  split_ifs with hfull
  · exact ⟨⟨h.queue, fun _ => hfull, hledger⟩, rfl⟩
  · obtain ⟨first, length, hr, hregion⟩ :=
      h.queue.region hfull (show 0 < sensorEventQueueCapacity by decide)
    rw [hr]
    exact ⟨⟨h.queue, ⟨first, rfl, hregion⟩, hledger⟩, rfl⟩

theorem Sound.lockQueue (h : c.Sound taken) (hd : c.lockQueue = some d) :
    d.Sound taken ∧ d.queue.readable = c.queue.readable := by
  simp only [Channel.lockQueue] at hd
  split at hd
  · next hw =>
    obtain rfl := Option.some.inj hd
    have hr := h.reserve (by rw [hw]; rfl)
    exact ⟨hr.1, by rw [hr.2]⟩
  · cases hd

theorem Sound.spaceAvailable (h : c.Sound taken) (hd : c.spaceAvailable = some d) :
    d.Sound taken ∧ d.queue.readable = c.queue.readable := by
  simp only [Channel.spaceAvailable] at hd
  split at hd
  · next hw =>
    obtain rfl := Option.some.inj hd
    have hr := h.reserve (by rw [hw]; rfl)
    exact ⟨hr.1, by rw [hr.2]⟩
  · cases hd

theorem Sound.write (h : c.Sound taken) {j : Nat} {event : SensorsEvent}
    (hd : c.write j event = some d) :
    d.Sound taken ∧ d.queue.readable = c.queue.readable := by
  simp only [Channel.write] at hd
  split at hd
  · next buffer bufferSize hw =>
    split_ifs at hd with hj
    obtain rfl := Option.some.inj hd
    have hwriter := h.writer
    have hledger := h.ledger
    rw [hw] at hwriter hledger
    obtain ⟨first, hfirst, hregion⟩ := hwriter
    obtain rfl := Option.some.inj hfirst
    have hkeep := hregion.readable_write hj event
    refine ⟨⟨⟨h.queue.start, h.queue.size⟩, ?_, ?_⟩, hkeep⟩
    · rw [hw]
      exact ⟨buffer, rfl, hregion.write _ _⟩
    · rw [hw, hkeep]
      exact hledger
  · cases hd

theorem Sound.pollReturned (h : c.Sound taken) {eventsPolled : Int}
    (hd : c.pollReturned eventsPolled = some d) :
    d.Sound taken ∧ d.queue.readable = c.queue.readable := by
  simp only [Channel.pollReturned] at hd
  split at hd
  · next buffer bufferSize hw =>
    have hwriter := h.writer
    have hledger := h.ledger
    rw [hw] at hwriter hledger
    obtain ⟨first, rfl, hregion⟩ := hwriter
    simp only [WriterTask.unmarked, List.append_nil] at hledger
    split_ifs at hd with hneg hle
    · obtain rfl := Option.some.inj hd
      exact ⟨⟨h.queue, trivial, by simpa [WriterTask.unmarked] using hledger⟩, rfl⟩
    · obtain rfl := Option.some.inj hd
      refine ⟨⟨h.queue, hregion.shorten (by omega), ?_⟩, rfl⟩
      simp only [hledger, WriterTask.unmarked]
  · cases hd

theorem Sound.markAsWritten (h : c.Sound taken) (hd : c.markAsWritten = some d) :
    d.Sound taken := by
  simp only [Channel.markAsWritten] at hd
  split at hd
  · next buffer eventsPolled hw =>
    obtain rfl := Option.some.inj hd
    have hwriter := h.writer
    have hledger := h.ledger
    rw [hw] at hwriter hledger
    refine ⟨hwriter.mark_sound h.queue (Nat.le_refl _), trivial, ?_⟩
    rw [hwriter.readable_mark (Nat.le_refl _)]
    simpa [WriterTask.unmarked] using hledger
  · cases hd

theorem Sound.dequeue (h : c.Sound taken) {event : SensorsEvent}
    (hp : c.queue.peek = some event) : c.dequeue.Sound (taken ++ [event]) := by
  have hledger := h.ledger
  have hwriter := h.writer
  rcases h.queue.readable_cases with ⟨hnone, -⟩ | ⟨e, he, hr⟩
  · rw [hnone] at hp
    cases hp
  · obtain rfl := Option.some.inj (he.symm.trans hp)
    have hunmarked : ∀ w : WriterTask, w.unmarked c.queue.dequeue = w.unmarked c.queue := by
      intro w
      cases w <;> simp [WriterTask.unmarked, SensorEventQueue.buffered, c.queue.dequeue_mData]
    refine ⟨h.queue.dequeue, ?_, ?_⟩
    · simp only [Channel.dequeue]
      cases hw : c.writer with
      | locking => split_ifs <;> trivial
      | waitingForSpace signalled =>
        rw [hw] at hwriter
        split_ifs with hfull
        · intro hs
          cases hs
        · intro hs
          exact absurd (hwriter hs) hfull
      | polling buffer bufferSize =>
        rw [hw] at hwriter
        obtain ⟨first, rfl, hregion⟩ := hwriter
        split_ifs <;> exact ⟨first, rfl, hregion.dequeue⟩
      | marking buffer eventsPolled =>
        rw [hw] at hwriter
        split_ifs <;> exact hwriter.dequeue
    · have hsame : ∀ w : WriterTask, w.signal.unmarked c.queue = w.unmarked c.queue := by
        intro w
        cases w <;> rfl
      simp only [Channel.dequeue, hunmarked, hledger, hr]
      split_ifs <;> simp [hsame]

end Channel

namespace HandleTable

/-- A meta-data event is not dropped by its own sensor field, and is when its sensor is unknown. -/
def Resolves (t : HandleTable) (k : Nat) (e : SensorsEvent) : Prop :=
  e.type = metaData → (e.sensor ≠ -1 ↔ (t.fullToGlobal ⟨k, e.metaDataSensor⟩).isSome)

theorem reported_eq_due {t : HandleTable} {fs : List FullHandle} (ht : t.Lists fs) (k : Nat)
    (e : SensorsEvent) :
    t.reported (k, e) = (t.fullToGlobal ⟨k, e.localHandle⟩).map e.withHandle ↔ t.Resolves k e := by
  have hpos : ∀ f g, t.fullToGlobal f = some g → g ≠ -1 := by
    intro f g hg
    have hb := ht.bounds ((ht.latest f g).mp hg).1
    omega
  by_cases hm : e.type = metaData
  · simp only [reported, copyEventRemapHandle, SensorsEvent.localHandle, Resolves, hm, if_true,
      getGlobalHandle]
    cases hg : t.fullToGlobal ⟨k, e.metaDataSensor⟩ <;> by_cases hs : e.sensor = -1 <;>
      simp [hs, SensorsEvent.withHandle, hm]
  · simp only [reported, copyEventRemapHandle, SensorsEvent.localHandle, Resolves, hm, if_false,
      getGlobalHandle]
    cases hg : t.fullToGlobal ⟨k, e.sensor⟩ with
    | none => simp
    | some g => simp [hpos _ g hg, SensorsEvent.withHandle, hm]

end HandleTable

/-- The reader waits for data only while there is none, or while it is about to wake. -/
def PollTask.Sound (queues : List (List SensorsEvent)) (nextReadIndex : Nat)
    (waitingForData : Bool) : PollTask → Prop
  | .idle => True
  | .scanning maxReads empties data =>
    Reading.Passed ⟨queues, nextReadIndex, empties, data⟩ ∧
      (data = [] ∨ (data.length : Int) ≤ maxReads)
  | .waiting maxReads signalled => waitingForData = true ∧
    (0 < maxReads → signalled = false → ∀ q ∈ queues, q = [])

namespace EventHal

variable {s u : EventHal}

def queues (s : EventHal) : List (List SensorsEvent) := s.channels.map (·.queue.readable)

def takenFrom (s : EventHal) (k : Nat) : List SensorsEvent :=
  (s.taken.filter fun x => x.index = k).map (·.event)

def delivered (s : EventHal) : List SensorsEvent :=
  s.returned.flatMap (·.2) ++ s.reader.data

def peeked (s : EventHal) : Option SensorsEvent :=
  match s.reader with
  | .scanning maxReads empties data =>
    if empties < s.channels.length ∧ (data.length : Int) < maxReads then
      s.channels[s.nextReadIndex]?.bind (·.queue.peek)
    else none
  | _ => none

structure Sound (s : EventHal) : Prop where
  table : ∃ fs, s.table.Lists fs
  channels : ∀ k (c : Channel), s.channels[k]? = some c → c.Sound (s.takenFrom k)
  next : s.nextReadIndex < s.channels.length ∨ s.channels = []
  reader : PollTask.Sound s.queues s.nextReadIndex s.waitingForData s.reader
  returned : ∀ r ∈ s.returned, (r.2.length : Int) ≤ r.1

theorem init_sound (queueCount : Nat) (memory : Nat → Nat → SensorsEvent) :
    (init queueCount memory).Sound where
  table := ⟨[], .empty⟩
  channels k c hc := by
    simp only [init, List.getElem?_map, Option.map_eq_some_iff] at hc
    obtain ⟨j, -, rfl⟩ := hc
    exact ⟨SensorEventQueue.new_sound (by decide) _, trivial, rfl⟩
  next := by
    cases queueCount with
    | zero => exact Or.inr rfl
    | succ n => exact Or.inl (by simp [init])
  reader := trivial
  returned r hr := by cases hr

theorem onChannel_sound (h : s.Sound) {k : Nat} {f : Channel → Option Channel}
    (hf : ∀ (c d : Channel) taken, c.Sound taken → f c = some d →
      d.Sound taken ∧ d.queue.readable = c.queue.readable)
    (hu : s.onChannel k f = some u) :
    u.Sound ∧ u.taken = s.taken ∧ u.reader = s.reader ∧ u.returned = s.returned := by
  simp only [onChannel] at hu
  split at hu
  · cases hu
  · next c hc =>
    obtain ⟨d, hd, rfl⟩ := Option.map_eq_some_iff.mp hu
    obtain ⟨hlt, hget⟩ := List.getElem?_eq_some_iff.mp hc
    have hchannel := hf c d _ (h.channels k c hc) hd
    have hqueues : (s.channels.set k d).map (·.queue.readable) = s.queues := by
      rw [List.map_set, hchannel.2, ← hget, queues]
      apply List.ext_getElem?
      intro i
      by_cases hi : k = i
      · subst hi
        simp [hlt]
      · rw [List.getElem?_set_ne hi]
    refine ⟨⟨h.table, fun j x hx => ?_, ?_, ?_, h.returned⟩, rfl, rfl, rfl⟩
    · by_cases hj : k = j
      · subst hj
        rw [List.getElem?_set_self hlt] at hx
        obtain rfl := Option.some.inj hx
        exact hchannel.1
      · rw [List.getElem?_set_ne hj] at hx
        exact h.channels j x hx
    · rcases h.next with hn | hn
      · exact Or.inl (by simpa using hn)
      · simp [hn] at hlt
    · show PollTask.Sound (List.map _ _) _ _ _
      rw [hqueues]
      exact h.reader

theorem underLock_eq {k : Nat} {f : Channel → Option Channel} (hu : s.underLock k f = some u) :
    s.onChannel k f = some u ∧ s.mutexLocked = false := by
  simp only [underLock] at hu
  split_ifs at hu with hlock
  exact ⟨hu, by simpa using hlock⟩

theorem markAsWritten_sound (h : s.Sound) {k : Nat} (hu : s.markAsWritten k = some u) :
    u.Sound ∧ u.taken = s.taken ∧ u.delivered = s.delivered := by
  obtain ⟨v, hv, rfl⟩ := Option.map_eq_some_iff.mp hu
  obtain ⟨hv, hlock⟩ := underLock_eq hv
  simp only [onChannel] at hv
  split at hv
  · cases hv
  · next c hc =>
    obtain ⟨d, hd, rfl⟩ := Option.map_eq_some_iff.mp hv
    have hlt := (List.getElem?_eq_some_iff.mp hc).1
    have hchannels : ∀ j (x : Channel), (s.channels.set k d)[j]? = some x → x.Sound (s.takenFrom j) := by
      intro j x hx
      by_cases hj : k = j
      · subst hj
        rw [List.getElem?_set_self hlt] at hx
        obtain rfl := Option.some.inj hx
        exact (h.channels k c hc).markAsWritten hd
      · rw [List.getElem?_set_ne hj] at hx
        exact h.channels j x hx
    have hnext : s.nextReadIndex < (s.channels.set k d).length ∨ s.channels.set k d = [] := by
      rcases h.next with hn | hn
      · exact Or.inl (by simpa using hn)
      · simp [hn] at hlt
    have hreader := h.reader
    cases hr : s.reader with
    | idle =>
      simp only [broadcast, ite_self]
      exact ⟨⟨h.table, hchannels, hnext, trivial, h.returned⟩, trivial, by simp [delivered, hr]⟩
    | scanning maxReads empties data => simp [mutexLocked, hr] at hlock
    | waiting maxReads signalled =>
      rw [hr] at hreader
      simp only [hreader.1, if_true, broadcast]
      refine ⟨⟨h.table, hchannels, hnext, ⟨rfl, fun _ hs => ?_⟩, h.returned⟩, trivial, ?_⟩
      · cases hs
      · simp [delivered, hr, PollTask.data]

theorem pollTurn_cases (hu : s.pollTurn = some u) : ∃ maxReads empties data c,
    s.reader = .scanning maxReads empties data ∧ empties < s.channels.length ∧
    (data.length : Int) < maxReads ∧ s.channels[s.nextReadIndex]? = some c ∧
    s.peeked = c.queue.peek ∧
    ((c.queue.peek = none ∧ u = { s with
        reader := .scanning maxReads (empties + 1) data
        nextReadIndex := (s.nextReadIndex + 1) % s.channels.length }) ∨
      ∃ event, c.queue.peek = some event ∧ u = { s with
        reader := .scanning maxReads 0 (data ++ (s.table.reported (s.nextReadIndex, event)).toList)
        channels := s.channels.set s.nextReadIndex c.dequeue
        nextReadIndex := (s.nextReadIndex + 1) % s.channels.length
        taken := s.taken ++ [⟨s.nextReadIndex, event,
          s.table.fullToGlobal ⟨s.nextReadIndex, event.localHandle⟩⟩] }) := by
  simp only [pollTurn] at hu
  split at hu
  · next maxReads empties data hr =>
    split_ifs at hu with hgo
    split at hu
    · cases hu
    · next c hc =>
      have hpeeked : s.peeked = c.queue.peek := by simp [peeked, hr, hgo, hc]
      refine ⟨maxReads, empties, data, c, hr, hgo.1, hgo.2, hc, hpeeked, ?_⟩
      split at hu
      · next hp => exact Or.inl ⟨hp, (Option.some.inj hu).symm⟩
      · next event hp =>
        refine Or.inr ⟨event, hp, ?_⟩
        rw [← Option.some.inj hu]
        simp only [HandleTable.reported]
        split_ifs <;> simp
  · cases hu

theorem Sound.pollTurn_reading (h : s.Sound) (hu : s.pollTurn = some u) :
    ∃ maxReads empties data empties' data', s.reader = .scanning maxReads empties data ∧
      u.reader = .scanning maxReads empties' data' ∧
      Reading.turn s.table maxReads ⟨s.queues, s.nextReadIndex, empties, data⟩ =
        some ⟨u.queues, u.nextReadIndex, empties', data'⟩ ∧ (data'.length : Int) ≤ maxReads := by
  obtain ⟨maxReads, empties, data, c, hr, hlt, hroom, hc, -, hcases⟩ := pollTurn_cases hu
  have hqueue : s.queues[s.nextReadIndex]? = some c.queue.readable := by
    simp [queues, List.getElem?_map, hc]
  have hlen : s.queues.length = s.channels.length := by simp [queues]
  have hreadable := (h.channels _ c hc).queue.readable_cases
  rcases hcases with ⟨hp, rfl⟩ | ⟨event, hp, rfl⟩
  · rcases hreadable with ⟨-, hnil⟩ | ⟨e, he, -⟩
    · refine ⟨maxReads, empties, data, empties + 1, data, hr, rfl, ?_, by omega⟩
      rw [hnil] at hqueue
      simp only [Reading.turn, hqueue, hlen]
      rw [if_pos ⟨hlt, hroom⟩]
      rfl
    · rw [hp] at he
      cases he
  · rcases hreadable with ⟨hnone, -⟩ | ⟨e, he, hcons⟩
    · rw [hp] at hnone
      cases hnone
    · obtain rfl := Option.some.inj (he.symm.trans hp)
      refine ⟨maxReads, empties, data, 0, _, hr, rfl, ?_, ?_⟩
      · rw [hcons] at hqueue
        simp only [Reading.turn, hqueue, hlen]
        rw [if_pos ⟨hlt, hroom⟩]
        simp only [queues, List.map_set, HandleTable.reported, Channel.dequeue]
        split_ifs <;> simp
      · have hone : ((s.table.reported (s.nextReadIndex, e)).toList).length ≤ 1 := by
          cases s.table.reported (s.nextReadIndex, e) <;> simp
        rw [List.length_append]
        omega

theorem Sound.pollTurn (h : s.Sound) (hu : s.pollTurn = some u) : u.Sound := by
  obtain ⟨maxReads, empties, data, empties', data', hr, hr', hturn, hle⟩ := h.pollTurn_reading hu
  have hreader := h.reader
  rw [hr] at hreader
  have hpassed := hreader.1.turn hturn
  have hnext : u.nextReadIndex < u.channels.length ∨ u.channels = [] := by
    simpa [queues] using hpassed.next
  obtain ⟨_, _, _, c, -, -, -, hc, -, ⟨-, rfl⟩ | ⟨event, hp, rfl⟩⟩ := pollTurn_cases hu
  · exact ⟨h.table, h.channels, hnext, by rw [hr']; exact ⟨hpassed, Or.inr hle⟩, h.returned⟩
  · refine ⟨h.table, fun j x hx => ?_, hnext, by rw [hr']; exact ⟨hpassed, Or.inr hle⟩, h.returned⟩
    have hlt := (List.getElem?_eq_some_iff.mp hc).1
    by_cases hj : s.nextReadIndex = j
    · subst hj
      rw [List.getElem?_set_self hlt] at hx
      obtain rfl := Option.some.inj hx
      simpa [takenFrom, List.filter_append] using (h.channels _ c hc).dequeue hp
    · rw [List.getElem?_set_ne hj] at hx
      simpa [takenFrom, List.filter_append, hj] using h.channels j x hx

theorem Sound.pollScanned (h : s.Sound) (hu : s.pollScanned = some u) :
    u.Sound ∧ u.taken = s.taken ∧ u.delivered = s.delivered := by
  simp only [EventHal.pollScanned] at hu
  split at hu
  · next maxReads empties data hr =>
    have hreader := h.reader
    rw [hr] at hreader
    obtain ⟨hpassed, hdata⟩ := hreader
    split_ifs at hu with hgo hnil
    · obtain rfl := Option.some.inj hu
      subst hnil
      have hend : Reading.turn s.table maxReads ⟨s.queues, s.nextReadIndex, empties, []⟩ = none := by
        simp only [Reading.turn]
        rw [if_neg (by simpa [queues] using hgo)]
      exact ⟨⟨h.table, h.channels, h.next, ⟨rfl, fun hpos _ => hpassed.ended hend hpos⟩, h.returned⟩,
        rfl, by simp [delivered, hr, PollTask.data]⟩
    · obtain rfl := Option.some.inj hu
      refine ⟨⟨h.table, h.channels, h.next, trivial, fun r hmem => ?_⟩, rfl, ?_⟩
      · rcases List.mem_append.mp hmem with hmem | hmem
        · exact h.returned r hmem
        · obtain rfl := List.mem_singleton.mp hmem
          exact hdata.resolve_left hnil
      · simp [delivered, hr, PollTask.data]
  · cases hu

theorem Sound.scans (h : s.Sound) {maxReads : Int}
    (hu : u = { s with reader := .scanning maxReads 0 [], waitingForData := false }) :
    u.Sound := by
  subst hu
  refine ⟨h.table, h.channels, h.next, ⟨⟨?_, Nat.zero_le _, fun j hj => ?_⟩, Or.inl rfl⟩,
    h.returned⟩
  · simpa [queues] using h.next
  · exact absurd hj (Nat.not_lt_zero j)

theorem step_sound (h : s.Sound) {e : EventHalEvent} (hu : s.step e = some u) : u.Sound ∧
    ((u.taken = s.taken ∧ u.delivered = s.delivered ∧ (e = .pollTurn → s.peeked = none)) ∨
      e = .pollTurn ∧ ∃ event, s.peeked = some event ∧
        u.taken = s.taken ++ [⟨s.nextReadIndex, event,
          s.table.fullToGlobal ⟨s.nextReadIndex, event.localHandle⟩⟩] ∧
        u.delivered = s.delivered ++ (s.table.reported (s.nextReadIndex, event)).toList) := by
  have hthread : ∀ {k f}, (∀ (c d : Channel) taken, c.Sound taken → f c = some d →
      d.Sound taken ∧ d.queue.readable = c.queue.readable) → s.onChannel k f = some u →
      u.Sound ∧ u.taken = s.taken ∧ u.delivered = s.delivered := by
    intro k f hf hk
    obtain ⟨hsound, htaken, hreader, hreturned⟩ := onChannel_sound h hf hk
    exact ⟨hsound, htaken, by simp [delivered, hreader, hreturned]⟩
  have hquiet : u.Sound ∧ u.taken = s.taken ∧ u.delivered = s.delivered → e ≠ .pollTurn →
      u.Sound ∧ ((u.taken = s.taken ∧ u.delivered = s.delivered ∧
        (e = .pollTurn → s.peeked = none)) ∨ e = .pollTurn ∧ ∃ event, s.peeked = some event ∧
          u.taken = s.taken ++ [⟨s.nextReadIndex, event,
            s.table.fullToGlobal ⟨s.nextReadIndex, event.localHandle⟩⟩] ∧
          u.delivered = s.delivered ++ (s.table.reported (s.nextReadIndex, event)).toList) := by
    intro hq he
    exact ⟨hq.1, Or.inl ⟨hq.2.1, hq.2.2, fun h => absurd h he⟩⟩
  cases e with
  | assignGlobalHandle i l =>
    refine hquiet ?_ (by simp)
    obtain rfl := Option.some.inj hu
    obtain ⟨fs, hfs⟩ := h.table
    exact ⟨⟨⟨_, (hfs.assign i l).2⟩, h.channels, h.next, h.reader, h.returned⟩, rfl, rfl⟩
  | lockQueue k =>
    exact hquiet (hthread (fun _ _ _ hc hd => hc.lockQueue hd) (underLock_eq hu).1) (by simp)
  | spaceAvailable k =>
    exact hquiet (hthread (fun _ _ _ hc hd => hc.spaceAvailable hd) (underLock_eq hu).1) (by simp)
  | write k j event => exact hquiet (hthread (fun _ _ _ hc hd => hc.write hd) hu) (by simp)
  | pollReturned k n => exact hquiet (hthread (fun _ _ _ hc hd => hc.pollReturned hd) hu) (by simp)
  | markAsWritten k => exact hquiet (markAsWritten_sound h hu) (by simp)
  | poll maxReads =>
    refine hquiet ?_ (by simp)
    simp only [step, poll] at hu
    split at hu
    · next hr =>
      obtain rfl := Option.some.inj hu
      have hs := @Sound.scans s _ h maxReads rfl
      exact ⟨⟨hs.table, hs.channels, hs.next, hs.reader, hs.returned⟩, rfl,
        by simp [delivered, hr, PollTask.data]⟩
    · cases hu
  | pollTurn =>
    refine ⟨Sound.pollTurn h hu, ?_⟩
    obtain ⟨_, _, _, c, hr, -, -, -, hpeeked, ⟨hp, rfl⟩ | ⟨event, hp, rfl⟩⟩ := pollTurn_cases hu
    · exact Or.inl ⟨rfl, by simp [delivered, hr, PollTask.data], fun _ => hpeeked.trans hp⟩
    · exact Or.inr ⟨rfl, event, hpeeked.trans hp, rfl, by simp [delivered, hr, PollTask.data]⟩
  | pollScanned => exact hquiet (Sound.pollScanned h hu) (by simp)
  | dataAvailable =>
    refine hquiet ?_ (by simp)
    simp only [step, dataAvailable] at hu
    split at hu
    · next maxReads signalled hr =>
      obtain rfl := Option.some.inj hu
      exact ⟨h.scans rfl, rfl, by simp [delivered, hr, PollTask.data]⟩
    · cases hu

theorem Sound.scan_over (h : s.Sound) {maxReads : Int} {empties : Nat} {data : List SensorsEvent}
    (hr : s.reader = .scanning maxReads empties data) (hend : s.pollTurn = none) :
    ¬ (empties < s.channels.length ∧ (data.length : Int) < maxReads) := by
  intro hgo
  rcases h.next with hn | hn
  · simp only [EventHal.pollTurn, hr, if_pos hgo, List.getElem?_eq_getElem hn] at hend
    split at hend <;> cases hend
  · simp [hn] at hgo

theorem Sound.scan_ends (h : s.Sound) (hscan : s.mutexLocked = true) : ∃ n u,
    Runs.play step s (List.replicate n EventHalEvent.pollTurn ++ [.pollScanned]) = some u := by
  obtain ⟨maxReads, empties, data, hr⟩ : ∃ maxReads empties data,
      s.reader = .scanning maxReads empties data := by
    cases hr : s.reader <;> simp [mutexLocked, hr] at hscan
    exact ⟨_, _, _, rfl⟩
  obtain ⟨v, hv⟩ : ∃ v, v = Reading.rounds ⟨s.queues, s.nextReadIndex, empties, data⟩ := ⟨_, rfl⟩
  induction v using Nat.strong_induction_on generalizing s empties data with
  | _ v ih =>
    cases ht : s.pollTurn with
    | some t =>
      obtain ⟨m, a, b, a', b', hra, hra', hturn, -⟩ := h.pollTurn_reading ht
      obtain ⟨rfl, rfl, rfl⟩ := PollTask.scanning.inj (hra.symm.trans hr)
      have hless := Reading.turn_variant hturn
      obtain ⟨n, u, hu⟩ := ih _ (by rw [hv]; exact hless) (h.pollTurn ht)
        (by simp [mutexLocked, hra']) a' b' hra' rfl
      exact ⟨n + 1, u, Runs.play_cons.mpr ⟨t, ht, hu⟩⟩
    | none =>
      have hover := h.scan_over hr ht
      obtain ⟨u, hu⟩ : ∃ u, s.pollScanned = some u := by
        simp only [EventHal.pollScanned, hr, if_neg hover]
        split_ifs <;> exact ⟨_, rfl⟩
      exact ⟨0, u, Runs.play_cons.mpr ⟨u, hu, rfl⟩⟩

structure Delivers (s : EventHal) : Prop where
  /-- The cells that are being written lie in the array, and none of them can be read. -/
  separate : ∀ c ∈ s.channels, ∀ cell ∈ c.writer.region, cell < c.queue.mCapacity ∧
    ∀ i < c.queue.mSize, cell ≠ (c.queue.mStart + i) % c.queue.mCapacity
  size : ∀ c ∈ s.channels, c.queue.mSize ≤ c.queue.mCapacity
  /-- What a device has polled has been taken, can be read, or is about to be marked. -/
  ledger : ∀ k (c : Channel), s.channels[k]? = some c →
    c.polled = s.takenFrom k ++ c.queue.readable ++ c.writer.unmarked c.queue
  /-- What has been taken is delivered if its sensor is known, and nothing else is. -/
  delivered : s.delivered = s.taken.filterMap Taken.due
  atMost : ∀ r ∈ s.returned, (r.2.length : Int) ≤ r.1
  /-- No one sleeps while there is something to do. -/
  awake : ∀ maxReads signalled, s.reader = .waiting maxReads signalled → 0 < maxReads →
    signalled = false → ∀ c ∈ s.channels, c.queue.mSize = 0
  space : ∀ c ∈ s.channels, c.writer = .waitingForSpace false → c.queue.mSize = c.queue.mCapacity
  ends : s.mutexLocked = true → ∃ n u,
    Runs.play step s (List.replicate n .pollTurn ++ [.pollScanned]) = some u
  /-- A scan that ends with room left has emptied the queues. -/
  drained : ∀ maxReads empties data, s.reader = .scanning maxReads empties data →
    (data.length : Int) < maxReads → s.pollTurn = none → ∀ c ∈ s.channels, c.queue.mSize = 0

theorem Sound.separate {c : Channel} {taken : List SensorsEvent} (h : c.Sound taken) :
    ∀ cell ∈ c.writer.region, cell < c.queue.mCapacity ∧
      ∀ i < c.queue.mSize, cell ≠ (c.queue.mStart + i) % c.queue.mCapacity := by
  have hwriter := h.writer
  have hregion : ∀ {first length}, c.queue.Region first length →
      ∀ cell ∈ (List.range length).map (first + ·), cell < c.queue.mCapacity ∧
        ∀ i < c.queue.mSize, cell ≠ (c.queue.mStart + i) % c.queue.mCapacity := by
    intro first length hr cell hcell
    obtain ⟨j, hj, rfl⟩ := List.mem_map.mp hcell
    have hlt := List.mem_range.mp hj
    have hin := hr.inside
    exact ⟨by omega, fun i hi => hr.separate hlt hi⟩
  intro cell hcell
  cases hw : c.writer with
  | locking => simp [hw, WriterTask.region] at hcell
  | waitingForSpace signalled => simp [hw, WriterTask.region] at hcell
  | polling buffer bufferSize =>
    rw [hw] at hwriter hcell
    obtain ⟨first, rfl, hr⟩ := hwriter
    exact hregion hr cell hcell
  | marking buffer eventsPolled =>
    rw [hw] at hwriter hcell
    exact hregion hwriter cell hcell

theorem Sound.delivers (h : s.Sound) (hd : s.delivered = s.taken.filterMap Taken.due) :
    s.Delivers := by
  have hreader := h.reader
  have hempty : (∀ q ∈ s.queues, q = []) → ∀ c ∈ s.channels, c.queue.mSize = 0 := by
    intro hall c hc
    exact SensorEventQueue.readable_eq_nil.mp (hall _ (List.mem_map_of_mem hc))
  have hget : ∀ c ∈ s.channels, ∃ taken, c.Sound taken := by
    intro c hc
    obtain ⟨k, hk⟩ := List.getElem?_of_mem hc
    exact ⟨_, h.channels k c hk⟩
  refine ⟨fun c hc => ?_, fun c hc => ?_, fun k c hk => (h.channels k c hk).ledger, hd, h.returned,
    fun maxReads signalled hr hpos hs => ?_, fun c hc hw => ?_, h.scan_ends,
    fun maxReads empties data hr hroom hend => ?_⟩
  · obtain ⟨_, hsound⟩ := hget c hc
    exact Sound.separate hsound
  · obtain ⟨_, hsound⟩ := hget c hc
    exact hsound.queue.size
  · rw [hr] at hreader
    exact hempty (hreader.2 hpos hs)
  · obtain ⟨_, hsound⟩ := hget c hc
    have hwriter := hsound.writer
    rw [hw] at hwriter
    exact hwriter rfl
  · rw [hr] at hreader
    have hover := h.scan_over hr hend
    refine hempty (hreader.1.ended (t := s.table) ?_ hroom)
    simp only [Reading.turn]
    rw [if_neg (by simpa [queues] using hover)]

def TakesResolved (s : EventHal) (e : EventHalEvent) : Prop :=
  e = .pollTurn → ∀ event ∈ s.peeked, s.table.Resolves s.nextReadIndex event

theorem step_delivered (h : s.Sound) (hd : s.delivered = s.taken.filterMap Taken.due)
    {e : EventHalEvent} (hu : s.step e = some u) :
    s.TakesResolved e ↔ u.delivered = u.taken.filterMap Taken.due := by
  obtain ⟨fs, hfs⟩ := h.table
  obtain ⟨-, ⟨htaken, hdelivered, hnone⟩ | ⟨rfl, event, hpeeked, htaken, hdelivered⟩⟩ :=
    step_sound h hu
  · rw [htaken, hdelivered]
    refine ⟨fun _ => hd, fun _ he event hevent => ?_⟩
    rw [hnone he] at hevent
    cases hevent
  · have hdue := HandleTable.reported_eq_due hfs s.nextReadIndex event
    rw [htaken, hdelivered, hd, List.filterMap_append, List.append_cancel_left_eq]
    have hlist : ∀ a b : Option SensorsEvent, a.toList = b.toList ↔ a = b := by
      intro a b
      cases a <;> cases b <;> simp
    have hone : [Taken.mk s.nextReadIndex event
        (s.table.fullToGlobal ⟨s.nextReadIndex, event.localHandle⟩)].filterMap Taken.due =
        ((s.table.fullToGlobal ⟨s.nextReadIndex, event.localHandle⟩).map
          event.withHandle).toList := by
      cases hf : s.table.fullToGlobal ⟨s.nextReadIndex, event.localHandle⟩ <;> simp [Taken.due]
    rw [hone, hlist, hdue]
    constructor
    · intro hp
      exact hp rfl event hpeeked
    · intro hr _ e he
      obtain rfl := Option.some.inj (he.symm.trans hpeeked)
      exact hr

theorem events_delivered (queueCount : Nat) (memory : Nat → Nat → SensorsEvent)
    (es : List EventHalEvent) (s : EventHal)
    (h : Runs.play step (init queueCount memory) es = some s) :
    Runs.Along step TakesResolved (init queueCount memory) es ↔
      ∀ pre post, es = pre ++ post → ∀ u, Runs.play step (init queueCount memory) pre = some u →
        u.Delivers := by
  refine Runs.along_iff_prefixes (R := fun _ _ => True)
    (I := fun s => s.Sound ∧ s.delivered = s.taken.filterMap Taken.due) ?_ ?_ ?_ ?_ ?_ h
  · intro s e u hs _ hp hu
    exact ⟨(step_sound hs.1 hu).1, (step_delivered hs.1 hs.2 hu).mp hp⟩
  · exact fun s hs => hs.1.delivers hs.2
  · intro s e u hs _ hu hq
    exact (step_delivered hs.1 hs.2 hu).mpr hq.delivered
  · exact ⟨init_sound queueCount memory, rfl⟩
  · exact Runs.Along.of_forall (fun _ _ _ => trivial) _

def unknownFlush : SensorsEvent := ⟨0, metaData, 0, 7⟩

def flushRun (event : SensorsEvent) : List EventHalEvent :=
  [.assignGlobalHandle 0 3, .lockQueue 0, .write 0 0 event, .pollReturned 0 1, .markAsWritten 0,
    .poll 16, .pollTurn, .pollTurn, .pollScanned]

theorem events_delivered_one : ∃ s,
    Runs.play step (init 1 fun _ _ => unknownFlush) (flushRun ⟨0, metaData, 0, 3⟩) = some s ∧
      (Runs.Along step TakesResolved (init 1 fun _ _ => unknownFlush)
        (flushRun ⟨0, metaData, 0, 3⟩) ↔
      ∀ pre post, flushRun ⟨0, metaData, 0, 3⟩ = pre ++ post → ∀ u,
        Runs.play step (init 1 fun _ _ => unknownFlush) pre = some u → u.Delivers) :=
  ⟨_, rfl, events_delivered 1 (fun _ _ => unknownFlush) (flushRun ⟨0, metaData, 0, 3⟩) _ rfl⟩

/-- The event gets through with the sensor -1 inside. -/
theorem unknown_flush_delivered : ¬ ∀ (queueCount : Nat) (memory : Nat → Nat → SensorsEvent)
    (es : List EventHalEvent) (s : EventHal),
    Runs.play step (init queueCount memory) es = some s → s.Delivers := by
  intro h
  have hd := (h 1 (fun _ _ => unknownFlush) (flushRun unknownFlush) _ rfl).delivered
  exact absurd hd (by decide)

end EventHal

end Wt88047.Sensors
