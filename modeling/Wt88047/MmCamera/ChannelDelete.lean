import Wt88047.MmCamera.CameraOpen
import Wt88047.MmCamera.ChannelStart

/-! Deleting a channel while other calls on it are in progress. A call finds the slot of its channel
and takes `ch_lock` under `cam_lock`, so a thread that waits for `ch_lock` keeps every other call
out; the state machine runs under `ch_lock` and gives it back, and only then does the thread of a
deletion clear the slot, with no lock held. -/

namespace Wt88047.Channel

inductive State
  | notused
  | stopped
  | active
  | paused
  deriving DecidableEq

/-- The events of the state machine. `start rc` is a start whose streams answer `rc`, and `other rc`
stands for the events that move neither the state nor a thread, with what their handler answers. -/
inductive Evt
  | start (rc : Int)
  | stop
  | delete
  | other (rc : Int)
  deriving DecidableEq

/-- A `mm_channel_t`: its handle, its state, the part of the bundle that decides on its two command
threads, and which of its threads run. -/
structure ChannelObj where
  myHdl : Nat := 0
  state : State := .notused
  notifyCb : Bool := false
  bundleActive : Bool := false
  pollThread : Bool := false
  cmdThread : Bool := false
  cbThread : Bool := false
  deriving DecidableEq

namespace ChannelObj

def launch (c : ChannelObj) : ChannelObj :=
  if c.notifyCb then { c with cbThread := true, cmdThread := true, bundleActive := true } else c

def start (rc : Int) (c : ChannelObj) : Int × ChannelObj :=
  if rc = 0 then (0, c.launch)
  else if c.launch.bundleActive then
    (rc, { c.launch with cmdThread := false, cbThread := false,
                         notifyCb := false, bundleActive := false })
  else (rc, c.launch)

def stop (c : ChannelObj) : ChannelObj :=
  if c.bundleActive then { c with cmdThread := false, cbThread := false } else c

def release (c : ChannelObj) : ChannelObj :=
  { c with pollThread := false, state := .notused }

def fsmFnStopped (evt : Evt) (c : ChannelObj) : Int × ChannelObj :=
  match evt with
  | .start rc =>
    if (c.start rc).1 = 0 then (0, { (c.start rc).2 with state := .active }) else c.start rc
  | .delete => (0, c.release)
  | .other rc => (rc, c)
  | .stop => (0, c)

def fsmFnActive (evt : Evt) (c : ChannelObj) : Int × ChannelObj :=
  match evt with
  | .stop => (0, { c.stop with state := .stopped })
  | .other rc => (rc, c)
  | .start _ | .delete => (0, c)

/-- `mm_channel_fsm_fn`, the unlocking apart. -/
def fsmFn (evt : Evt) (c : ChannelObj) : Int × ChannelObj :=
  match c.state with
  | .notused => (-1, c)
  | .stopped => c.fsmFnStopped evt
  | .active => c.fsmFnActive evt
  | .paused => (0, c)

def Quiet (c : ChannelObj) : Prop :=
  c.pollThread = false ∧ c.cmdThread = false ∧ c.cbThread = false

instance (c : ChannelObj) : Decidable c.Quiet :=
  inferInstanceAs (Decidable (c.pollThread = false ∧ c.cmdThread = false ∧ c.cbThread = false))

structure Fits (c : ChannelObj) : Prop where
  notPaused : c.state ≠ .paused
  bundled : c.cmdThread = true ∨ c.cbThread = true → c.bundleActive = true
  idle : c.state ≠ .active → c.cmdThread = false ∧ c.cbThread = false
  unused : c.state = .notused → c.pollThread = false

end ChannelObj

/-- A call on a channel handle: queueing a buffer, which takes no `ch_lock`, or an event. -/
inductive Op
  | qbuf
  | event (evt : Evt)
  deriving DecidableEq

structure Call where
  slot : Nat
  gen : Nat
  op : Op
  deriving DecidableEq

/-- `gen` counts the times a deletion cleared a slot, `locked` tells which `ch_lock` is held. The
calls in progress are the one that waits for `ch_lock` with `cam_lock` held, those that have yet to
run on their channel, and the deletions that have yet to clear their slot, with their result. -/
structure World where
  history : Nat := 0
  ch : Nat → ChannelObj := fun _ => {}
  gen : Nat → Nat := fun _ => 0
  locked : Nat → Bool := fun _ => false
  waiter : Option Call := none
  running : List Call := []
  clearing : List (Call × Int) := []

def channelMax : Nat := 16

namespace World

def setCh (w : World) (i : Nat) (c : ChannelObj) : World :=
  { w with ch := fun j => if j = i then c else w.ch j }

def setLock (w : World) (i : Nat) (held : Bool) : World :=
  { w with locked := fun j => if j = i then held else w.locked j }

def clearSlot (w : World) (i : Nat) : World :=
  { (w.setCh i {}).setLock i false with gen := fun j => if j = i then w.gen j + 1 else w.gen j }

def getChannelByHandler (w : World) (handler : Nat) : Option Nat :=
  (List.range channelMax).find? fun i => handler == (w.ch i).myHdl

def freeSlot (w : World) : Option Nat :=
  (List.range channelMax).find? fun i => (w.ch i).state = .notused

def addChannel (notify : Bool) (w : World) : World :=
  match w.freeSlot with
  | none => w
  | some i =>
    { w.setCh i
        { myHdl := (Camera.generateHandler i w.history).1, state := .stopped, notifyCb := notify,
          pollThread := true }
      with history := (Camera.generateHandler i w.history).2 }

def obtain (handler : Nat) (op : Op) (w : World) : World :=
  match w.getChannelByHandler handler with
  | none => w
  | some i =>
    match op with
    | .qbuf => { w with running := ⟨i, w.gen i, op⟩ :: w.running }
    | .event _ =>
      if w.locked i then { w with waiter := some ⟨i, w.gen i, op⟩ }
      else { w.setLock i true with running := ⟨i, w.gen i, op⟩ :: w.running }

def acquire (c : Call) (w : World) : World :=
  { w.setLock c.slot true with waiter := none, running := c :: w.running }

def exec (c : Call) (w : World) : World :=
  match c.op with
  | .qbuf => { w with running := w.running.erase c }
  | .event evt =>
    { (w.setCh c.slot ((w.ch c.slot).fsmFn evt).2).setLock c.slot false with
      running := w.running.erase c
      clearing := if evt = .delete then (c, ((w.ch c.slot).fsmFn evt).1) :: w.clearing
        else w.clearing }

def clear (c : Call) (rc : Int) (w : World) : World :=
  { w.clearSlot c.slot with clearing := w.clearing.erase (c, rc) }

def calls (w : World) : List Call := w.waiter.toList ++ w.running ++ w.clearing.map Prod.fst

end World

inductive Event
  | addChannel (notify : Bool)
  | obtain (handler : Nat) (op : Op)
  | acquire
  | exec (c : Call)
  | clear (c : Call) (rc : Int)
  deriving DecidableEq

def step (w : World) : Event → Option World
  | .addChannel notify => if w.waiter = none then some (w.addChannel notify) else none
  | .obtain handler op => if w.waiter = none then some (w.obtain handler op) else none
  | .acquire => w.waiter.bind fun c => if w.locked c.slot then none else some (w.acquire c)
  | .exec c => if c ∈ w.running then some (w.exec c) else none
  | .clear c rc => if (c, rc) ∈ w.clearing then some (w.clear c rc) else none

/-- A call runs only on a channel that was not cleared since the call found it; a deletion that
answers 0 has stopped the threads and leaves the slot free, one that answers an error leaves the
slot as it is. -/
def Proper (w : World) : Event → Prop
  | .exec c => c ∈ w.running → c.gen = w.gen c.slot ∧
      (c.op = .event .delete → ((w.ch c.slot).fsmFn .delete).1 ≠ 0 →
        (w.exec c).ch c.slot = w.ch c.slot)
  | .clear c rc => (c, rc) ∈ w.clearing → c.gen = w.gen c.slot ∧
      (rc = 0 → (w.ch c.slot).Quiet ∧ ((w.clear c rc).ch c.slot).state = .notused) ∧
      (rc ≠ 0 → (w.clear c rc).ch c.slot = w.ch c.slot)
  | _ => True

/-- No deletion runs on an active channel, no channel is added to a slot that a deletion is still to
clear, and a slot is cleared when no other call on it is in progress. -/
def Alone (w : World) : Event → Prop
  | .addChannel _ => ∀ i ∈ w.freeSlot, ∀ p ∈ w.clearing, p.1.slot ≠ i
  | .exec c => c.op = .event .delete → (w.ch c.slot).state ≠ .active
  | .clear c rc => (∀ d ∈ w.waiter, d.slot ≠ c.slot) ∧ (∀ d ∈ w.running, d.slot ≠ c.slot) ∧
      ∀ p ∈ w.clearing.erase (c, rc), p.1.slot ≠ c.slot
  | _ => True

instance (w : World) (e : Event) : Decidable (Alone w e) :=
  match e with
  | .addChannel _ => inferInstanceAs (Decidable (∀ i ∈ w.freeSlot, ∀ p ∈ w.clearing, p.1.slot ≠ i))
  | .exec c =>
    inferInstanceAs (Decidable (c.op = .event .delete → (w.ch c.slot).state ≠ .active))
  | .clear c rc =>
    inferInstanceAs (Decidable ((∀ d ∈ w.waiter, d.slot ≠ c.slot) ∧
      (∀ d ∈ w.running, d.slot ≠ c.slot) ∧ ∀ p ∈ w.clearing.erase (c, rc), p.1.slot ≠ c.slot))
  | .obtain _ _ | .acquire => isTrue trivial

end Wt88047.Channel
