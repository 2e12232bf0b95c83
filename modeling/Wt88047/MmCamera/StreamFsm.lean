import Wt88047.MmCamera.Stream

/-! The events of the stream state machine that the thread of the channel sends, and the steps
of all threads together. STOP waits for other threads and is cut at the places where they can
get in between. -/

namespace Wt88047.Stream

def maxNumFrames : Nat := 24

/-- The outcomes of `mm_stream_init_bufs`: the client's `get_bufs` and the `malloc`. -/
structure InitBufsRc where
  getBufsOk : Bool
  bufNum : Nat
  regFlags : List Bool
  mallocOk : Bool
  deriving DecidableEq

/-- The outcomes of `mm_stream_reg_buf`: REQBUFS and the queueing of buffer `i`. -/
structure RegBufRc where
  reqbufsOk : Bool
  qbufs : List QbufRc
  deriving DecidableEq

/-- A stream object as `mm_channel_add_stream` leaves it: cleared, with its fd open. -/
def fresh (isPreview : Bool) : StreamObj where
  state := .acquired
  bufNum := 0
  hasBuf := false
  bufStatus := fun _ => ⟨0, false, false⟩
  queuedBufferCount := 0
  bufCb := List.replicate 4 ⟨false, 0⟩
  isBundled := false
  isLinked := false
  isPreview := isPreview
  previewSkipCnt := 0
  cmdActive := false
  cmdQueue := []
  pollFd := false
  kernel := []
  poll := .idle
  app := none
  out := []
  ctl := .free
  delivered := []
  requeued := []

namespace StreamObj

def ignore (s : StreamObj) : Bool × StreamObj := (s.state != .notUsed, s)

/-- `mm_stream_config`, the callback of the interface going to slot 0. -/
def config (bufNum : Nat) (cb ok : Bool) (s : StreamObj) : Bool × StreamObj :=
  (ok, { s with bufNum := bufNum, bufCb := s.bufCb.set 0 { cb := cb, cbCount := -1 } })

def deinitBufs (putOk : Bool) (s : StreamObj) : Bool × StreamObj :=
  if s.hasBuf then (putOk, { s with hasBuf := false }) else (true, s)

def initBufs (r : InitBufsRc) (s : StreamObj) : Bool × StreamObj :=
  let s := (s.deinitBufs true).2
  if r.getBufsOk then
    if r.mallocOk then
      (true, { s with
        bufNum := r.bufNum
        hasBuf := true
        bufStatus := fun i =>
          { bufRefcnt := 0, initialRegFlag := r.regFlags.getD i false, inKernel := false } })
    else (false, { s with bufNum := r.bufNum, hasBuf := false })
  else (false, s)

/-- `mm_stream_request_buf`; REQBUFS takes back what the driver had queued. -/
def requestBuf (ok : Bool) (s : StreamObj) : Bool × StreamObj :=
  if s.bufNum ≤ maxNumFrames ∧ ok then (true, { s with kernel := [] }) else (false, s)

def keepUpper (i : Nat) (s : StreamObj) : StreamObj :=
  { s.setStatus i ⟨1, false, false⟩ with out := (.upper, i) :: s.out }

/-- The loop of `mm_stream_reg_buf` over the buffers still to come. -/
def regLoop (qs : List QbufRc) : List Nat → StreamObj → Bool × StreamObj
  | [], s => (true, s)
  | i :: rest, s =>
    if (s.bufStatus i).initialRegFlag then
      match s.qbuf i (qs.getD i ⟨true, true⟩) with
      | (true, t) => regLoop qs rest (t.setStatus i ⟨0, true, true⟩)
      | (false, t) => (false, t)
    else regLoop qs rest (s.keepUpper i)

def regBuf (r : RegBufRc) (s : StreamObj) : Bool × StreamObj :=
  match s.requestBuf r.reqbufsOk with
  | (true, t) => regLoop r.qbufs (List.range t.bufNum) { t with queuedBufferCount := 0 }
  | (false, t) => (false, t)

def unregBuf (reqbufsOk : Bool) (s : StreamObj) : Bool × StreamObj :=
  let s := if reqbufsOk then { s with kernel := [] } else s
  (reqbufsOk, { s with
    bufStatus := fun i =>
      if s.hasBuf ∧ i < s.bufNum then { s.bufStatus i with bufRefcnt := 0, inKernel := false }
      else s.bufStatus i })

/-- `mm_stream_streamon` with what the regged state does around it. The logs begin here. -/
def streamOn (ok : Bool) (s : StreamObj) : Bool × StreamObj :=
  if ok then
    (true, { s with
      cmdQueue := if s.hasCb then [] else s.cmdQueue
      cmdActive := s.hasCb || s.cmdActive
      state := .active
      delivered := []
      requeued := [] })
  else
    (false, { s with
      cmdQueue := if s.hasCb then [] else s.cmdQueue
      cmdActive := !s.hasCb && s.cmdActive
      pollFd := false })

def onSetFmt (bufNum : Nat) (cb ok : Bool) (s : StreamObj) : Bool × StreamObj :=
  if s.state = .acquired ∨ s.state = .cfg then
    ((s.config bufNum cb ok).1, { (s.config bufNum cb ok).2 with state := .cfg })
  else s.ignore

def onGetBuf (r : InitBufsRc) (s : StreamObj) : Bool × StreamObj :=
  if s.state = .cfg then
    match s.initBufs r with
    | (true, t) => (true, { t with state := .buffed, ctl := .free })
    | (false, t) => (false, { t with ctl := .free })
  else s.ignore

def onPutBuf (ok : Bool) (s : StreamObj) : Bool × StreamObj :=
  if s.state = .buffed then
    ((s.deinitBufs ok).1, { (s.deinitBufs ok).2 with
      state := .cfg
      ctl := if s.ctl = .unregistered then .released else .free })
  else s.ignore

def onRegBuf (r : RegBufRc) (s : StreamObj) : Bool × StreamObj :=
  if s.state = .buffed then
    match s.regBuf r with
    | (true, t) => (true, { t with state := .reg, ctl := .free })
    | (false, t) => (false, { t with ctl := .free })
  else s.ignore

def onUnregBuf (ok : Bool) (s : StreamObj) : Bool × StreamObj :=
  if s.state = .reg then
    ((s.unregBuf ok).1, { (s.unregBuf ok).2 with
      state := .buffed
      ctl := if s.ctl = .stopped then .unregistered else .free })
  else s.ignore

def onStart (ok : Bool) (s : StreamObj) : Bool × StreamObj :=
  if s.state = .reg then
    ((s.streamOn ok).1, { (s.streamOn ok).2 with ctl := .free })
  else s.ignore

def stopPoll (s : StreamObj) : StreamObj := { s with pollFd := false, ctl := .pollRemoved }

/-- Step 2 of `mm_stream_streamoff`: STREAMOFF gives all queued buffers back. -/
def streamOff (ok : Bool) (s : StreamObj) : StreamObj :=
  { s with kernel := if ok then [] else s.kernel, ctl := .streamedOff }

def stopApp (s : StreamObj) : StreamObj :=
  { s with cmdActive := !s.hasCb && s.cmdActive, ctl := .joined }

def stopDone (s : StreamObj) : StreamObj := { s with state := .reg, ctl := .stopped }

/-- `MM_STREAM_EVT_STOP` with nobody getting in between. -/
def onStop (ok : Bool) (s : StreamObj) : Bool × StreamObj :=
  if s.state = .active then (ok, { s.stopPoll with ctl := .synced }.streamOff ok |>.stopApp.stopDone)
  else s.ignore

def atRest (s : StreamObj) : Prop :=
  s.ctl = .free ∨ s.ctl = .stopped ∨ s.ctl = .unregistered ∨ s.ctl = .released

instance (s : StreamObj) : Decidable s.atRest := inferInstanceAs (Decidable (_ ∨ _))

end StreamObj

/-- `setBundled` is what `mm_channel_start` does to its own streams before it starts any. -/
inductive Control where
  | setBundled
  | setFmt (bufNum : Nat) (cb ok : Bool)
  | getBuf (r : InitBufsRc)
  | regBuf (r : RegBufRc)
  | start (ok : Bool)
  | stopPoll
  | stopSync
  | streamOff (ok : Bool)
  | stopApp
  | stopDone
  | unregBuf (ok : Bool)
  | putBuf (ok : Bool)
  deriving DecidableEq

def Control.run (c : Control) (s : StreamObj) : Option StreamObj :=
  match c with
  | .setBundled => if s.atRest ∧ s.state ≠ .active then some { s with isBundled := true } else none
  | .setFmt n cb ok => if s.atRest ∧ s.app = none then some (s.onSetFmt n cb ok).2 else none
  | .getBuf r => if s.atRest then some (s.onGetBuf r).2 else none
  | .regBuf r => if s.atRest then some (s.onRegBuf r).2 else none
  | .start ok => if s.atRest ∧ s.app = none then some (s.onStart ok).2 else none
  | .stopPoll =>
    if s.atRest then some (if s.state = .active then s.stopPoll else s.ignore.2) else none
  | .stopSync =>
    if s.ctl = .pollRemoved ∧ s.poll = .idle then some { s with ctl := .synced } else none
  | .streamOff ok => if s.ctl = .synced then some (s.streamOff ok) else none
  | .stopApp =>
    if s.ctl = .streamedOff ∧ s.app = none ∧ (s.hasCb → s.cmdActive ∧ s.cmdQueue = []) then
      some s.stopApp
    else none
  | .stopDone => if s.ctl = .joined then some s.stopDone else none
  | .unregBuf ok => if s.atRest then some (s.onUnregBuf ok).2 else none
  | .putBuf ok => if s.atRest then some (s.onPutBuf ok).2 else none

inductive Event where
  | dqbuf (b : Option Nat)
  | countFrame (cleanOk : Bool)
  | checkCb
  | addRefs
  | notifyBundle (mallocOk : Bool)
  | notifyLinked (mallocOk : Bool)
  | passOn (mallocOk : Bool) (q : QbufRc)
  | takeNode
  | callback
  | doneNode (q : QbufRc)
  | release (h : Holder) (b : Nat) (q : QbufRc)
  | regBufCb (c : StreamDataCb)
  | setLinked (on : Bool)
  | setPreviewSkip (n : Nat)
  | control (c : Control)
  deriving DecidableEq

def step (s : StreamObj) : Event → Option StreamObj
  | .dqbuf b => s.dqbuf b
  | .countFrame ok => s.countFrame ok
  | .checkCb => s.checkCb
  | .addRefs => s.addRefs
  | .notifyBundle ok => s.notifyBundle ok
  | .notifyLinked ok => s.notifyLinked ok
  | .passOn ok q => s.passOn ok q
  | .takeNode => s.takeNode
  | .callback => s.callback
  | .doneNode q => s.doneNode q
  | .release h b q => s.release h b q
  | .regBufCb c => s.regBufCb c
  | .setLinked on => some { s with isLinked := on }
  | .setPreviewSkip n => some { s with previewSkipCnt := n }
  | .control c => c.run s

def Event.isControl : Event → Bool
  | .control _ => true
  | _ => false

end Wt88047.Stream
