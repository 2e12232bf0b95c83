import Mathlib.Algebra.Order.Ring.Nat
import Mathlib.Data.List.Basic

/-! A stream object and the threads that meet in it: the data poll thread runs
`mm_stream_data_notify`, the app-data thread runs `mm_stream_dispatch_app_data`, and holders of
a buffer give it back through `mm_stream_buf_done`. One step here is what a thread does under
one lock. -/

namespace Wt88047.Stream

inductive StreamState where
  | notUsed | inited | acquired | cfg | buffed | reg | active
  deriving DecidableEq

structure BufStatus where
  bufRefcnt : Nat
  initialRegFlag : Bool
  inKernel : Bool
  deriving DecidableEq

/-- `cb` tells whether the callback pointer is set. A negative `cbCount` means forever. -/
structure StreamDataCb where
  cb : Bool
  cbCount : Int
  deriving DecidableEq

/-- Who was handed a reference to a buffer; `upper` holds the ones never queued at the start. -/
inductive Holder where
  | upper
  | bundle
  | linked
  | slot (i : Nat)
  deriving DecidableEq

/-- How far the poll thread is with the frame in buffer `b`. -/
inductive PollPc where
  | idle
  | dequeued (b : Nat)
  | received (b : Nat)
  | checked (b : Nat) (hasCb : Bool)
  | counted (b : Nat) (hasCb : Bool)
  | bundled (b : Nat) (hasCb : Bool)
  | linked (b : Nat) (hasCb : Bool)
  deriving DecidableEq

/-- How far the thread that stops the channel is with this stream; the first four values are
places inside `MM_STREAM_EVT_STOP`. -/
inductive Ctl where
  | pollRemoved | synced | streamedOff | joined
  | stopped | unregistered | released | free
  deriving DecidableEq

structure StreamObj where
  state : StreamState
  bufNum : Nat
  hasBuf : Bool
  bufStatus : Nat → BufStatus
  queuedBufferCount : Int
  bufCb : List StreamDataCb
  isBundled : Bool
  isLinked : Bool
  isPreview : Bool
  previewSkipCnt : Nat
  cmdActive : Bool
  cmdQueue : List Nat
  /-- The entry of this stream in `poll_entries` carries its fd. -/
  pollFd : Bool
  /-- The buffers the driver has queued. -/
  kernel : List Nat
  poll : PollPc
  /-- The buffer the app-data thread dispatches, and the callback slot it has reached. -/
  app : Option (Nat × Nat)
  out : List (Holder × Nat)
  ctl : Ctl
  delivered : List Nat
  requeued : List Nat

/-- What the two fallible calls of `mm_stream_qbuf` answer. -/
structure QbufRc where
  invalidateOk : Bool
  ioctlOk : Bool
  deriving DecidableEq

def QbufRc.ok (q : QbufRc) : Prop := q.invalidateOk = true ∧ q.ioctlOk = true

instance (q : QbufRc) : Decidable q.ok := inferInstanceAs (Decidable (_ ∧ _))

namespace StreamObj

def refcnt (s : StreamObj) (b : Nat) : Nat := (s.bufStatus b).bufRefcnt

def setStatus (b : Nat) (st : BufStatus) (s : StreamObj) : StreamObj :=
  { s with bufStatus := Function.update s.bufStatus b st }

def setRefcnt (b n : Nat) (s : StreamObj) : StreamObj :=
  s.setStatus b { s.bufStatus b with bufRefcnt := n }

def setInKernel (b : Nat) (k : Bool) (s : StreamObj) : StreamObj :=
  s.setStatus b { s.bufStatus b with inKernel := k }

def hasCb (s : StreamObj) : Bool := s.bufCb.any StreamDataCb.cb

/-- `queued_buffer_count++`, with the fd put into the poll thread on the first buffer. -/
def addQueued (s : StreamObj) : StreamObj :=
  { s with
    queuedBufferCount := s.queuedBufferCount + 1
    pollFd := s.pollFd || s.queuedBufferCount + 1 == 1 }

/-- `queued_buffer_count--`, with the fd taken out of the poll thread after the last buffer. -/
def dropQueued (s : StreamObj) : StreamObj :=
  { s with
    queuedBufferCount := s.queuedBufferCount - 1
    pollFd := s.pollFd && s.queuedBufferCount - 1 != 0 }

def enq (b : Nat) (s : StreamObj) : StreamObj := { s.addQueued with kernel := b :: s.kernel }

def qbuf (b : Nat) (q : QbufRc) (s : StreamObj) : Bool × StreamObj :=
  if q.invalidateOk then
    if q.ioctlOk ∧ b ∉ s.kernel then (true, s.enq b)
    else (false, s.addQueued.dropQueued)
  else (false, s)

def bufDone (b : Nat) (q : QbufRc) (s : StreamObj) : Bool × StreamObj :=
  if s.refcnt b = 0 then (false, s)
  else
    let s := s.setRefcnt b (s.refcnt b - 1)
    if s.refcnt b = 0 then
      match s.qbuf b q with
      | (true, t) => (true, { t.setInKernel b true with requeued := b :: t.requeued })
      | (false, t) => (false, t)
    else (true, s)

/-- The DQBUF of `mm_stream_read_msm_frame`. A poll wake-up that was under way when the fd was
taken out still gets here. -/
def dqbuf (b : Option Nat) (s : StreamObj) : Option StreamObj :=
  if s.poll = .idle ∧ s.state = .active ∧ (s.pollFd ∨ s.ctl = .pollRemoved) then
    match b with
    | none => some s
    | some b =>
      if b ∈ s.kernel then
        some { s with
          kernel := s.kernel.erase b
          poll := .dequeued b
          delivered := b :: s.delivered }
      else none
  else none

/-- The rest of `mm_stream_read_msm_frame`; `mm_stream_data_notify` returns on its error. -/
def countFrame (cleanOk : Bool) (s : StreamObj) : Option StreamObj :=
  match s.poll with
  | .dequeued b => some { s.dropQueued with poll := if cleanOk then .received b else .idle }
  | _ => none

def checkCb (s : StreamObj) : Option StreamObj :=
  match s.poll with
  | .received b => if s.app = none then some { s with poll := .checked b s.hasCb } else none
  | _ => none

def addRefs (s : StreamObj) : Option StreamObj :=
  match s.poll with
  | .checked b h =>
    let s := s.setInKernel b false
    let s := if s.isBundled then s.setRefcnt b (s.refcnt b + 1) else s
    some { s.setRefcnt b (s.refcnt b + h.toNat) with poll := .counted b h }
  | _ => none

/-- `mm_stream_notify_channel`: the message, and with it the reference, goes to a channel. -/
def notifyChannel (h : Holder) (b : Nat) (mallocOk : Bool) (s : StreamObj) : StreamObj :=
  if mallocOk then { s with out := (h, b) :: s.out } else s

def notifyBundle (mallocOk : Bool) (s : StreamObj) : Option StreamObj :=
  match s.poll with
  | .counted b h =>
    let s := if s.isBundled then s.notifyChannel .bundle b mallocOk else s
    some { s with poll := .bundled b h }
  | _ => none

def notifyLinked (mallocOk : Bool) (s : StreamObj) : Option StreamObj :=
  match s.poll with
  | .bundled b h =>
    let s :=
      if s.isLinked then (s.setRefcnt b (s.refcnt b + 1)).notifyChannel .linked b mallocOk else s
    some { s with poll := .linked b h }
  | _ => none

def skips (s : StreamObj) : Prop := s.previewSkipCnt ≠ 0 ∧ s.isPreview = true

instance (s : StreamObj) : Decidable s.skips := inferInstanceAs (Decidable (_ ∧ _))

def passOn (mallocOk : Bool) (q : QbufRc) (s : StreamObj) : Option StreamObj :=
  match s.poll with
  | .linked b h =>
    if s.skips then
      let s := { s with previewSkipCnt := s.previewSkipCnt - 1, poll := .idle }
      some (s.bufDone b q).2
    else if h ∧ s.cmdActive ∧ mallocOk then
      some { s with cmdQueue := s.cmdQueue ++ [b], poll := .idle }
    else some { s with poll := .idle }
  | _ => none

/-- The app-data thread takes a node and, for the whole walk over the slots, `cb_lock`. -/
def takeNode (s : StreamObj) : Option StreamObj :=
  match s.app, s.cmdQueue with
  | none, b :: rest => some { s with cmdQueue := rest, app := some (b, 0) }
  | _, _ => none

def tick (c : StreamDataCb) : StreamDataCb :=
  if c.cb ∧ 0 < c.cbCount then { cb := decide (c.cbCount ≠ 1), cbCount := c.cbCount - 1 } else c

/-- One turn of the loop of `mm_stream_dispatch_app_data`. -/
def callback (s : StreamObj) : Option StreamObj :=
  match s.app with
  | some (b, i) =>
    match s.bufCb[i]? with
    | some c =>
      let s :=
        if c.cb ∧ c.cbCount ≠ 0 then
          { s.setRefcnt b (s.refcnt b + 1) with out := (.slot i, b) :: s.out }
        else s
      some { s with bufCb := s.bufCb.set i (tick c), app := some (b, i + 1) }
    | none => none
  | none => none

def doneNode (q : QbufRc) (s : StreamObj) : Option StreamObj :=
  match s.app with
  | some (b, i) =>
    if s.bufCb.length ≤ i then some ({ s with app := none }.bufDone b q).2 else none
  | none => none

/-- A holder gives its buffer back; only the active state handles `MM_STREAM_EVT_QBUF`. -/
def release (h : Holder) (b : Nat) (q : QbufRc) (s : StreamObj) : Option StreamObj :=
  if (h, b) ∈ s.out then
    let s := { s with out := s.out.erase (h, b) }
    some (if s.state = .active then (s.bufDone b q).2 else s)
  else none

/-- `mm_stream_reg_buf_cb` puts the callback into the first free slot. -/
def regBufCb (c : StreamDataCb) (s : StreamObj) : Option StreamObj :=
  if s.app = none then
    some { s with
      bufCb :=
        match s.bufCb.findIdx? (fun d => !d.cb) with
        | some i => s.bufCb.set i c
        | none => s.bufCb }
  else none

end StreamObj

end Wt88047.Stream
