import Wt88047.Lib.Runs
import Wt88047.Lib.Trace
import Wt88047.QCamera.CmdThread
import Mathlib.Algebra.Order.Ring.Nat
import Mathlib.Data.List.Nodup

/-! `QCameraCbNotifier` once its callbacks are set: the callers of `notifyCallback`, the commands for
snapshots, and the notifier thread. Items are numbered as `notifyCallback` is called. -/

namespace Wt88047.CbNotifier

open CmdThread

/-- `qcamera_callback_type_m` -/
inductive CbType
  | notify
  | data
  | timestamp
  | snapshot
  | other
  deriving DecidableEq

def msgVideoFrame : Nat := 0x20

/-- `qcamera_callback_argm_t` -/
structure Item where
  serial : Nat
  cbType : CbType
  msgType : Nat
  releaseCb : Bool
  deriving DecidableEq

inductive Status
  | noError
  | badValue
  | invalidOperation
  | failedTransaction
  deriving DecidableEq

inductive Act
  | start (expected : Nat) (longShot : Bool)
  | stop
  | done
  | deliver (n : Nat) (jpeg : Bool)
  | release (n : Nat) (st : Status)
  deriving DecidableEq

/-- A caller of `notifyCallback` that found the notifier active: before `enqueue`, before `sendCmd`,
and before `cam_sem_post`. -/
inductive Caller
  | checked (i : Item)
  | queued (i : Item)
  | posting (i : Item)
  deriving DecidableEq

inductive ThreadPc
  | waiting
  | woken
  | starting
  | stopping
  | exiting
  | doNext
  | holding (i : Item)
  | posting (i : Item)
  | calling (i : Item)
  | releasing (i : Item) (st : Status)
  | exited
  deriving DecidableEq

inductive ExitPc
  | idle
  | cleared
  | joining
  | joined
  deriving DecidableEq

/-- `queued`, `accepted` and `rejected` record the items put into `mDataQ` and those for which
`notifyCallback` has returned success or an error, `gone` those that were freed. -/
structure Notifier where
  notifyCb : Bool
  dataCb : Bool
  timestampCb : Bool
  active : Bool := true
  dataQ : List Item := []
  commands : Commands := {}
  pc : ThreadPc := .waiting
  isSnapshotActive : Bool := false
  longShot : Bool := false
  expected : Nat := 0
  rcvd : Nat := 0
  callers : List Caller := []
  flushers : Nat := 0
  exitPc : ExitPc := .idle
  issued : Nat := 0
  queued : List Item := []
  accepted : List Item := []
  rejected : List Item := []
  gone : List Item := []
  log : List Act := []

inductive Event
  | notifyCallback (cbType : CbType) (msgType : Nat) (releaseCb mem : Bool)
  | enqueue (c : Nat) (node : Bool)
  | sendNext (c : Nat) (o : Send)
  | postNext (c : Nat)
  | startSnapshots (o : Send)
  | stopSnapshots (o : Send)
  | flushVideoNotifications
  | flushVideo
  | exit
  | sendExit (o : Send)
  | join
  | semWait
  | getCmd
  | startProc (expected : Nat) (longShot : Bool)
  | stopProc
  | exitProc
  | dequeue
  | check (enabled : Bool)
  | postDone
  | call
  | release

/-- `releaseNotifications` for an item, or the end of its processing. -/
def releaseAct (st : Status) (i : Item) : List Act :=
  if i.releaseCb then [.release i.serial st] else []

def Item.snapshot (i : Item) : Bool := i.cbType = .snapshot

/-- `matchTimestampNotifications` -/
def Item.video (i : Item) : Bool := i.cbType = .timestamp ∧ i.msgType = msgVideoFrame

namespace Notifier

/-- `flushNodes`: the items that match are released and freed. -/
def flushNodes (p : Item → Bool) (s : Notifier) : Notifier :=
  { s with
    dataQ := s.dataQ.filter fun i => !p i
    gone := s.gone ++ s.dataQ.filter p
    log := s.log ++ (s.dataQ.filter p).flatMap (releaseAct .failedTransaction) }

def notifyCallback (cbType : CbType) (msgType : Nat) (releaseCb mem : Bool) (s : Notifier) :
    Notifier :=
  let i : Item := ⟨s.issued, cbType, msgType, releaseCb⟩
  if s.active ∧ mem then { s with issued := s.issued + 1, callers := s.callers ++ [.checked i] }
  else { s with issued := s.issued + 1, rejected := s.rejected ++ [i] }

def enqueue (c : Nat) (i : Item) (node : Bool) (s : Notifier) : Notifier :=
  if node then
    { s with
      dataQ := s.dataQ ++ [i], queued := s.queued ++ [i], callers := s.callers.set c (.queued i) }
  else { s with callers := s.callers.eraseIdx c, rejected := s.rejected ++ [i] }

def sendNext (c : Nat) (i : Item) (o : Send) (s : Notifier) : Notifier :=
  if o = .noMem then { s with callers := s.callers.eraseIdx c, rejected := s.rejected ++ [i] }
  else { s with
    callers := s.callers.set c (.posting i), commands := s.commands.put .doNextJob false o }

def postNext (c : Nat) (i : Item) (s : Notifier) : Notifier :=
  { s with
    callers := s.callers.eraseIdx c, commands := s.commands.post, accepted := s.accepted ++ [i] }

def getCmd (s : Notifier) : Notifier :=
  { s with
    commands := s.commands.getCmd.2
    pc := match s.commands.getCmd.1 with
      | .startDataProc => .starting
      | .stopDataProc => .stopping
      | .doNextJob => .doNext
      | .exit => .exiting
      | .none => .waiting }

def startProc (expected : Nat) (longShot : Bool) (s : Notifier) : Notifier :=
  { s with
    isSnapshotActive := true
    longShot := longShot
    expected := expected
    rcvd := 0
    pc := .waiting
    log := s.log ++ [.start expected longShot] }

def stopProc (s : Notifier) : Notifier :=
  let t := s.flushNodes Item.snapshot
  { t with
    isSnapshotActive := false, expected := 0, rcvd := 0, pc := .waiting, log := t.log ++ [.stop] }

def exitProc (s : Notifier) : Notifier := { s.flushNodes fun _ => true with pc := .exited }

def dequeue (s : Notifier) : Notifier :=
  match s.dataQ with
  | [] => { s with pc := .waiting }
  | i :: rest => { s with dataQ := rest, pc := .holding i }

def checkSnapshot (i : Item) (s : Notifier) : Notifier :=
  if s.isSnapshotActive ∧ s.dataCb then
    if s.longShot then { s with pc := .calling i }
    else
      let rcvd := (s.rcvd + 1) % 2 ^ 32
      { s with
        rcvd := rcvd, pc := if 0 < s.expected ∧ s.expected = rcvd then .posting i else .calling i }
  else { s with pc := .releasing i .noError }

def check (i : Item) (enabled : Bool) (s : Notifier) : Notifier :=
  if enabled then
    match i.cbType with
    | .notify => { s with pc := if s.notifyCb then .calling i else .releasing i .noError }
    | .data => { s with pc := if s.dataCb then .calling i else .releasing i .noError }
    | .timestamp => { s with pc := if s.timestampCb then .calling i else .releasing i .noError }
    | .snapshot => s.checkSnapshot i
    | .other => { s with pc := .releasing i .badValue }
  else { s with pc := .releasing i .invalidOperation }

def call (i : Item) (s : Notifier) : Notifier :=
  { s with pc := .releasing i .noError, log := s.log ++ [.deliver i.serial i.snapshot] }

def release (i : Item) (st : Status) (s : Notifier) : Notifier :=
  { s with pc := .waiting, gone := s.gone ++ [i], log := s.log ++ releaseAct st i }

def sendExit (o : Send) (s : Notifier) : Notifier :=
  if o = .noMem then { s with exitPc := .idle }
  else { s with exitPc := .joining, commands := s.commands.sendCmd .exit true o }

end Notifier

def step (s : Notifier) : Event → Option Notifier
  | .notifyCallback cbType msgType releaseCb mem =>
    some (s.notifyCallback cbType msgType releaseCb mem)
  | .enqueue c node =>
    match s.callers[c]? with
    | some (.checked i) => some (s.enqueue c i node)
    | _ => none
  | .sendNext c o =>
    match s.callers[c]? with
    | some (.queued i) => some (s.sendNext c i o)
    | _ => none
  | .postNext c =>
    match s.callers[c]? with
    | some (.posting i) => some (s.postNext c i)
    | _ => none
  | .startSnapshots o => some { s with commands := s.commands.sendCmd .startDataProc true o }
  | .stopSnapshots o => some { s with commands := s.commands.sendCmd .stopDataProc true o }
  | .flushVideoNotifications => some (if s.active then { s with flushers := s.flushers + 1 } else s)
  | .flushVideo =>
    if 0 < s.flushers then some { s.flushNodes Item.video with flushers := s.flushers - 1 } else none
  | .exit =>
    if s.exitPc = .idle then some { s with active := false, exitPc := .cleared } else none
  | .sendExit o => if s.exitPc = .cleared then some (s.sendExit o) else none
  | .join =>
    if s.exitPc = .joining ∧ s.pc = .exited then some { s with exitPc := .joined } else none
  | .semWait =>
    match s.pc, s.commands.wait with
    | .waiting, some q => some { s with commands := q, pc := .woken }
    | _, _ => none
  | .getCmd => if s.pc = .woken then some s.getCmd else none
  | .startProc expected longShot =>
    if s.pc = .starting then some (s.startProc expected longShot) else none
  | .stopProc => if s.pc = .stopping then some s.stopProc else none
  | .exitProc => if s.pc = .exiting then some s.exitProc else none
  | .dequeue => if s.pc = .doNext then some s.dequeue else none
  | .check enabled =>
    match s.pc with
    | .holding i => some (s.check i enabled)
    | _ => none
  | .postDone =>
    match s.pc with
    | .posting i => some { s with pc := .calling i, log := s.log ++ [.done] }
    | _ => none
  | .call =>
    match s.pc with
    | .calling i => some (s.call i)
    | _ => none
  | .release =>
    match s.pc with
    | .releasing i st => some (s.release i st)
    | _ => none

def init (notifyCb dataCb timestampCb : Bool) : Notifier := { notifyCb, dataCb, timestampCb }

structure Session where
  active : Bool := false
  longShot : Bool := false
  expected : Nat := 0
  jpegs : Nat := 0
  dones : Nat := 0
  deriving DecidableEq

def Session.next (x : Session) : Act → Session
  | .start expected longShot => { active := true, longShot, expected }
  | .stop => {}
  | .done => { x with dones := x.dones + 1 }
  | .deliver _ jpeg => if jpeg then { x with jpegs := x.jpegs + 1 } else x
  | .release .. => x

def session (l : List Act) : Session := l.foldl Session.next {}

def Act.delivered : Act → List Nat
  | .deliver n _ => [n]
  | _ => []

def Act.released : Act → List Nat
  | .release n _ => [n]
  | _ => []

def deliveries (l : List Act) : List Nat := l.flatMap Act.delivered

def releases (l : List Act) : List Nat := l.flatMap Act.released

/-- An item is delivered once and before its release, and released once; a JPEG is delivered in a
session, and the last one that was asked for when SNAPSHOT_DONE is posted; and SNAPSHOT_DONE is
posted once, when all but this last one have been delivered. -/
def Allowed (pre : List Act) : Act → Prop
  | .deliver n jpeg => n ∉ deliveries pre ∧ n ∉ releases pre ∧ (jpeg = true →
      (session pre).active = true ∧ ((session pre).longShot = false →
        (session pre).jpegs + 1 = (session pre).expected → (session pre).dones = 1))
  | .release n _ => n ∉ releases pre
  | .done => (session pre).active = true ∧ (session pre).longShot = false ∧
      (session pre).dones = 0 ∧ (session pre).jpegs + 1 = (session pre).expected
  | _ => True

def ThreadPc.hand : ThreadPc → List Item
  | .holding i => [i]
  | .posting i => [i]
  | .calling i => [i]
  | .releasing i _ => [i]
  | _ => []

def pending (s : Notifier) : List Item := s.pc.hand ++ s.dataQ

/-- Items that were accepted are under way, not released, or have been released once; those that
were rejected are neither released nor delivered. -/
structure Kept (s : Notifier) : Prop where
  settled : ∀ i ∈ s.accepted, i ∉ pending s →
    (releases s.log).count i.serial = if i.releaseCb then 1 else 0
  waiting : ∀ i ∈ pending s, i.serial ∉ releases s.log
  rejected : ∀ i ∈ s.rejected, i ∉ pending s ∧ i.serial ∉ releases s.log ∧ i.serial ∉ deliveries s.log
  trace : Trace.Each Allowed s.log
  flushed : s.exitPc = .joined → pending s = []

/-- The command for an item that is queued can be allocated, an item is queued while the thread has
not flushed at its exit, and the JPEGs of a session are counted without wrapping around. -/
def Sound (s : Notifier) : Event → Prop
  | .enqueue _ node => node = true → s.pc ≠ .exited
  | .sendNext _ o => o ≠ .noMem
  | .check _ => s.rcvd + 1 < 2 ^ 32
  | _ => True

instance (s : Notifier) : ∀ e, Decidable (Sound s e)
  | .enqueue .. => inferInstanceAs (Decidable (_ → _))
  | .sendNext _ o => inferInstanceAs (Decidable (o ≠ .noMem))
  | .check _ => inferInstanceAs (Decidable (_ < _))
  | .notifyCallback .. | .postNext _ | .startSnapshots _ | .stopSnapshots _
  | .flushVideoNotifications | .flushVideo | .exit | .sendExit _ | .join | .semWait | .getCmd
  | .startProc .. | .stopProc | .exitProc | .dequeue | .postDone | .call | .release => isTrue trivial

end Wt88047.CbNotifier
