import Wt88047.Gps.LocHeapQueue
import Wt88047.Lib.Runs
import Mathlib.Logic.Function.Basic

/-! The timer service: client timers, the message task that keeps a heap for each of two kernel
timers, and the thread that polls them. -/

namespace Wt88047.Loc

open LocRankable PriorityQueue

structure Timespec where
  tv_sec : Int
  tv_nsec : Int
  deriving DecidableEq

namespace Timespec

instance : LE Timespec where
  le a b := a.tv_sec < b.tv_sec ∨ a.tv_sec = b.tv_sec ∧ a.tv_nsec ≤ b.tv_nsec

instance (a b : Timespec) : Decidable (a ≤ b) :=
  inferInstanceAs (Decidable (a.tv_sec < b.tv_sec ∨ a.tv_sec = b.tv_sec ∧ a.tv_nsec ≤ b.tv_nsec))

theorem le_def {a b : Timespec} :
    a ≤ b ↔ a.tv_sec < b.tv_sec ∨ a.tv_sec = b.tv_sec ∧ a.tv_nsec ≤ b.tv_nsec := Iff.rfl

theorem le_refl (a : Timespec) : a ≤ a := by
  rw [le_def]
  omega

theorem le_trans {a b c : Timespec} (hab : a ≤ b) (hbc : b ≤ c) : a ≤ c := by
  rw [le_def] at *
  omega

theorem le_total (a b : Timespec) : a ≤ b ∨ b ≤ a := by
  rw [le_def, le_def]
  omega

end Timespec

inductive ContainerId
  | swTimers | hwTimers
  deriving DecidableEq

def ContainerId.get (wakeOnExpire : Bool) : ContainerId := if wakeOnExpire then hwTimers else swTimers

def ContainerId.other : ContainerId → ContainerId
  | swTimers => hwTimers
  | hwTimers => swTimers

/-- The part of a `LocTimerDelegate` that stays as it was created. `address` tells apart the ones
that expire together. -/
structure LocTimerDelegate where
  address : Nat
  mFutureTime : Timespec
  container : ContainerId
  deriving DecidableEq

namespace LocTimerDelegate

instance : LocRankable LocTimerDelegate where
  ranks a b :=
    let rank := b.mFutureTime.tv_sec - a.mFutureTime.tv_sec
    if rank = 0 then b.mFutureTime.tv_nsec - a.mFutureTime.tv_nsec else rank

theorem atLeast_iff {a b : LocTimerDelegate} :
    AtLeast outRanks a b ↔ a.mFutureTime ≤ b.mFutureTime := by
  have hranks : ranks b a = if a.mFutureTime.tv_sec - b.mFutureTime.tv_sec = 0 then
      a.mFutureTime.tv_nsec - b.mFutureTime.tv_nsec
    else a.mFutureTime.tv_sec - b.mFutureTime.tv_sec := rfl
  simp only [AtLeast, outRanks, hranks, gt_iff_lt, decide_eq_false_iff_not, Timespec.le_def]
  split_ifs <;> omega

instance : Std.Total (AtLeast (outRanks (α := LocTimerDelegate))) where
  total a b := by
    simp only [atLeast_iff]
    exact Timespec.le_total ..

instance : IsTrans LocTimerDelegate (AtLeast outRanks) where
  trans a b c hab hbc := by
    rw [atLeast_iff] at *
    exact Timespec.le_trans hab hbc

def ofNow (now : Timespec) : LocTimerDelegate := ⟨0, now, .swTimers⟩

theorem outRanks_ofNow {now : Timespec} {t : LocTimerDelegate} :
    outRanks (ofNow now) t = false ↔ t.mFutureTime ≤ now := atLeast_iff (a := t) (b := ofNow now)

end LocTimerDelegate

/-- A container and its timer in the kernel: `mDevFd` is armed for `itValue`, is readable when
`expired`, and is in the poll set when `polled`. -/
structure LocTimerContainer where
  heap : LocHeap LocTimerDelegate
  itValue : Option Timespec
  expired : Bool
  polled : Bool

inductive LocMsg
  | timerPush (t : LocTimerDelegate)
  | timerRemove (t : LocTimerDelegate)
  | timerExpire (c : ContainerId)
  deriving DecidableEq

inductive ProcStage
  | waiting
  /-- `updateSoonestTime` before `timerfd_settime`. -/
  | settime (c : ContainerId) (itValue : Option Timespec)
  /-- `MsgTimerExpire` has popped a timer. -/
  | expiring (c : ContainerId) (now : Timespec) (timer : LocTimerDelegate)
  /-- `LocTimerDelegate::expire` has read `mClient`. -/
  | stopping (c : ContainerId) (now : Timespec) (timer : LocTimerDelegate) (client : Nat)
  deriving DecidableEq

inductive ExpireStage
  | disarm | removePoll | sendMsg
  deriving DecidableEq

/-- A `timeOutCallback`: the timer it was started with, and when it is called. -/
structure Callback where
  timer : LocTimerDelegate
  time : Timespec
  deriving DecidableEq

structure TimerState where
  now : Timespec
  mTimer : Nat → Option LocTimerDelegate
  mClient : Nat → Option Nat
  created : Nat
  container : ContainerId → LocTimerContainer
  msgQ : List LocMsg
  proc : ProcStage
  /-- The events of `epoll_wait` that the poll thread still has to handle. -/
  ready : List ContainerId
  expireStage : ExpireStage
  callbacks : List Callback

namespace TimerState

def init (now : Timespec) : TimerState where
  now := now
  mTimer _ := none
  mClient _ := none
  created := 0
  container _ := ⟨.empty, none, false, false⟩
  msgQ := []
  proc := .waiting
  ready := []
  expireStage := .disarm
  callbacks := []

def sendMsg (msg : LocMsg) (s : TimerState) : TimerState := { s with msgQ := s.msgQ ++ [msg] }

def setContainer (c : ContainerId) (x : LocTimerContainer) (s : TimerState) : TimerState :=
  { s with container := Function.update s.container c x }

def setHeap (c : ContainerId) (heap : LocHeap LocTimerDelegate) (s : TimerState) : TimerState :=
  s.setContainer c { s.container c with heap := heap }

def getSoonestTimer (c : ContainerId) (s : TimerState) : Option LocTimerDelegate :=
  (s.container c).heap.peek

/-- `timerfd_settime` with an absolute time; a zero one, here `none`, disarms. -/
def timerfdSettime (c : ContainerId) (itValue : Option Timespec) (s : TimerState) : TimerState :=
  s.setContainer c { s.container c with itValue := itValue, expired := false }

def addPoll (c : ContainerId) (s : TimerState) : TimerState :=
  s.setContainer c { s.container c with polled := true }

def removePoll (c : ContainerId) (s : TimerState) : TimerState :=
  s.setContainer c { s.container c with polled := false }

def futureTime (now : Timespec) (timeOutInMs : UInt32) : Timespec :=
  let tv_sec := now.tv_sec + timeOutInMs.toNat / 1000
  let tv_nsec := now.tv_nsec + timeOutInMs.toNat % 1000 * 1000000
  if tv_nsec ≥ 1000000000 then ⟨tv_sec + tv_nsec / 1000000000, tv_nsec % 1000000000⟩
  else ⟨tv_sec, tv_nsec⟩

def start (client : Nat) (timeOutInMs : UInt32) (wakeOnExpire : Bool) (s : TimerState) :
    TimerState :=
  match s.mTimer client with
  | some _ => s
  | none =>
    let t : LocTimerDelegate :=
      ⟨s.created, futureTime s.now timeOutInMs, ContainerId.get wakeOnExpire⟩
    sendMsg (.timerPush t) { s with
      mTimer := Function.update s.mTimer client (some t)
      mClient := Function.update s.mClient t.address (some client)
      created := s.created + 1 }

/-- `LocTimer::stop`, with `destroyLocked` of its delegate. -/
def stop (client : Nat) (s : TimerState) : TimerState :=
  match s.mTimer client with
  | none => s
  | some t =>
    sendMsg (.timerRemove t) { s with
      mTimer := Function.update s.mTimer client none
      mClient := Function.update s.mClient t.address none }

def updateSoonestTime (c : ContainerId) (priorTop : Option LocTimerDelegate) (s : TimerState) :
    TimerState :=
  if s.getSoonestTimer c ≠ priorTop then
    match s.getSoonestTimer c with
    | none => { s.removePoll c with proc := .settime c none }
    | some curTop =>
      if priorTop.all fun prior => outRanks curTop prior then
        { s.addPoll c with proc := .settime c (some curTop.mFutureTime) }
      else { s with proc := .waiting }
  else { s with proc := .waiting }

def popIfOutRanks (now : Timespec) (heap : LocHeap LocTimerDelegate) :
    Option LocTimerDelegate × LocHeap LocTimerDelegate :=
  match heap.peek with
  | some top => if !outRanks (.ofNow now) top then heap.pop else (none, heap)
  | none => (none, heap)

/-- The loop of `MsgTimerExpire`, once for each popped timer. -/
def nextTimer (c : ContainerId) (now : Timespec)
    (popped : Option LocTimerDelegate × LocHeap LocTimerDelegate) (s : TimerState) : TimerState :=
  match popped.1 with
  | some t => { s.setHeap c popped.2 with proc := .expiring c now t }
  | none => (s.setHeap c popped.2).updateSoonestTime c none

/-- The messages, from `proc` on. `MsgTimerRemove` frees its timer in the end. -/
def procMsg (msg : LocMsg) (s : TimerState) : TimerState :=
  match msg with
  | .timerPush t =>
    let priorTop := s.getSoonestTimer t.container
    (s.setHeap t.container ((s.container t.container).heap.push t)).updateSoonestTime
      t.container priorTop
  | .timerRemove t =>
    let priorTop := s.getSoonestTimer t.container
    let r := (s.container t.container).heap.remove t
    let s := s.setHeap t.container r.2
    if priorTop = r.1 then s.updateSoonestTime t.container none else s
  | .timerExpire c => s.nextTimer c s.now (s.container c).heap.pop

def runMsgTask (s : TimerState) : Option TimerState :=
  match s.proc with
  | .waiting =>
    match s.msgQ with
    | [] => none
    | msg :: rest => some (procMsg msg { s with msgQ := rest })
  | .settime c itValue => some { s.timerfdSettime c itValue with proc := .waiting }
  | .expiring c now timer =>
    match s.mClient timer.address with
    | none => some (s.nextTimer c now (popIfOutRanks now (s.container c).heap))
    | some client => some { s with proc := .stopping c now timer client }
  | .stopping c now _ client =>
    let stopped := s.stop client
    let called := match s.mTimer client with
      | none => stopped
      | some t => { stopped with callbacks := s.callbacks ++ [Callback.mk t s.now] }
    some (called.nextTimer c now (popIfOutRanks now (s.container c).heap))

theorem runMsgTask_waiting {s : TimerState} {msg : LocMsg} {rest : List LocMsg}
    (hs : s.proc = .waiting) (hq : s.msgQ = msg :: rest) :
    s.runMsgTask = some (procMsg msg { s with msgQ := rest }) := by
  cases s
  cases hs
  cases hq
  rfl

def epollWait (first : ContainerId) (s : TimerState) : Option TimerState :=
  let ready := [first, first.other].filter fun c =>
    (s.container c).polled && (s.container c).expired
  if s.ready = [] ∧ ready ≠ [] then some { s with ready := ready } else none

/-- `LocTimerContainer::expire`, for one event after the other. -/
def runPollTask (s : TimerState) : Option TimerState :=
  match s.ready with
  | [] => none
  | c :: rest =>
    match s.expireStage with
    | .disarm => some { s.timerfdSettime c none with expireStage := .removePoll }
    | .removePoll => some { s.removePoll c with expireStage := .sendMsg }
    | .sendMsg => some { s.sendMsg (.timerExpire c) with ready := rest, expireStage := .disarm }

def kernelExpire (c : ContainerId) (s : TimerState) : Option TimerState :=
  match (s.container c).itValue with
  | some t =>
    if t ≤ s.now then
      some (s.setContainer c { s.container c with itValue := none, expired := true })
    else none
  | none => none

end TimerState

inductive TimerEvent
  | clock (now : Timespec)
  | start (client : Nat) (timeOutInMs : UInt32) (wakeOnExpire : Bool)
  | stop (client : Nat)
  | kernelExpire (c : ContainerId)
  | epollWait (first : ContainerId)
  | runPollTask
  | runMsgTask
  deriving DecidableEq

namespace TimerState

def step (s : TimerState) : TimerEvent → Option TimerState
  | .clock now => if s.now ≤ now then some { s with now := now } else none
  | .start client timeOutInMs wakeOnExpire => some (s.start client timeOutInMs wakeOnExpire)
  | .stop client => some (s.stop client)
  | .kernelExpire c => s.kernelExpire c
  | .epollWait first => s.epollWait first
  | .runPollTask => s.runPollTask
  | .runMsgTask => s.runMsgTask

end TimerState

end Wt88047.Loc
