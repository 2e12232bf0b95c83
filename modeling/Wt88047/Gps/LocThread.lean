import Wt88047.Lib.Runs
import Mathlib.Algebra.Order.Ring.Nat

/-! `LocThread`: a client that starts and stops threads, and each thread's delegate, which both of them
release. Each access of a delegate is a step of its own, the locked section of `destroy` is one. -/

namespace Wt88047.LocThread

inductive ClientPc
  | created | check | held
  | bye | stop | clearRunnable | readJoinable | clearJoinable | join
  | destroy | locked | deleting | gone
  deriving DecidableEq

inductive ThreadPc
  | unborn | begin | prerun | loop | run | postrun | clear | deleteRunnable
  | destroy | locked | deleting | ended
  deriving DecidableEq

/-- A `LocThreadDelegate`. `spawned` is whether the thread could be created, `started` what `start`
has returned; the deletions and joins are counted, and `late` is an access after the deletion. -/
structure Delegate where
  joinable : Bool
  spawned : Bool
  mRunnable : Bool
  mJoinable : Bool
  mRefCount : Nat
  client : ClientPc
  thread : ThreadPc
  detached : Bool := false
  started : Option Bool := none
  deletes : Nat := 0
  runnableDeletes : Nat := 0
  joins : Nat := 0
  late : Bool := false
  deriving DecidableEq

namespace Delegate

def make (joinable spawned : Bool) : Delegate :=
  if spawned then
    { joinable := joinable, spawned := true, mRunnable := true, mJoinable := joinable, mRefCount := 2,
      client := .created, thread := .begin }
  else
    { joinable := joinable, spawned := false, mRunnable := false, mJoinable := false, mRefCount := 1,
      client := .check, thread := .unborn }

def touch (d : Delegate) : Delegate := { d with late := d.late || d.deletes ≠ 0 }

def clientStep (d : Delegate) : Option Delegate :=
  match d.client with
  | .created => some { d.touch with detached := !d.joinable, client := .check }
  | .check =>
    some { d.touch with started := some d.mRunnable, client := if d.mRunnable then .held else .destroy }
  | .held => none
  | .bye => some { d.touch with client := if d.mJoinable then .stop else .destroy }
  | .stop => some { d.touch with client := if d.mRunnable then .clearRunnable else .readJoinable }
  | .clearRunnable => some { d.touch with mRunnable := false, client := .readJoinable }
  | .readJoinable => some { d.touch with client := if d.mJoinable then .clearJoinable else .destroy }
  | .clearJoinable => some { d.touch with mJoinable := false, client := .join }
  | .join =>
    -- pthread_join returns once the thread has ended
    if d.thread = .ended then some { d.touch with joins := d.joins + 1, client := .destroy } else none
  | .destroy => some { d.touch with client := if 0 < d.mRefCount then .locked else .gone }
  | .locked =>
    some { d.touch with
      mRefCount := d.mRefCount - 1, client := if d.mRefCount = 1 then .deleting else .gone }
  | .deleting => some { d with deletes := d.deletes + 1, client := .gone }
  | .gone => none

def threadStep (more : Bool) (d : Delegate) : Option Delegate :=
  match d.thread with
  | .unborn => none
  | .begin => some { d.touch with thread := if d.mRunnable then .prerun else .destroy }
  | .prerun => some { d.touch with thread := .loop }
  | .loop => some { d.touch with thread := if d.mRunnable then .run else .postrun }
  | .run => some { d with thread := if more then .loop else .postrun }
  | .postrun => some { d.touch with thread := .clear }
  | .clear => some { d.touch with mRunnable := false, thread := .deleteRunnable }
  | .deleteRunnable => some { d with runnableDeletes := d.runnableDeletes + 1, thread := .destroy }
  | .destroy => some { d.touch with thread := if 0 < d.mRefCount then .locked else .ended }
  | .locked =>
    some { d.touch with
      mRefCount := d.mRefCount - 1, thread := if d.mRefCount = 1 then .deleting else .ended }
  | .deleting => some { d with deletes := d.deletes + 1, thread := .ended }
  | .ended => none

/-- `create` finds the runnable of a thread that it has created, and `stop` clears it when the thread
has read it. -/
def Sound (d : Delegate) : Prop :=
  (d.client = .check → d.spawned = true → d.mRunnable = true) ∧
    (d.client = .clearRunnable → d.thread ≠ .begin)

instance (d : Delegate) : Decidable d.Sound := inferInstanceAs (Decidable (_ ∧ _))

structure Lifetime (d : Delegate) : Prop where
  runnable : d.started = some true →
    d.thread ≠ .unborn ∧ d.runnableDeletes ≤ 1 ∧ (d.thread = .ended → d.runnableDeletes = 1)
  kept : d.started = some false → d.runnableDeletes = 0 ∧ d.thread = .unborn
  deleted : d.deletes ≤ 1
  freed : d.client = .gone → d.thread = .ended ∨ d.thread = .unborn → d.deletes = 1
  untouched : d.late = false
  joined : d.spawned = true → d.joinable = true → d.joins ≤ 1 ∧ (d.client = .gone → d.joins = 1)
  unjoined : d.spawned = false ∨ d.joinable = false → d.joins = 0
  joinEnds : d.client = .join → d.thread ≠ .unborn

end Delegate

/-- The client's `LocThread`: `cur` is the delegate that a call of the client is at or that `mThread`
holds, `past` are those released. -/
structure World where
  cur : Option Delegate := none
  past : List Delegate := []
  destructed : Bool := false

def World.delegates (w : World) : List Delegate := w.cur.toList ++ w.past

/-- `thread` is a step of the thread of `cur`, or of one that is released. -/
inductive Event
  | start (runnable joinable spawned : Bool)
  | stop
  | destruct
  | client
  | thread (more : Bool)
  | pastThread (i : Nat) (more : Bool)

/-- A call of the client on its thread, unless it is in another call. -/
def World.call (pc : ClientPc) (w : World) : Option World :=
  match w.cur with
  | none => some w
  | some d => if d.client = .held then some { w with cur := some { d with client := pc } } else none

def step (w : World) : Event → Option World
  | .start runnable joinable spawned =>
    if w.destructed then none
    else
      match w.cur with
      | some d => if d.client = .held then some w else none
      | none => if runnable then some { w with cur := some (.make joinable spawned) } else some w
  | .stop => if w.destructed then none else w.call .stop
  | .destruct => if w.destructed then none else (w.call .bye).map fun w => { w with destructed := true }
  | .client =>
    (w.cur.bind Delegate.clientStep).map fun d =>
      if d.client = .gone then { w with cur := none, past := w.past ++ [d] } else { w with cur := some d }
  | .thread more => (w.cur.bind (Delegate.threadStep more)).map fun d => { w with cur := some d }
  | .pastThread i more =>
    (w.past[i]?.bind (Delegate.threadStep more)).map fun d => { w with past := w.past.set i d }

def Sound (w : World) : Event → Prop
  | .client => ∀ d ∈ w.cur, d.Sound
  | _ => True

instance (w : World) : ∀ e, Decidable (Sound w e)
  | .client => inferInstanceAs (Decidable (∀ d ∈ w.cur, d.Sound))
  | .start .. | .stop | .destruct | .thread _ | .pastThread .. => isTrue trivial

end Wt88047.LocThread
