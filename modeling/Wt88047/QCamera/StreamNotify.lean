import Wt88047.Lib.Runs
import Wt88047.QCamera.CmdThread
import Mathlib.Data.List.Pairwise

/-! A `QCameraStream` and its frames: `dataNotifyCB`, the data thread, `start` and `stop`, cut
where another thread can run. Frames are numbered as they arrive. -/

namespace Wt88047.StreamNotify

open CmdThread

/-- What became of the frames: `copied` for a `malloc` and `freed` for a `free` of the copy,
`handed` for a call of `mDataCB`, `returned` for a `bufDone`. -/
structure Ledger where
  arrived : Nat := 0
  copied : List Nat := []
  handed : List Nat := []
  returned : List Nat := []
  freed : List Nat := []
  deriving DecidableEq

namespace Ledger

def arrive (mem : Bool) (g : Ledger) : Ledger :=
  if mem then { g with arrived := g.arrived + 1, copied := g.copied ++ [g.arrived] }
  else { g with arrived := g.arrived + 1, returned := g.returned ++ [g.arrived] }

def hand (n : Nat) (g : Ledger) : Ledger := { g with handed := g.handed ++ [n] }

/-- `bufDone` and `free` for each of the copies. -/
def giveBack (l : List Nat) (g : Ledger) : Ledger :=
  { g with returned := g.returned ++ l, freed := g.freed ++ l }

end Ledger

/-- Where the data thread stands: at the semaphore, before `getCmd`, with a command, with a frame,
or after its end. -/
inductive ThreadPc
  | waiting
  | woken
  | doNext
  | holding (n : Nat)
  | exiting
  | exited
  deriving DecidableEq

/-- Where `dataNotifyCB` stands: before and after it looks at `m_bActive`, before `sendCmd`, and
before `cam_sem_post`. The callbacks of a stream all come from its one callback thread. -/
inductive NotifyPc
  | idle
  | copied (n : Nat)
  | checked (n : Nat)
  | enqueued
  | posting
  deriving DecidableEq

/-- Where `start` or `stop` stands: the thread is launched, `m_bActive` is cleared, the exit command
is queued, or the thread is to be joined. -/
inductive ControlPc
  | idle
  | launched
  | cleared
  | posting
  | joining
  deriving DecidableEq

/-- `cmdPid` is the thread launched last, as its place in `threads`. `stopped` tells that `stop`
has returned and `start` was not called since. -/
structure Stream where
  dataCB : Bool
  active : Bool := false
  dataQ : List Nat := []
  commands : Commands := {}
  threads : List ThreadPc := []
  cmdPid : Option Nat := none
  notify : NotifyPc := .idle
  control : ControlPc := .idle
  stopped : Bool := false
  ledger : Ledger := {}
  deriving DecidableEq

inductive Event
  | dataNotifyCB (forStream mem : Bool)
  | checkActive
  | enqueue (mem : Bool)
  | sendNext (o : Send)
  | postNext
  | semWait (i : Nat)
  | getCmd (i : Nat)
  | dequeue (i : Nat)
  | hand (i : Nat)
  | flush (i : Nat)
  | launch
  | setActive
  | clearActive
  | sendExit (o : Send)
  | postExit
  | join

namespace Stream

def setThread (i : Nat) (pc : ThreadPc) (s : Stream) : Stream :=
  { s with threads := s.threads.set i pc }

/-- What `dataProcRoutine` does next for a command. -/
def dispatch : Cmd → ThreadPc
  | .doNextJob => .doNext
  | .exit => .exiting
  | _ => .waiting

def checkActive (n : Nat) (s : Stream) : Stream :=
  if s.active then { s with notify := .checked n }
  else { s with notify := .idle, ledger := s.ledger.giveBack [n] }

/-- The result of `mDataQ.enqueue` is not looked at. -/
def enqueue (n : Nat) (mem : Bool) (s : Stream) : Stream :=
  { s with notify := .enqueued, dataQ := if mem then s.dataQ ++ [n] else s.dataQ }

def sendNext (o : Send) (s : Stream) : Stream :=
  { s with
    notify := if o = .noMem then .idle else .posting
    commands := s.commands.put .doNextJob false o }

def dequeue (i : Nat) (s : Stream) : Stream :=
  match s.dataQ with
  | [] => s.setThread i .waiting
  | n :: rest => { s with dataQ := rest }.setThread i (.holding n)

def hand (i n : Nat) (s : Stream) : Stream :=
  { s with
    ledger := if s.dataCB then s.ledger.hand n else s.ledger.giveBack [n] }.setThread i .waiting

def flush (i : Nat) (s : Stream) : Stream :=
  { s with dataQ := [], ledger := s.ledger.giveBack s.dataQ }.setThread i .exited

def launch (s : Stream) : Stream :=
  { s with
    threads := s.threads ++ [.waiting]
    cmdPid := some s.threads.length
    control := .launched
    stopped := false }

/-- `QCameraCmdThread::exit` up to `pthread_join`. -/
def sendExit (o : Send) (s : Stream) : Stream :=
  if s.cmdPid = none ∨ o = .noMem then { s with control := .idle, stopped := true }
  else { s with control := .posting, commands := s.commands.put .exit true o }

def join (k : Nat) (s : Stream) : Stream :=
  { s with threads := s.threads.eraseIdx k, cmdPid := none, control := .idle, stopped := true }

end Stream

def threadAt (s : Stream) (i : Nat) (pc : ThreadPc) (next : Stream) : Option Stream :=
  if s.threads[i]? = some pc then some next else none

def step (s : Stream) : Event → Option Stream
  | .dataNotifyCB forStream mem =>
    if s.notify ≠ .idle then none
    else if !forStream then some s
    else some { s with
      notify := if mem then .copied s.ledger.arrived else .idle
      ledger := s.ledger.arrive mem }
  | .checkActive =>
    match s.notify with
    | .copied n => some (s.checkActive n)
    | _ => none
  | .enqueue mem =>
    match s.notify with
    | .checked n => some (s.enqueue n mem)
    | _ => none
  | .sendNext o => if s.notify = .enqueued then some (s.sendNext o) else none
  | .postNext =>
    if s.notify = .posting then some { s with notify := .idle, commands := s.commands.post }
    else none
  | .semWait i =>
    match s.commands.wait with
    | some q => threadAt s i .waiting ({ s with commands := q }.setThread i .woken)
    | none => none
  | .getCmd i =>
    threadAt s i .woken
      ({ s with commands := s.commands.getCmd.2 }.setThread i (Stream.dispatch s.commands.getCmd.1))
  | .dequeue i => threadAt s i .doNext (s.dequeue i)
  | .hand i =>
    match s.threads[i]? with
    | some (.holding n) => some (s.hand i n)
    | _ => none
  | .flush i => threadAt s i .exiting (s.flush i)
  | .launch => if s.control = .idle then some s.launch else none
  | .setActive =>
    if s.control = .launched then some { s with active := true, control := .idle } else none
  | .clearActive =>
    if s.control = .idle then some { s with active := false, control := .cleared } else none
  | .sendExit o => if s.control = .cleared then some (s.sendExit o) else none
  | .postExit =>
    if s.control = .posting then some { s with control := .joining, commands := s.commands.post }
    else none
  | .join =>
    match s.control, s.cmdPid with
    | .joining, some k => threadAt s k .exited (s.join k)
    | _, _ => none

def init (dataCB : Bool) : Stream := { dataCB }

def NotifyPc.frames : NotifyPc → List Nat
  | .copied n => [n]
  | .checked n => [n]
  | _ => []

def ThreadPc.frames : ThreadPc → List Nat
  | .holding n => [n]
  | _ => []

def pending (s : Stream) : List Nat :=
  s.threads.flatMap ThreadPc.frames ++ s.dataQ ++ s.notify.frames

/-- Handed to `mDataCB` once, or returned once with its copy freed. -/
def Ledger.Settled (g : Ledger) (n : Nat) : Prop :=
  (g.handed.count n = 1 ∧ g.returned.count n = 0 ∧ g.freed.count n = 0) ∨
    (g.handed.count n = 0 ∧ g.returned.count n = 1 ∧ g.freed.count n = g.copied.count n)

structure Delivered (s : Stream) : Prop where
  settled : ∀ n < s.ledger.arrived, n ∉ pending s → s.ledger.Settled n
  kept : ∀ n ∈ pending s, (pending s).count n = 1 ∧ s.ledger.handed.count n = 0 ∧
    s.ledger.returned.count n = 0 ∧ s.ledger.freed.count n = 0
  ordered : s.ledger.handed.Pairwise (· < ·)
  drained : s.stopped = true → s.dataQ = []
  finished : s.stopped = true → s.notify.frames = [] → pending s = []

/-- A start finds no data thread; the node for a frame of an active stream can be allocated, and
the frame is enqueued while there is a data thread that has not flushed; and the exit command can
be allocated. -/
def Sound (s : Stream) : Event → Prop
  | .enqueue mem => mem = true ∧ ∃ pc ∈ s.threads, pc ≠ .exited
  | .launch => s.threads = []
  | .sendExit o => s.cmdPid ≠ none → o ≠ .noMem
  | _ => True

instance (s : Stream) : ∀ e, Decidable (Sound s e)
  | .enqueue _ => inferInstanceAs (Decidable (_ ∧ _))
  | .launch => inferInstanceAs (Decidable (_ = _))
  | .sendExit _ => inferInstanceAs (Decidable (_ → _))
  | .dataNotifyCB .. | .checkActive | .sendNext _ | .postNext | .semWait _ | .getCmd _ | .dequeue _
  | .hand _ | .flush _ | .setActive | .clearActive | .postExit | .join => isTrue trivial

/-- `handed` and `pending` together: every frame that arrived and was not returned, in order. -/
structure Account (l : List Nat) (g : Ledger) : Prop where
  once : ∀ n, l.count n + g.handed.count n + g.returned.count n = if n < g.arrived then 1 else 0
  copies : ∀ n, l.count n + g.handed.count n + g.freed.count n = g.copied.count n
  freed : ∀ n, g.freed.count n ≤ g.returned.count n
  order : (g.handed ++ l).Pairwise (· < ·)

variable {g : Ledger} {l pre post : List Nat} {n : Nat}

theorem Account.arrived_of_mem (h : Account l g) (hn : n ∈ g.handed ++ l) : n < g.arrived := by
  have hpos : 0 < (g.handed ++ l).count n := List.count_pos_iff.mpr hn
  have hone := h.once n
  rw [List.count_append] at hpos
  by_contra hlt
  rw [if_neg hlt] at hone
  omega

theorem Account.arrive (h : Account l g) (mem : Bool) :
    Account (l ++ if mem then [g.arrived] else []) (g.arrive mem) := by
  have hlast (n : Nat) : [g.arrived].count n = if n = g.arrived then 1 else 0 := by
    by_cases hn : n = g.arrived
    · rw [if_pos hn, hn, List.count_singleton_self]
    · rw [if_neg hn]
      exact List.count_eq_zero.mpr (by simpa using hn)
  cases mem with
  | true =>
    refine ⟨fun n => ?_, fun n => ?_, h.freed, ?_⟩
    · have hone := h.once n
      have hn := hlast n
      simp only [Ledger.arrive, if_true, List.count_append, hn]
      split_ifs at hone ⊢ <;> omega
    · have hcopies := h.copies n
      simp only [Ledger.arrive, if_true, List.count_append]
      omega
    · have hall : ∀ a ∈ g.handed ++ l, ∀ b ∈ [g.arrived], a < b := by
        intro a ha b hb
        rw [List.mem_singleton.mp hb]
        exact h.arrived_of_mem ha
      have happ := List.pairwise_append.mpr ⟨h.order, List.pairwise_singleton _ _, hall⟩
      rw [List.append_assoc] at happ
      exact happ
  | false =>
    rw [if_neg (by decide), List.append_nil]
    refine ⟨fun n => ?_, h.copies, fun n => ?_, h.order⟩
    · have hone := h.once n
      have hn := hlast n
      simp only [Ledger.arrive, if_neg Bool.false_ne_true, List.count_append, hn]
      split_ifs at hone ⊢ <;> omega
    · have hfreed := h.freed n
      simp only [Ledger.arrive, if_neg Bool.false_ne_true, List.count_append]
      omega

theorem Account.hand (h : Account (n :: l) g) : Account l (g.hand n) := by
  refine ⟨fun m => ?_, fun m => ?_, h.freed, ?_⟩
  · have hone := h.once m
    rw [List.count_cons] at hone
    show l.count m + (g.handed ++ [n]).count m + g.returned.count m = if m < g.arrived then 1 else 0
    rw [List.count_append, List.count_singleton]
    omega
  · have hcopies := h.copies m
    rw [List.count_cons] at hcopies
    simp only [Ledger.hand, List.count_append, List.count_singleton]
    omega
  · have horder := h.order
    rwa [List.append_cons] at horder

theorem Account.giveBack {q : List Nat} (h : Account (pre ++ q ++ post) g) :
    Account (pre ++ post) (g.giveBack q) := by
  refine ⟨fun m => ?_, fun m => ?_, fun m => ?_, ?_⟩
  · have hone := h.once m
    show (pre ++ post).count m + g.handed.count m + (g.returned ++ q).count m =
      if m < g.arrived then 1 else 0
    simp only [List.count_append] at hone ⊢
    omega
  · have hcopies := h.copies m
    simp only [Ledger.giveBack, List.count_append] at hcopies ⊢
    omega
  · have hfreed := h.freed m
    simp only [Ledger.giveBack, List.count_append]
    omega
  · have hsub : List.Sublist (pre ++ post) (pre ++ q ++ post) :=
      (List.sublist_append_left pre q).append_right post
    exact h.order.sublist (hsub.append_left g.handed)

theorem Account.settled (h : Account l g) (hn : n < g.arrived) (hl : n ∉ l) : g.Settled n := by
  have hone := h.once n
  have hcopies := h.copies n
  have hfreed := h.freed n
  rw [if_pos hn, List.count_eq_zero.mpr hl] at hone
  rw [List.count_eq_zero.mpr hl] at hcopies
  unfold Ledger.Settled
  by_cases hh : g.handed.count n = 0
  · right
    omega
  · left
    omega

theorem Account.kept (h : Account l g) (hl : n ∈ l) : l.count n = 1 ∧ g.handed.count n = 0 ∧
    g.returned.count n = 0 ∧ g.freed.count n = 0 := by
  have hone := h.once n
  have hfreed := h.freed n
  have hpos : 0 < l.count n := List.count_pos_iff.mpr hl
  rw [if_pos (h.arrived_of_mem (List.mem_append_right _ hl))] at hone
  omega

/-- At most one data thread, which `cmdPid` names, and no frame in the queue without one that has
still to flush. -/
structure Inv (s : Stream) : Prop where
  single : (s.threads = [] ∧ s.cmdPid = none) ∨ ∃ pc, s.threads = [pc] ∧ s.cmdPid = some 0
  quiet : (∀ pc ∈ s.threads, pc = .exited) → s.dataQ = []
  account : Account (pending s) s.ledger
  stopped : s.stopped = true → s.threads = []

variable {s t : Stream} {i : Nat} {pc : ThreadPc} {next : Stream}

theorem Inv.alone (h : Inv s) (hpc : s.threads[i]? = some pc) :
    i = 0 ∧ s.threads = [pc] ∧ s.cmdPid = some 0 ∧ s.stopped = false := by
  rcases h.single with ⟨ht, _⟩ | ⟨pc', ht, hpid⟩
  · rw [ht] at hpc
    cases hpc
  · have hstop : s.stopped = false := by
      by_contra hs
      have hnil := h.stopped (by simpa using hs)
      rw [ht] at hnil
      cases hnil
    rw [ht, List.getElem?_singleton] at hpc
    by_cases hi : i = 0
    · rw [if_pos hi] at hpc
      obtain rfl := Option.some.inj hpc
      exact ⟨hi, ht, hpid, hstop⟩
    · rw [if_neg hi] at hpc
      cases hpc

theorem threadAt_eq (h : threadAt s i pc next = some t) : s.threads[i]? = some pc ∧ t = next := by
  unfold threadAt at h
  split at h
  · exact ⟨by assumption, (Option.some.inj h).symm⟩
  · cases h

theorem Inv.advance {pc' : ThreadPc} (h : Inv s) (hpc : s.threads[i]? = some pc)
    (ht : t.threads = s.threads.set i pc') (hpid : t.cmdPid = s.cmdPid)
    (hstop : t.stopped = s.stopped) (hquiet : pc' = .exited → t.dataQ = [])
    (hacc : Account (pc'.frames ++ t.dataQ ++ t.notify.frames) t.ledger) : Inv t := by
  obtain ⟨rfl, hthreads, hpid0, hstop0⟩ := h.alone hpc
  have hset : t.threads = [pc'] := by rw [ht, hthreads]; rfl
  refine ⟨Or.inr ⟨pc', hset, by rw [hpid, hpid0]⟩, fun hall => ?_, ?_, fun hs => ?_⟩
  · exact hquiet (hall pc' (by rw [hset]; exact List.mem_singleton_self _))
  · have hp : pending t = pc'.frames ++ t.dataQ ++ t.notify.frames := by
      unfold pending
      rw [hset, List.flatMap_singleton]
    rw [hp]
    exact hacc
  · rw [hstop, hstop0] at hs
    cases hs

theorem Inv.account_alone (h : Inv s) (hpc : s.threads[i]? = some pc) :
    Account (pc.frames ++ s.dataQ ++ s.notify.frames) s.ledger := by
  obtain ⟨_, hthreads, _, _⟩ := h.alone hpc
  have hacc := h.account
  unfold pending at hacc
  rwa [hthreads, List.flatMap_singleton] at hacc

theorem Inv.notified (h : Inv s) (ht : t.threads = s.threads) (hpid : t.cmdPid = s.cmdPid)
    (hstop : t.stopped = s.stopped) (hq : (∀ pc ∈ s.threads, pc = .exited) → t.dataQ = [])
    (hacc : Account (pending t) t.ledger) : Inv t :=
  ⟨by rw [ht, hpid]; exact h.single, by rw [ht]; exact hq, hacc,
    by rw [hstop, ht]; exact h.stopped⟩

theorem Inv.checkActive (h : Inv s) (hn : s.notify = .copied n) : Inv (s.checkActive n) := by
  have hacc := h.account
  unfold pending at hacc
  rw [hn] at hacc
  unfold Stream.checkActive
  split
  · exact h.notified rfl rfl rfl h.quiet hacc
  · refine h.notified rfl rfl rfl h.quiet ?_
    have hback : Account (s.threads.flatMap ThreadPc.frames ++ s.dataQ ++ [n] ++ []) s.ledger := by
      rw [List.append_nil]
      exact hacc
    exact hback.giveBack

theorem Inv.enqueue (h : Inv s) (hn : s.notify = .checked n)
    (hthread : ∃ pc ∈ s.threads, pc ≠ .exited) : Inv (s.enqueue n true) := by
  have hacc := h.account
  unfold pending at hacc
  rw [hn] at hacc
  refine h.notified rfl rfl rfl (fun hall => ?_) ?_
  · obtain ⟨pc, hpc, hne⟩ := hthread
    exact absurd (hall pc hpc) hne
  · have hq : pending (s.enqueue n true) =
        s.threads.flatMap ThreadPc.frames ++ (s.dataQ ++ [n]) ++ [] := rfl
    rw [hq, List.append_nil, ← List.append_assoc]
    exact hacc

theorem dispatch_frames (c : Cmd) : (Stream.dispatch c).frames = [] := by
  cases c <;> rfl

theorem dispatch_live (c : Cmd) : Stream.dispatch c ≠ .exited := by
  cases c <;> exact ThreadPc.noConfusion

theorem Inv.dequeue (h : Inv s) (hpc : s.threads[i]? = some .doNext) : Inv (s.dequeue i) := by
  have hacc := h.account_alone hpc
  unfold Stream.dequeue
  cases hq : s.dataQ with
  | nil =>
    refine h.advance hpc rfl rfl rfl (fun he => ThreadPc.noConfusion he) ?_
    exact hacc
  | cons n rest =>
    refine h.advance hpc rfl rfl rfl (fun he => ThreadPc.noConfusion he) ?_
    rw [hq] at hacc
    exact hacc

theorem Inv.hand (h : Inv s) (hpc : s.threads[i]? = some (.holding n)) : Inv (s.hand i n) := by
  have hacc := h.account_alone hpc
  refine h.advance hpc rfl rfl rfl (fun he => ThreadPc.noConfusion he) ?_
  show Account ([] ++ s.dataQ ++ s.notify.frames)
    (if s.dataCB then s.ledger.hand n else s.ledger.giveBack [n])
  split
  · exact hacc.hand
  · have hback : Account ([] ++ [n] ++ (s.dataQ ++ s.notify.frames)) s.ledger := hacc
    exact hback.giveBack

theorem Inv.flush (h : Inv s) (hpc : s.threads[i]? = some .exiting) : Inv (s.flush i) := by
  have hacc := h.account_alone hpc
  refine h.advance hpc rfl rfl rfl (fun _ => rfl) ?_
  exact hacc.giveBack

theorem Inv.launch (h : Inv s) (ht : s.threads = []) : Inv s.launch := by
  have hthreads : s.launch.threads = [.waiting] := by
    show s.threads ++ [.waiting] = [.waiting]
    rw [ht]
    rfl
  refine ⟨Or.inr ⟨.waiting, hthreads, ?_⟩, fun hall => ?_, ?_, fun hs => Bool.noConfusion hs⟩
  · show some s.threads.length = some 0
    rw [ht]
    rfl
  · have hexited := hall .waiting (by rw [hthreads]; exact List.mem_singleton_self _)
    cases hexited
  · have hacc := h.account
    unfold pending at hacc ⊢
    rw [ht] at hacc
    rw [hthreads]
    exact hacc

theorem Inv.sendExit {o : Send} (h : Inv s) (ho : s.cmdPid ≠ none → o ≠ .noMem) :
    Inv (s.sendExit o) := by
  unfold Stream.sendExit
  by_cases hpid : s.cmdPid = none
  · rw [if_pos (Or.inl hpid)]
    refine ⟨h.single, h.quiet, h.account, fun _ => ?_⟩
    rcases h.single with ⟨ht, _⟩ | ⟨pc, _, hsome⟩
    · exact ht
    · rw [hpid] at hsome
      cases hsome
  · have hne : ¬(s.cmdPid = none ∨ o = .noMem) := fun hor => hor.elim hpid (ho hpid)
    rw [if_neg hne]
    exact ⟨h.single, h.quiet, h.account, h.stopped⟩

theorem Inv.join {k : Nat} (h : Inv s) (hpc : s.threads[k]? = some .exited) : Inv (s.join k) := by
  obtain ⟨rfl, hthreads, _, _⟩ := h.alone hpc
  have hnil : (s.join 0).threads = [] := by
    show s.threads.eraseIdx 0 = []
    rw [hthreads]
    rfl
  refine ⟨Or.inl ⟨hnil, rfl⟩, fun _ => h.quiet ?_, ?_, fun _ => hnil⟩
  · rw [hthreads]
    exact fun pc hm => List.mem_singleton.mp hm
  · have hacc := h.account_alone hpc
    unfold pending
    rw [hnil]
    exact hacc

theorem Inv.step {e : Event} (h : Inv s) (hs : Sound s e) (ht : step s e = some t) : Inv t := by
  cases e with
  | dataNotifyCB forStream mem =>
    simp only [StreamNotify.step] at ht
    split at ht
    · cases ht
    next hidle =>
    have hnotify : s.notify = .idle := by simpa using hidle
    split at ht
    · obtain rfl := Option.some.inj ht
      exact h
    · obtain rfl := Option.some.inj ht
      refine h.notified rfl rfl rfl h.quiet ?_
      have hacc := h.account.arrive mem
      have hp : pending s = s.threads.flatMap ThreadPc.frames ++ s.dataQ ++ [] := by
        rw [pending, hnotify]
        rfl
      rw [hp, List.append_nil] at hacc
      cases mem <;> exact hacc
  | checkActive =>
    simp only [StreamNotify.step] at ht
    split at ht
    next n hn =>
      obtain rfl := Option.some.inj ht
      exact h.checkActive hn
    · cases ht
  | enqueue mem =>
    obtain ⟨rfl, hthread⟩ := hs
    simp only [StreamNotify.step] at ht
    split at ht
    next n hn =>
      obtain rfl := Option.some.inj ht
      exact h.enqueue hn hthread
    · cases ht
  | sendNext o =>
    simp only [StreamNotify.step] at ht
    split at ht
    next hn =>
      obtain rfl := Option.some.inj ht
      refine h.notified rfl rfl rfl h.quiet ?_
      have hacc := h.account
      unfold pending at hacc ⊢
      rw [hn] at hacc
      cases o <;> exact hacc
    · cases ht
  | postNext =>
    simp only [StreamNotify.step] at ht
    split at ht
    next hn =>
      obtain rfl := Option.some.inj ht
      refine h.notified rfl rfl rfl h.quiet ?_
      have hacc := h.account
      unfold pending at hacc ⊢
      rwa [hn] at hacc
    · cases ht
  | semWait i =>
    simp only [StreamNotify.step] at ht
    split at ht
    next q hq =>
      obtain ⟨hpc, rfl⟩ := threadAt_eq ht
      have hacc := h.account_alone hpc
      exact h.advance hpc rfl rfl rfl (fun he => ThreadPc.noConfusion he) hacc
    · cases ht
  | getCmd i =>
    obtain ⟨hpc, rfl⟩ := threadAt_eq ht
    refine h.advance hpc rfl rfl rfl (fun he => absurd he (dispatch_live _)) ?_
    rw [dispatch_frames]
    exact h.account_alone hpc
  | dequeue i =>
    obtain ⟨hpc, rfl⟩ := threadAt_eq ht
    exact h.dequeue hpc
  | hand i =>
    simp only [StreamNotify.step] at ht
    split at ht
    next n hpc =>
      obtain rfl := Option.some.inj ht
      exact h.hand hpc
    · cases ht
  | flush i =>
    obtain ⟨hpc, rfl⟩ := threadAt_eq ht
    exact h.flush hpc
  | launch =>
    simp only [StreamNotify.step] at ht
    split at ht
    · obtain rfl := Option.some.inj ht
      exact h.launch hs
    · cases ht
  | setActive =>
    simp only [StreamNotify.step] at ht
    split at ht
    · obtain rfl := Option.some.inj ht
      exact ⟨h.single, h.quiet, h.account, h.stopped⟩
    · cases ht
  | clearActive =>
    simp only [StreamNotify.step] at ht
    split at ht
    · obtain rfl := Option.some.inj ht
      exact ⟨h.single, h.quiet, h.account, h.stopped⟩
    · cases ht
  | sendExit o =>
    simp only [StreamNotify.step] at ht
    split at ht
    · obtain rfl := Option.some.inj ht
      exact h.sendExit hs
    · cases ht
  | postExit =>
    simp only [StreamNotify.step] at ht
    split at ht
    · obtain rfl := Option.some.inj ht
      exact ⟨h.single, h.quiet, h.account, h.stopped⟩
    · cases ht
  | join =>
    simp only [StreamNotify.step] at ht
    split at ht
    next k _ _ =>
      obtain ⟨hpc, rfl⟩ := threadAt_eq ht
      exact h.join hpc
    · cases ht

theorem Inv.init (dataCB : Bool) : Inv (init dataCB) :=
  ⟨Or.inl ⟨rfl, rfl⟩, fun _ => rfl, ⟨fun _ => rfl, fun _ => rfl, fun _ => Nat.le_refl 0,
    List.Pairwise.nil⟩, fun hs => Bool.noConfusion hs⟩

theorem Inv.delivered (h : Inv s) : Delivered s := by
  refine ⟨fun n hn hp => h.account.settled hn hp, fun n hp => h.account.kept hp, ?_, ?_, ?_⟩
  · exact (List.pairwise_append.mp h.account.order).1
  · intro hs
    refine h.quiet fun pc hpc => ?_
    rw [h.stopped hs] at hpc
    cases hpc
  · intro hs hn
    have hq : s.dataQ = [] := h.quiet fun pc hpc => by rw [h.stopped hs] at hpc; cases hpc
    rw [pending, h.stopped hs, hq, hn]
    rfl

/-- Frames of a stream are handed over or returned once and in order, and none is left after a
stop, when every step meets the condition. -/
theorem frames_delivered {dataCB : Bool} {es : List Event} {s : Stream}
    (hrun : Runs.play step (init dataCB) es = some s)
    (hsound : Runs.Along step Sound (init dataCB) es) : Delivered s :=
  (Runs.play_invariant (fun _ _ _ hi hs ht => Inv.step hi hs ht) (Inv.init dataCB) hsound
    hrun).delivered

def stopRun : List Event :=
  [.launch, .setActive, .dataNotifyCB true true, .checkActive, .enqueue true, .sendNext .sent,
    .postNext, .semWait 0, .getCmd 0, .dequeue 0, .hand 0, .dataNotifyCB true true, .checkActive,
    .clearActive, .sendExit .sent, .postExit, .semWait 0, .enqueue true, .getCmd 0, .flush 0, .join]

theorem frames_delivered_stop : ∃ s, Runs.play step (init true) stopRun = some s ∧
    s.ledger.handed = [0] ∧ s.ledger.returned = [1] ∧ Delivered s :=
  ⟨_, rfl, rfl, rfl, @frames_delivered true stopRun _ rfl (by decide)⟩

/-- The callback has found the stream active and enqueues its frame after the thread has flushed. -/
theorem enqueued_after_flush :
    ¬∀ (dataCB : Bool) (es : List Event) (s : Stream),
      Runs.play step (init dataCB) es = some s → Delivered s := by
  intro h
  have hs := h true [.launch, .setActive, .dataNotifyCB true true, .checkActive, .clearActive,
    .sendExit .sent, .postExit, .semWait 0, .getCmd 0, .flush 0, .join, .enqueue true] _ rfl
  have hleft : [0] = ([] : List Nat) := hs.drained rfl
  cases hleft

end Wt88047.StreamNotify
