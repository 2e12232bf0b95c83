import Wt88047.Lib.Runs
import Wt88047.QCamera.CmdThread
import Mathlib.Data.List.Nodup

/-! The deferred work of the HAL: `queueDefferedWork`, `waitDefferedWork` and the deferred-work
thread. Calls of `queueDefferedWork` are numbered, and so are the jobs they queue. -/

namespace Wt88047.DeferredWork

open CmdThread

def maxOngoingJobs : Nat := 25

/-- `DefferedWorkCmd` -/
inductive DeffCmd
  | allocateBuff
  | pprocStart
  | max
  deriving DecidableEq

/-- `DeffWork`: the channel is `allocArgs.ch` or `pprocArgs`. -/
structure DeffWork where
  serial : Nat
  cmd : DeffCmd
  id : Nat
  ch : Option Nat
  deriving DecidableEq

/-- A call of `waitDefferedWork` for the job with serial `target`: asleep in `mDeffCond.wait`, or
about to look at the job again. -/
structure Waiter where
  target : Nat
  id : Nat
  asleep : Bool := true
  deriving DecidableEq

/-- Where the thread stands: at the semaphore, before `getCmd`, before it takes a job, with a job
it has not executed, and with one it has executed and not yet taken `mDeffLock` for. -/
inductive ThreadPc
  | waiting
  | woken
  | doNext
  | running (w : DeffWork)
  | executed (w : DeffWork)
  | exited
  deriving DecidableEq

/-- `results` are the ids that the calls of `queueDefferedWork` returned. `queued`, `executed`,
`freed` and `deleted` record the serials of the jobs queued, executed, whose slot was cleared and
whose record was deleted; `deletedChs` the channels deleted. -/
structure Hwi where
  ongoing : Nat → Bool := fun _ => false
  cmdQ : List DeffWork := []
  commands : Commands := { queue := [.startDataProc], sem := 1 }
  pc : ThreadPc := .waiting
  active : Bool := false
  waiters : List Waiter := []
  results : List Int := []
  queued : List Nat := []
  executed : List Nat := []
  freed : List Nat := []
  deleted : List Nat := []
  deletedChs : List Nat := []

inductive Event
  | queue (cmd : DeffCmd) (ch : Option Nat) (node : Bool) (o : Send)
  | wait (k : Nat)
  | resume (i : Nat)
  | spurious (i : Nat)
  | semWait
  | getCmd
  | dequeue
  | execute
  | finish (woken : Option Nat)
  | deleteChannel (c : Nat)

namespace Hwi

def freeSlot (s : Hwi) : Option Nat := (List.range maxOngoingJobs).find? fun i => !s.ongoing i

/-- `queueDefferedWork`, all of it under `mDeffLock`. Neither the result of `enqueue` nor that of
`sendCmd` is looked at. -/
def queueDefferedWork (cmd : DeffCmd) (ch : Option Nat) (node : Bool) (o : Send) (s : Hwi) : Hwi :=
  match s.freeSlot with
  | none => { s with results := s.results ++ [-1] }
  | some i => { s with
      cmdQ := if node then s.cmdQ ++ [⟨s.results.length, cmd, i, ch⟩] else s.cmdQ
      ongoing := Function.update s.ongoing i true
      commands := s.commands.sendCmd .doNextJob false o
      results := s.results ++ [(i : Int)]
      queued := s.queued ++ [s.results.length] }

/-- `waitDefferedWork` for the id that the call `k` has returned. -/
def waitDefferedWork (k : Nat) (jobId : Int) (s : Hwi) : Hwi :=
  if (maxOngoingJobs : Int) ≤ jobId ∨ 0 > jobId then s
  else if s.ongoing jobId.toNat then { s with waiters := s.waiters ++ [⟨k, jobId.toNat, true⟩] }
  else s

def resume (i : Nat) (w : Waiter) (s : Hwi) : Hwi :=
  if s.ongoing w.id then { s with waiters := s.waiters.set i { w with asleep := true } }
  else { s with waiters := s.waiters.eraseIdx i }

def wake (i : Nat) (s : Hwi) : Hwi :=
  { s with waiters := s.waiters.modify i fun w => { w with asleep := false } }

def signal (woken : Option Nat) (s : Hwi) : Option Hwi :=
  match woken with
  | none => if ∃ w ∈ s.waiters, w.asleep = true then none else some s
  | some i => if (s.waiters[i]?.map Waiter.asleep) = some true then some (s.wake i) else none

def broadcast (s : Hwi) : Hwi :=
  { s with waiters := s.waiters.map fun w => { w with asleep := false } }

def clear (w : DeffWork) (s : Hwi) : Hwi :=
  { s with
    ongoing := Function.update s.ongoing w.id false
    freed := s.freed ++ [w.serial]
    deleted := s.deleted ++ [w.serial]
    pc := .waiting }

def getCmd (s : Hwi) : Hwi :=
  let s' := { s with commands := s.commands.getCmd.2 }
  match s.commands.getCmd.1 with
  | .startDataProc => { s' with active := true, pc := .waiting }
  | .stopDataProc => { s' with active := false, pc := .waiting }
  | .doNextJob => { s' with pc := .doNext }
  | .exit => { s' with pc := .exited }
  | .none => { s' with pc := .waiting }

def dequeue (s : Hwi) : Hwi :=
  match s.cmdQ with
  | [] => { s with pc := .waiting }
  | w :: rest => { s with cmdQ := rest, pc := .running w }

/-- The branches of the routine: an allocation without a channel and an unknown command leave the
switch at once. -/
def execute (w : DeffWork) (s : Hwi) : Hwi :=
  match w.cmd, w.ch with
  | .allocateBuff, none => { s with pc := .waiting }
  | .allocateBuff, some _ => { s with pc := .executed w, executed := s.executed ++ [w.serial] }
  | .pprocStart, _ => { s with pc := .executed w, executed := s.executed ++ [w.serial] }
  | .max, _ => { s with pc := .waiting }

/-- The end of a job under `mDeffLock`: an allocation signals, the post-processor broadcasts. -/
def finish (w : DeffWork) (woken : Option Nat) (s : Hwi) : Option Hwi :=
  match w.cmd with
  | .pprocStart => some (s.clear w).broadcast
  | _ => (s.clear w).signal woken

end Hwi

def step (s : Hwi) : Event → Option Hwi
  | .queue cmd ch node o => some (s.queueDefferedWork cmd ch node o)
  | .wait k =>
    match s.results[k]? with
    | some jobId => some (s.waitDefferedWork k jobId)
    | none => none
  | .resume i =>
    match s.waiters[i]? with
    | some w => if w.asleep then none else some (s.resume i w)
    | none => none
  | .spurious i => some (s.wake i)
  | .semWait =>
    match s.pc, s.commands.wait with
    | .waiting, some q => some { s with commands := q, pc := .woken }
    | _, _ => none
  | .getCmd => if s.pc = .woken then some s.getCmd else none
  | .dequeue => if s.pc = .doNext then some s.dequeue else none
  | .execute =>
    match s.pc with
    | .running w => some (s.execute w)
    | _ => none
  | .finish woken =>
    match s.pc with
    | .executed w => s.finish w woken
    | _ => none
  | .deleteChannel c => some { s with deletedChs := s.deletedChs ++ [c] }

def ThreadPc.held : ThreadPc → List DeffWork
  | .running w => [w]
  | .executed w => [w]
  | _ => []

def ThreadPc.toRun : ThreadPc → List DeffWork
  | .running w => [w]
  | _ => []

def pending (s : Hwi) : List DeffWork := s.pc.held ++ s.cmdQ

def Pending (s : Hwi) (k : Nat) : Prop := k ∈ (pending s).map DeffWork.serial

/-- Every job is executed at most once, and when it has been handled its id was freed once and its
record deleted once; no waiter sleeps for a job that has been handled, or waits for another job
than its own; and no job runs on a deleted channel. -/
structure Orderly (s : Hwi) : Prop where
  executed : ∀ k, s.executed.count k ≤ 1
  handled : ∀ k ∈ s.queued, ¬Pending s k →
    s.executed.count k = 1 ∧ s.freed.count k = 1 ∧ s.deleted.count k = 1
  unhandled : ∀ k, Pending s k → s.freed.count k = 0 ∧ s.deleted.count k = 0
  slots : ∀ i, s.ongoing i = true ↔ ∃ w ∈ pending s, w.id = i
  woken : ∀ w ∈ s.waiters, w.asleep = true → Pending s w.target
  own : ∀ w ∈ s.waiters, ∀ j ∈ pending s, j.id = w.id → j.serial = w.target
  live : ∀ w ∈ s.pc.toRun, ∀ c ∈ w.ch, c ∉ s.deletedChs

/-- A job has a known command, an allocation has its channel, the channel is not deleted and stays
until the job has run, and the node for the job can be allocated; an id is given out again only
when nobody waits for its last job, and nobody begins to wait for a job whose id another job has;
and the signal at the end of an allocation wakes all who sleep for it, that is the only one. -/
def Sound (s : Hwi) : Event → Prop
  | .queue cmd ch node _ => ∀ i ∈ s.freeSlot, node = true ∧ cmd ≠ .max ∧
      (cmd = .allocateBuff → ch ≠ none) ∧ (∀ c ∈ ch, c ∉ s.deletedChs) ∧ ∀ w ∈ s.waiters, w.id ≠ i
  | .wait k => ∀ j ∈ pending s, s.results[k]? = some (j.id : Int) → j.serial = k
  | .finish woken => ∀ w ∈ s.pc.held, w.cmd ≠ .pprocStart → ∀ i < s.waiters.length,
      ∀ x ∈ s.waiters[i]?, x.asleep = true → x.target = w.serial → woken = some i
  | .deleteChannel c => ∀ w ∈ s.pc.toRun ++ s.cmdQ, w.ch ≠ some c
  | _ => True

instance (s : Hwi) : ∀ e, Decidable (Sound s e)
  | .queue .. => inferInstanceAs (Decidable (∀ i ∈ s.freeSlot, _ ∧ _ ∧ (_ → _) ∧ (∀ c ∈ _, _) ∧ _))
  | .wait k => inferInstanceAs (Decidable (∀ j ∈ pending s, s.results[k]? = some (j.id : Int) → _))
  | .finish woken => inferInstanceAs (Decidable (∀ w ∈ s.pc.held, w.cmd ≠ .pprocStart →
      ∀ i < s.waiters.length, ∀ x ∈ s.waiters[i]?, x.asleep = true → x.target = w.serial →
        woken = some i))
  | .deleteChannel c => inferInstanceAs (Decidable (∀ w ∈ s.pc.toRun ++ s.cmdQ, w.ch ≠ some c))
  | .resume _ | .spurious _ | .semWait | .getCmd | .dequeue | .execute => isTrue trivial

def ThreadPc.done : ThreadPc → List Nat
  | .executed w => [w.serial]
  | _ => []

structure Inv (s : Hwi) : Prop where
  line : s.queued = s.freed ++ (pending s).map DeffWork.serial
  ordered : s.queued.Pairwise (· < ·)
  below : ∀ k ∈ s.queued, k < s.results.length
  deleted : s.deleted = s.freed
  executed : s.executed = s.freed ++ s.pc.done
  ids : ((pending s).map DeffWork.id).Nodup
  slots : ∀ i, s.ongoing i = true ↔ ∃ j ∈ pending s, j.id = i
  sleeping : ∀ w ∈ s.waiters, w.asleep = true →
    ∃ j ∈ pending s, j.serial = w.target ∧ j.id = w.id
  own : ∀ w ∈ s.waiters, ∀ j ∈ pending s, j.id = w.id → j.serial = w.target
  known : ∀ j ∈ s.pc.toRun ++ s.cmdQ, j.cmd ≠ .max ∧ (j.cmd = .allocateBuff → j.ch ≠ none)
  live : ∀ j ∈ s.pc.toRun ++ s.cmdQ, ∀ c ∈ j.ch, c ∉ s.deletedChs

theorem Inv.nodup {s : Hwi} (h : Inv s) : s.queued.Nodup :=
  h.ordered.imp fun hlt => Nat.ne_of_lt hlt

theorem Inv.orderly {s : Hwi} (h : Inv s) : Orderly s := by
  have hnodup := h.nodup
  have hsplit := h.nodup
  rw [h.line] at hsplit
  obtain ⟨hfreed, _, hdisj⟩ := List.nodup_append.mp hsplit
  have hdone : ∀ k ∈ s.pc.done, k ∈ (pending s).map DeffWork.serial := by
    intro k hk
    unfold pending
    cases hpc : s.pc with
    | executed w =>
      rw [hpc] at hk
      obtain rfl := List.mem_singleton.mp hk
      exact List.mem_cons_self ..
    | _ =>
      rw [hpc] at hk
      cases hk
  have hdoneCount (k : Nat) : s.pc.done.count k ≤ 1 := by
    cases s.pc with
    | executed w => exact List.nodup_iff_count_le_one.mp (List.nodup_singleton w.serial) k
    | _ => exact Nat.zero_le 1
  refine ⟨fun k => ?_, fun k hk hp => ?_, fun k hp => ?_, h.slots, fun w hw ha => ?_, h.own, ?_⟩
  · have hone := List.nodup_iff_count_le_one.mp hfreed k
    rw [h.executed, List.count_append]
    by_cases hk : k ∈ s.freed
    · have hnot : k ∉ s.pc.done := fun hd => hdisj k hk k (hdone k hd) rfl
      rw [List.count_eq_zero.mpr hnot]
      omega
    · have hd := hdoneCount k
      rw [List.count_eq_zero.mpr hk]
      omega
  · have hmem : k ∈ s.freed := by
      rw [h.line] at hk
      exact (List.mem_append.mp hk).resolve_right hp
    have hone : s.freed.count k = 1 := List.count_eq_one_of_mem hfreed hmem
    have hnot : k ∉ s.pc.done := fun hd => hp (hdone k hd)
    refine ⟨?_, hone, by rw [h.deleted]; exact hone⟩
    rw [h.executed, List.count_append, hone, List.count_eq_zero.mpr hnot]
  · have hnot : k ∉ s.freed := fun hk => hdisj k hk k hp rfl
    rw [h.deleted]
    exact ⟨List.count_eq_zero.mpr hnot, List.count_eq_zero.mpr hnot⟩
  · obtain ⟨j, hj, htarget, _⟩ := h.sleeping w hw ha
    exact List.mem_map.mpr ⟨j, hj, htarget⟩
  · exact fun w hw => h.live w (List.mem_append_left _ hw)

variable {s t : Hwi} {w : DeffWork}

theorem Inv.thread {pc : ThreadPc} {c : Commands} {a : Bool} (h : Inv s) (hheld : pc.held = s.pc.held)
    (hrun : pc.toRun = s.pc.toRun) (hdone : pc.done = s.pc.done) :
    Inv { s with pc := pc, commands := c, active := a } := by
  have hp : pending { s with pc := pc, commands := c, active := a } = pending s := by
    show pc.held ++ s.cmdQ = s.pc.held ++ s.cmdQ
    rw [hheld]
  refine ⟨?_, h.ordered, h.below, h.deleted, ?_, ?_, ?_, ?_, ?_, ?_, ?_⟩
  · rw [hp]
    exact h.line
  · show s.executed = s.freed ++ pc.done
    rw [hdone]
    exact h.executed
  · rw [hp]
    exact h.ids
  · rw [hp]
    exact h.slots
  · rw [hp]
    exact h.sleeping
  · rw [hp]
    exact h.own
  · show ∀ j ∈ pc.toRun ++ s.cmdQ, _
    rw [hrun]
    exact h.known
  · show ∀ j ∈ pc.toRun ++ s.cmdQ, _
    rw [hrun]
    exact h.live

theorem Inv.withWaiters {ws : List Waiter} (h : Inv s)
    (hsleep : ∀ x ∈ ws, x.asleep = true → ∃ j ∈ pending s, j.serial = x.target ∧ j.id = x.id)
    (hown : ∀ x ∈ ws, ∀ j ∈ pending s, j.id = x.id → j.serial = x.target) :
    Inv { s with waiters := ws } :=
  ⟨h.line, h.ordered, h.below, h.deleted, h.executed, h.ids, h.slots, hsleep, hown, h.known, h.live⟩

theorem Inv.queue {cmd : DeffCmd} {ch : Option Nat} {node : Bool} {o : Send} (h : Inv s)
    (hs : Sound s (.queue cmd ch node o)) : Inv (s.queueDefferedWork cmd ch node o) := by
  unfold Hwi.queueDefferedWork
  cases hfree : s.freeSlot with
  | none =>
    refine ⟨h.line, h.ordered, fun k hk => ?_, h.deleted, h.executed, h.ids, h.slots, h.sleeping,
      h.own, h.known, h.live⟩
    have hlt := h.below k hk
    show k < (s.results ++ [-1]).length
    rw [List.length_append]
    exact Nat.lt_add_right _ hlt
  | some i =>
    obtain ⟨hnode, hcmd, hch, hlive, hwait⟩ := hs i hfree
    subst hnode
    have hidle : s.ongoing i = false := by
      have hi := List.find?_some hfree
      simpa using hi
    have hnone : ∀ j ∈ pending s, j.id ≠ i := by
      intro j hj hid
      rw [(h.slots i).mpr ⟨j, hj, hid⟩] at hidle
      cases hidle
    let new : DeffWork := ⟨s.results.length, cmd, i, ch⟩
    let t : Hwi := { s with
      cmdQ := s.cmdQ ++ [new]
      ongoing := Function.update s.ongoing i true
      commands := s.commands.sendCmd .doNextJob false o
      results := s.results ++ [(i : Int)]
      queued := s.queued ++ [s.results.length] }
    have hp : pending t = pending s ++ [new] := (List.append_assoc _ _ _).symm
    show Inv t
    refine ⟨?_, ?_, ?_, h.deleted, h.executed, ?_, ?_, ?_, ?_, ?_, ?_⟩
    · rw [hp, List.map_append, ← List.append_assoc, ← h.line]
      rfl
    · refine List.pairwise_append.mpr ⟨h.ordered, List.pairwise_singleton _ _, ?_⟩
      intro a ha b hb
      rw [List.mem_singleton.mp hb]
      exact h.below a ha
    · intro k hk
      show k < (s.results ++ [(i : Int)]).length
      rw [List.length_append, List.length_singleton]
      rcases List.mem_append.mp hk with hk | hk
      · exact Nat.lt_add_right 1 (h.below k hk)
      · rw [List.mem_singleton.mp hk]
        exact Nat.lt_succ_self _
    · rw [hp, List.map_append]
      refine List.nodup_append.mpr ⟨h.ids, List.nodup_singleton _, ?_⟩
      rintro a ha b hb rfl
      obtain ⟨j, hj, hid⟩ := List.mem_map.mp ha
      exact hnone j hj (hid.trans (List.mem_singleton.mp hb))
    · intro k
      rw [hp]
      show Function.update s.ongoing i true k = true ↔ _
      by_cases hk : k = i
      · rw [hk, Function.update_self]
        exact ⟨fun _ => ⟨new, List.mem_append_right _ (List.mem_singleton_self _), rfl⟩, fun _ => rfl⟩
      · rw [Function.update_of_ne hk, h.slots k]
        constructor
        · rintro ⟨j, hj, hid⟩
          exact ⟨j, List.mem_append_left _ hj, hid⟩
        · rintro ⟨j, hj, hid⟩
          rcases List.mem_append.mp hj with hj | hj
          · exact ⟨j, hj, hid⟩
          · rw [List.mem_singleton.mp hj] at hid
            exact absurd hid.symm hk
    · intro x hx ha
      obtain ⟨j, hj, htarget, hid⟩ := h.sleeping x hx ha
      rw [hp]
      exact ⟨j, List.mem_append_left _ hj, htarget, hid⟩
    · intro x hx j hj hid
      rw [hp] at hj
      rcases List.mem_append.mp hj with hj | hj
      · exact h.own x hx j hj hid
      · rw [List.mem_singleton.mp hj] at hid
        exact absurd hid.symm (hwait x hx)
    · intro j hj
      have hj' : j ∈ (s.pc.toRun ++ s.cmdQ) ++ [new] := by
        rw [List.append_assoc]
        exact hj
      rcases List.mem_append.mp hj' with hj | hj
      · exact h.known j hj
      · rw [List.mem_singleton.mp hj]
        exact ⟨hcmd, hch⟩
    · intro j hj
      have hj' : j ∈ (s.pc.toRun ++ s.cmdQ) ++ [new] := by
        rw [List.append_assoc]
        exact hj
      rcases List.mem_append.mp hj' with hj | hj
      · exact h.live j hj
      · rw [List.mem_singleton.mp hj]
        exact hlive

theorem Inv.wait {k : Nat} {jobId : Int} (h : Inv s) (hres : s.results[k]? = some jobId)
    (hs : Sound s (.wait k)) : Inv (s.waitDefferedWork k jobId) := by
  unfold Hwi.waitDefferedWork
  split_ifs with hout hon
  · exact h
  · have hid : ((jobId.toNat : Nat) : Int) = jobId := by omega
    have hown : ∀ j ∈ pending s, j.id = jobId.toNat → j.serial = k := by
      intro j hj hj'
      refine hs j hj ?_
      rw [hres, hj', hid]
    refine h.withWaiters (fun x hx ha => ?_) fun x hx => ?_
    · rcases List.mem_append.mp hx with hx | hx
      · exact h.sleeping x hx ha
      · rw [List.mem_singleton.mp hx]
        obtain ⟨j, hj, hjid⟩ := (h.slots _).mp hon
        exact ⟨j, hj, hown j hj hjid, hjid⟩
    · rcases List.mem_append.mp hx with hx | hx
      · exact h.own x hx
      · rw [List.mem_singleton.mp hx]
        exact hown
  · exact h

theorem Inv.resume {i : Nat} {x : Waiter} (h : Inv s) (hx : s.waiters[i]? = some x) :
    Inv (s.resume i x) := by
  have hmem : x ∈ s.waiters := List.mem_of_getElem? hx
  unfold Hwi.resume
  split_ifs with hon
  · obtain ⟨j, hj, hid⟩ := (h.slots _).mp hon
    have htarget := h.own x hmem j hj hid
    refine h.withWaiters (fun y hy ha => ?_) fun y hy => ?_
    · rcases List.mem_or_eq_of_mem_set hy with hy | rfl
      · exact h.sleeping y hy ha
      · exact ⟨j, hj, htarget, hid⟩
    · rcases List.mem_or_eq_of_mem_set hy with hy | rfl
      · exact h.own y hy
      · exact h.own x hmem
  · refine h.withWaiters (fun y hy => ?_) fun y hy => ?_
    · exact h.sleeping y (List.mem_of_mem_eraseIdx hy)
    · exact h.own y (List.mem_of_mem_eraseIdx hy)

theorem mem_wake {i : Nat} {y : Waiter} (hy : y ∈ (s.wake i).waiters) :
    ∃ j x, s.waiters[j]? = some x ∧ y.target = x.target ∧ y.id = x.id ∧
      (y.asleep = true → x.asleep = true ∧ j ≠ i) := by
  obtain ⟨j, hj⟩ := List.getElem?_of_mem hy
  have hj' : (s.waiters.modify i fun w => { w with asleep := false })[j]? = some y := hj
  rw [List.getElem?_modify] at hj'
  obtain ⟨x, hx, hxy⟩ := Option.map_eq_some_iff.mp hj'
  by_cases hij : i = j
  · rw [if_pos hij] at hxy
    exact ⟨j, x, hx, by rw [← hxy], by rw [← hxy], fun ha => by rw [← hxy] at ha; cases ha⟩
  · rw [if_neg hij] at hxy
    refine ⟨j, x, hx, by rw [← hxy], by rw [← hxy], fun ha => ⟨?_, fun hji => hij hji.symm⟩⟩
    rw [← hxy] at ha
    exact ha

theorem Inv.wake (h : Inv s) (i : Nat) : Inv (s.wake i) := by
  refine h.withWaiters (fun y hy ha => ?_) fun y hy => ?_
  · obtain ⟨j, x, hx, htarget, hid, hasleep⟩ := mem_wake hy
    rw [htarget, hid]
    exact h.sleeping x (List.mem_of_getElem? hx) (hasleep ha).1
  · obtain ⟨j, x, hx, htarget, hid, _⟩ := mem_wake hy
    rw [htarget, hid]
    exact h.own x (List.mem_of_getElem? hx)

theorem Inv.finished {ws : List Waiter} (h : Inv s) (hpc : s.pc = .executed w)
    (hws : ∀ y ∈ ws, ∃ x ∈ s.waiters, y.target = x.target ∧ y.id = x.id ∧
      (y.asleep = true → x.asleep = true ∧ x.target ≠ w.serial)) :
    Inv { s.clear w with waiters := ws } := by
  have hp : pending s = w :: s.cmdQ := by
    unfold pending
    rw [hpc]
    rfl
  have hids := h.ids
  rw [hp, List.map_cons, List.nodup_cons] at hids
  have hrest : s.pc.toRun ++ s.cmdQ = s.cmdQ := by rw [hpc]; rfl
  have hknown := h.known
  have hlive := h.live
  rw [hrest] at hknown hlive
  let t : Hwi := { s.clear w with waiters := ws }
  have hpt : pending t = s.cmdQ := rfl
  show Inv t
  refine ⟨?_, h.ordered, h.below, ?_, ?_, hids.2, fun i => ?_, fun y hy ha => ?_, fun y hy j hj hid => ?_,
    hknown, hlive⟩
  · have hline := h.line
    rw [hp, List.map_cons, List.append_cons] at hline
    exact hline
  · show s.deleted ++ [w.serial] = s.freed ++ [w.serial]
    rw [h.deleted]
  · have hexec := h.executed
    rw [hpc] at hexec
    show s.executed = (s.freed ++ [w.serial]) ++ []
    rw [hexec, List.append_nil]
    rfl
  · rw [hpt]
    show Function.update s.ongoing w.id false i = true ↔ _
    by_cases hi : i = w.id
    · rw [hi, Function.update_self]
      refine ⟨fun hf => absurd hf (by decide), ?_⟩
      rintro ⟨j, hj, hid⟩
      exact absurd (List.mem_map.mpr ⟨j, hj, hid⟩) hids.1
    · rw [Function.update_of_ne hi, h.slots i, hp]
      constructor
      · rintro ⟨j, hj, hid⟩
        rcases List.mem_cons.mp hj with rfl | hj
        · exact absurd hid.symm hi
        · exact ⟨j, hj, hid⟩
      · rintro ⟨j, hj, hid⟩
        exact ⟨j, List.mem_cons_of_mem _ hj, hid⟩
  · obtain ⟨x, hx, htarget, hid, hasleep⟩ := hws y hy
    obtain ⟨hxa, hne⟩ := hasleep ha
    obtain ⟨j, hj, hserial, hjid⟩ := h.sleeping x hx hxa
    rw [hpt, htarget, hid]
    rw [hp] at hj
    rcases List.mem_cons.mp hj with rfl | hj
    · exact absurd hserial.symm hne
    · exact ⟨j, hj, hserial, hjid⟩
  · obtain ⟨x, hx, htarget, hyid, _⟩ := hws y hy
    rw [htarget]
    rw [hyid] at hid
    refine h.own x hx j ?_ hid
    rw [hp]
    exact List.mem_cons_of_mem _ hj

theorem Inv.broadcast (h : Inv s) (hpc : s.pc = .executed w) : Inv (s.clear w).broadcast := by
  refine h.finished hpc fun y hy => ?_
  obtain ⟨x, hx, rfl⟩ := List.mem_map.mp hy
  exact ⟨x, hx, rfl, rfl, fun ha => Bool.noConfusion ha⟩

theorem Inv.signal {woken : Option Nat} (h : Inv s) (hpc : s.pc = .executed w)
    (hs : ∀ i < s.waiters.length, ∀ x ∈ s.waiters[i]?, x.asleep = true → x.target = w.serial →
      woken = some i) (ht : (s.clear w).signal woken = some t) : Inv t := by
  have hmem {i : Nat} {x : Waiter} (hx : s.waiters[i]? = some x) (ha : x.asleep = true)
      (hw : x.target = w.serial) : woken = some i :=
    hs i (List.getElem?_eq_some_iff.mp hx).1 x hx ha hw
  cases woken with
  | none =>
    simp only [Hwi.signal] at ht
    split at ht
    · cases ht
    · obtain rfl := Option.some.inj ht
      refine h.finished hpc fun y hy => ⟨y, hy, rfl, rfl, fun ha => ⟨ha, fun hw => ?_⟩⟩
      obtain ⟨j, hj⟩ := List.getElem?_of_mem hy
      cases hmem hj ha hw
  | some i =>
    simp only [Hwi.signal] at ht
    split at ht
    · obtain rfl := Option.some.inj ht
      refine h.finished hpc fun y hy => ?_
      obtain ⟨j, x, hx, htarget, hid, hasleep⟩ := mem_wake hy
      refine ⟨x, List.mem_of_getElem? hx, htarget, hid, fun ha => ⟨(hasleep ha).1, fun hw => ?_⟩⟩
      have hij := Option.some.inj (hmem hx (hasleep ha).1 hw)
      exact (hasleep ha).2 hij.symm
    · cases ht

theorem Inv.finish {woken : Option Nat} (h : Inv s) (hpc : s.pc = .executed w)
    (hs : Sound s (.finish woken)) (ht : s.finish w woken = some t) : Inv t := by
  have hall := hs w (by rw [hpc]; exact List.mem_singleton_self w)
  unfold Hwi.finish at ht
  split at ht
  · obtain rfl := Option.some.inj ht
    exact h.broadcast hpc
  next hcmd => exact h.signal hpc (hall hcmd) ht

theorem Inv.execute (h : Inv s) (hpc : s.pc = .running w) : Inv (s.execute w) := by
  have hheld : [w] ++ s.cmdQ = pending s := by unfold pending; rw [hpc]; rfl
  have hmem : w ∈ s.pc.toRun ++ s.cmdQ := by rw [hpc]; exact List.mem_cons_self ..
  obtain ⟨hmax, halloc⟩ := h.known w hmem
  have hline := h.line
  have hids := h.ids
  have hslots := h.slots
  have hsleep := h.sleeping
  have hown := h.own
  rw [← hheld] at hline hids
  have hexec := h.executed
  rw [hpc] at hexec
  have hrest {P : DeffWork → Prop} (hP : ∀ j ∈ s.pc.toRun ++ s.cmdQ, P j) : ∀ j ∈ s.cmdQ, P j :=
    fun j hj => hP j (List.mem_append_right _ hj)
  have hdone : Inv { s with pc := .executed w, executed := s.executed ++ [w.serial] } := by
    let t : Hwi := { s with pc := .executed w, executed := s.executed ++ [w.serial] }
    have hpt : pending t = pending s := hheld
    show Inv t
    refine ⟨hline, h.ordered, h.below, h.deleted, ?_, hids, ?_, ?_, ?_, hrest h.known, hrest h.live⟩
    · show s.executed ++ [w.serial] = s.freed ++ [w.serial]
      rw [hexec]
      exact congrArg (· ++ [w.serial]) (List.append_nil _)
    · rw [hpt]
      exact hslots
    · rw [hpt]
      exact hsleep
    · rw [hpt]
      exact hown
  unfold Hwi.execute
  split
  next hcmd hch => exact absurd hch (halloc hcmd)
  · exact hdone
  · exact hdone
  next hcmd => exact absurd hcmd hmax

theorem Inv.getCmd (h : Inv s) (hpc : s.pc = .woken) : Inv s.getCmd := by
  unfold Hwi.getCmd
  dsimp only
  have hheld : ([] : List DeffWork) = s.pc.held := by rw [hpc]; rfl
  have hrun : ([] : List DeffWork) = s.pc.toRun := by rw [hpc]; rfl
  have hdone : ([] : List Nat) = s.pc.done := by rw [hpc]; rfl
  split
  · exact h.thread hheld hrun hdone
  · exact h.thread hheld hrun hdone
  · exact h.thread hheld hrun hdone
  · exact h.thread hheld hrun hdone
  · exact h.thread hheld hrun hdone

theorem Inv.dequeue (h : Inv s) (hpc : s.pc = .doNext) : Inv s.dequeue := by
  unfold Hwi.dequeue
  split
  · refine h.thread ?_ ?_ ?_
    · rw [hpc]
      rfl
    · rw [hpc]
      rfl
    · rw [hpc]
      rfl
  next w rest hq =>
    have hp : pending s = w :: rest := by
      unfold pending
      rw [hpc, hq]
      rfl
    have hrun : s.pc.toRun ++ s.cmdQ = w :: rest := by
      rw [hpc, hq]
      rfl
    have hexec := h.executed
    rw [hpc] at hexec
    let t : Hwi := { s with cmdQ := rest, pc := .running w }
    have hpt : pending t = pending s := hp.symm
    show Inv t
    refine ⟨?_, h.ordered, h.below, h.deleted, hexec, ?_, ?_, ?_, ?_, ?_, ?_⟩
    · rw [hpt]
      exact h.line
    · rw [hpt]
      exact h.ids
    · rw [hpt]
      exact h.slots
    · rw [hpt]
      exact h.sleeping
    · rw [hpt]
      exact h.own
    · have hknown := h.known
      rwa [hrun] at hknown
    · have hlive := h.live
      rwa [hrun] at hlive

theorem Inv.step {e : Event} (h : Inv s) (hs : Sound s e) (ht : step s e = some t) : Inv t := by
  cases e with
  | queue cmd ch node o =>
    obtain rfl := Option.some.inj ht
    exact h.queue hs
  | wait k =>
    simp only [DeferredWork.step] at ht
    split at ht
    next jobId hres =>
      obtain rfl := Option.some.inj ht
      exact h.wait hres hs
    · cases ht
  | resume i =>
    simp only [DeferredWork.step] at ht
    split at ht
    next x hx =>
      split at ht
      · cases ht
      · obtain rfl := Option.some.inj ht
        exact h.resume hx
    · cases ht
  | spurious i =>
    obtain rfl := Option.some.inj ht
    exact h.wake i
  | semWait =>
    simp only [DeferredWork.step] at ht
    split at ht
    next q hpc _ =>
      obtain rfl := Option.some.inj ht
      exact h.thread (by rw [hpc]; rfl) (by rw [hpc]; rfl) (by rw [hpc]; rfl)
    · cases ht
  | getCmd =>
    simp only [DeferredWork.step] at ht
    split at ht
    next hpc =>
      obtain rfl := Option.some.inj ht
      exact h.getCmd hpc
    · cases ht
  | dequeue =>
    simp only [DeferredWork.step] at ht
    split at ht
    next hpc =>
      obtain rfl := Option.some.inj ht
      exact h.dequeue hpc
    · cases ht
  | execute =>
    simp only [DeferredWork.step] at ht
    split at ht
    next w hpc =>
      obtain rfl := Option.some.inj ht
      exact h.execute hpc
    · cases ht
  | finish woken =>
    simp only [DeferredWork.step] at ht
    split at ht
    next w hpc => exact h.finish hpc hs ht
    · cases ht
  | deleteChannel c =>
    obtain rfl := Option.some.inj ht
    refine ⟨h.line, h.ordered, h.below, h.deleted, h.executed, h.ids, h.slots, h.sleeping, h.own,
      h.known, fun j hj d hd hmem => ?_⟩
    rcases List.mem_append.mp hmem with hmem | hmem
    · exact h.live j hj d hd hmem
    · rw [List.mem_singleton.mp hmem] at hd
      exact hs j hj hd

theorem Inv.init : Inv {} :=
  ⟨rfl, List.Pairwise.nil, fun _ hk => absurd hk List.not_mem_nil, rfl, rfl, List.nodup_nil,
    fun _ => ⟨fun hf => Bool.noConfusion hf, fun ⟨_, hj, _⟩ => absurd hj List.not_mem_nil⟩,
    fun _ hx => absurd hx List.not_mem_nil, fun _ hx => absurd hx List.not_mem_nil,
    fun _ hj => absurd hj List.not_mem_nil, fun _ hj => absurd hj List.not_mem_nil⟩

/-- The deferred work is orderly along every run whose steps meet the condition. -/
theorem jobs_complete {es : List Event} {s : Hwi} (hrun : Runs.play step {} es = some s)
    (hsound : Runs.Along step Sound {} es) : Orderly s :=
  (Runs.play_invariant (fun _ _ _ hi hs ht => Inv.step hi hs ht) Inv.init hsound hrun).orderly

def takeUp : List Event := [.semWait, .getCmd, .dequeue, .execute]

/-- An allocation with one waiter, then the post-processor with two, under the id given back. -/
theorem jobs_complete_two : ∃ s, Runs.play step {} ([.semWait, .getCmd,
      .queue .allocateBuff (some 7) true .sent, .wait 0] ++ takeUp ++ [.finish (some 0), .resume 0,
      .queue .pprocStart (some 7) true .sent, .wait 1, .wait 1] ++ takeUp ++ [.finish none]) = some s ∧
    s.freed = [0, 1] ∧ Orderly s := by
  obtain ⟨s, hrun, hfreed⟩ := Option.map_eq_some_iff.mp (show (Runs.play step {} ([Event.semWait,
      .getCmd, .queue .allocateBuff (some 7) true .sent, .wait 0] ++ takeUp ++
      [Event.finish (some 0), .resume 0, .queue .pprocStart (some 7) true .sent, .wait 1, .wait 1] ++
      takeUp ++ [Event.finish none])).map
      (·.freed) = some [0, 1] from rfl)
  exact ⟨s, hrun, hfreed, jobs_complete hrun (by decide +kernel)⟩

/-- Two allocations with a waiter each: the signal of the first wakes the waiter of the second. -/
theorem wrong_waiter_woken :
    ¬∀ (es : List Event) (s : Hwi), Runs.play step {} es = some s → Orderly s := by
  intro h
  obtain ⟨s, hrun, hend⟩ := Option.map_eq_some_iff.mp (show (Runs.play step {}
      ([Event.semWait, .getCmd, .queue .allocateBuff (some 7) true .sent,
        .queue .allocateBuff (some 7) true .sent, .wait 0, .wait 1] ++ takeUp ++
        [Event.finish (some 1)])).map (fun s => (s.waiters, (pending s).map (·.serial))) =
      some ([⟨0, 0, true⟩, ⟨1, 1, false⟩], [1]) from rfl)
  obtain ⟨hwaiters, hpending⟩ := Prod.mk.inj hend
  have hleft := (h _ s hrun).woken ⟨0, 0, true⟩ (by simp [hwaiters]) rfl
  rw [Pending, hpending] at hleft
  exact absurd hleft (by decide)

end Wt88047.DeferredWork
