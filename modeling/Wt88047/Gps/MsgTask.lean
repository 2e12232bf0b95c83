import Wt88047.Gps.LocThreadLifetime
import Mathlib.Data.List.Perm.Basic
import Mathlib.Data.List.Range

/-! `MsgTask`: a message queue that any number of threads feed, and the `LocThread` that serves it. A task is
taken from the creation of its thread on, with its queue allocated; the messages are numbered in the order in
which `sendMsg` is called. -/

namespace Wt88047.MsgTask

open LocThread (Delegate ClientPc ThreadPc)

/-- The elements of a `linked_list`, from `p_head` on. -/
abbrev LinkedList := List Nat

def linkedListAdd (l : LinkedList) (obj : Nat) : LinkedList := obj :: l

def linkedListRemove (l : LinkedList) : Option (Nat × LinkedList) :=
  l.getLast?.map fun obj => (obj, l.dropLast)

structure MsgQ where
  msgList : LinkedList := []
  unblocked : Bool := false
  deriving DecidableEq

/-- Where the thread is in `run`; `asleep` is in the wait of `msg_q_rcv` and `woken` has been signalled. -/
inductive RunPc
  | receive | asleep | woken
  | process (msg : Nat)
  | delete (msg : Nat)
  deriving DecidableEq

def RunPc.signal : RunPc → RunPc
  | .asleep => .woken
  | pc => pc

/-- Where the task's owner is: in the constructor, between calls, or in `destroy`. -/
inductive OwnerPc
  | making | idle | unblock | release | releasing | done
  deriving DecidableEq

/-- `calls` are the messages of the `sendMsg` calls that have not come to the queue yet, `entered` those that
the queue has taken; `gone` is that the task is deleted. -/
structure World where
  delegate : Delegate
  owner : OwnerPc := .making
  mQ : MsgQ := {}
  run : RunPc := .receive
  sent : Nat := 0
  calls : List Nat := []
  entered : List Nat := []
  processed : List Nat := []
  deleted : List Nat := []
  gone : Bool := false
  deriving DecidableEq

namespace World

def make (joinable spawned : Bool) : World := { delegate := .make joinable spawned }

/-- `msg_q_snd`; `node` is whether the list element can be allocated. `sendMsg` drops the result. -/
def msgQSnd (node : Bool) (msg : Nat) (w : World) : World :=
  if w.mQ.unblocked then w
  else if node then
    { w with
      mQ := { w.mQ with msgList := linkedListAdd w.mQ.msgList msg }, entered := w.entered ++ [msg],
      run := w.run.signal }
  else { w with run := w.run.signal }

def msgQUnblock (w : World) : World :=
  if w.mQ.unblocked then w else { w with mQ := { w.mQ with unblocked := true }, run := w.run.signal }

/-- `~MsgTask`: `msg_q_flush` deletes what is in the queue. -/
def delete (w : World) : World :=
  { w with mQ := { w.mQ with msgList := [] }, deleted := w.deleted ++ w.mQ.msgList, gone := true }

def returns (more : Bool) (w : World) : Option World :=
  (w.delegate.threadStep more).map fun d => { w with delegate := d, run := .receive }

/-- The loop of `msg_q_rcv` and what follows it. -/
def msgQWait (w : World) : Option World :=
  match linkedListRemove w.mQ.msgList with
  | some (msg, rest) => some { w with mQ := { w.mQ with msgList := rest }, run := .process msg }
  | none => if w.mQ.unblocked then w.returns false else some { w with run := .asleep }

def runStep (w : World) : Option World :=
  match w.run with
  | .receive => if w.mQ.unblocked then w.returns false else w.msgQWait
  | .asleep => none
  | .woken => w.msgQWait
  | .process msg => some { w with processed := w.processed ++ [msg], run := .delete msg }
  | .delete msg => { w with deleted := w.deleted ++ [msg] }.returns true

def threadStep (w : World) : Option World :=
  match w.delegate.thread with
  | .run => w.runStep
  | .deleteRunnable => (w.delegate.threadStep true).map fun d => { w.delete with delegate := d }
  | _ => (w.delegate.threadStep true).map fun d => { w with delegate := d }

def ownerStep (w : World) : Option World :=
  match w.owner with
  | .making =>
    w.delegate.clientStep.map fun d =>
      { w with delegate := d, owner := if d.client = .held ∨ d.client = .gone then .idle else .making }
  | .idle => none
  | .unblock => some { w.msgQUnblock with owner := .release }
  | .release =>
    if w.delegate.client = .held then
      some { w with delegate := { w.delegate with client := .bye }, owner := .releasing }
    else some { w.delete with owner := .done }
  | .releasing =>
    w.delegate.clientStep.map fun d =>
      { w with delegate := d, owner := if d.client = .gone then .done else .releasing }
  | .done => none

end World

/-- `send` calls `sendMsg` and `enter` is the locked section of one of the calls. -/
inductive Event
  | send
  | enter (i : Nat) (node : Bool)
  | destroy
  | owner
  | thread
  | wake

def step (w : World) : Event → Option World
  | .send =>
    if w.owner = .making ∨ w.gone then none
    else some { w with sent := w.sent + 1, calls := w.calls ++ [w.sent] }
  | .enter i node =>
    if w.gone then none
    else w.calls[i]?.map fun msg => { w with calls := w.calls.eraseIdx i }.msgQSnd node msg
  | .destroy => if w.owner = .idle then some { w with owner := .unblock } else none
  | .owner => w.ownerStep
  | .thread => w.threadStep
  | .wake => some { w with run := w.run.signal }

/-- A message comes to the queue before it is unblocked, its element can be allocated, and the owner does not
stop the thread before it has read its runnable. -/
def Sound (w : World) : Event → Prop
  | .enter _ node => w.mQ.unblocked = false ∧ node = true
  | .owner => w.delegate.client = .clearRunnable → w.delegate.thread ≠ .begin
  | _ => True

instance (w : World) : ∀ e, Decidable (Sound w e)
  | .enter _ node => inferInstanceAs (Decidable (w.mQ.unblocked = false ∧ node = true))
  | .owner => inferInstanceAs (Decidable (w.delegate.client = .clearRunnable → w.delegate.thread ≠ .begin))
  | .send | .destroy | .thread | .wake => isTrue trivial

def RunPc.hand : RunPc → List Nat
  | .process msg | .delete msg => [msg]
  | _ => []

structure Handled (w : World) : Prop where
  once : w.processed.Nodup
  inOrder : w.processed <+: w.entered
  places : (w.calls ++ w.mQ.msgList ++ w.run.hand ++ w.deleted).Perm (List.range w.sent)
  deleted : w.gone = true → w.calls = [] → w.deleted.Perm (List.range w.sent)
  freed : w.owner = .done → w.delegate.thread = .ended ∨ w.delegate.thread = .unborn → w.gone = true
  returns : w.mQ = ⟨[], true⟩ → w.delegate.thread = .run → w.run.hand = [] →
    ∃ w', step w .thread = some w' ∧ w'.delegate.thread = .postrun
  ends : w.mQ.unblocked = true → w.delegate.thread ≠ .unborn →
    ∃ n w', Runs.play step w (List.replicate n .thread) = some w' ∧ w'.delegate.thread = .ended

/-! What every step of the senders, the owner and the message thread keeps, and the messages' fate on all runs. -/

variable {w w' : World}

def RunPc.pending : RunPc → List Nat
  | .process msg => [msg]
  | _ => []

@[simp] theorem RunPc.signal_hand (pc : RunPc) : pc.signal.hand = pc.hand := by cases pc <;> rfl

@[simp] theorem RunPc.signal_pending (pc : RunPc) : pc.signal.pending = pc.pending := by cases pc <;> rfl

@[simp] theorem RunPc.signal_ne (pc : RunPc) : pc.signal ≠ .asleep := by cases pc <;> simp [RunPc.signal]

def Phase (d : Delegate) (unblocked : Bool) : OwnerPc → Prop
  | .making =>
    unblocked = false ∧ (if d.spawned then d.client = .created ∨ d.client = .check
      else d.client = .check ∨ d.client.releases = true ∧ d.client ≠ .gone)
  | .idle | .unblock => unblocked = false ∧ d.client = if d.spawned then .held else .gone
  | .release => unblocked = true ∧ d.client = if d.spawned then .held else .gone
  | .releasing => unblocked = true ∧ d.spawned = true ∧ d.client ≠ .created ∧ d.client ≠ .check ∧ d.client ≠ .held
  | .done => unblocked = true ∧ d.client = .gone

structure Inv (w : World) : Prop where
  delegate : w.delegate.Inv
  phase : Phase w.delegate w.mQ.unblocked w.owner
  working : w.mQ.unblocked = false → w.delegate.spawned = true →
    w.delegate.mRunnable = true ∧ (w.delegate.thread = .begin ∨ w.delegate.thread = .prerun ∨
      w.delegate.thread = .loop ∨ w.delegate.thread = .run)
  outside : w.delegate.thread ≠ .run → w.run = .receive
  asleep : w.run = .asleep → w.mQ = ⟨[], false⟩
  gone : w.gone = true ↔ w.delegate.thread.released = true ∨ w.delegate.spawned = false ∧ w.owner = .done
  empty : w.gone = true → w.mQ.msgList = []
  taken : (w.calls ++ w.entered).Perm (List.range w.sent)
  placed : (w.mQ.msgList ++ w.run.hand ++ w.deleted).Perm w.entered
  order : w.processed ++ w.run.pending ++ w.mQ.msgList.reverse <+: w.entered
  waiting : w.gone = false → w.processed ++ w.run.pending ++ w.mQ.msgList.reverse = w.entered

theorem make_inv (joinable spawned : Bool) : Inv (.make joinable spawned) := by
  have hd := LocThread.Delegate.make_inv joinable spawned
  cases spawned
  all_goals
    constructor <;> simp_all [World.make, Delegate.make, Phase, RunPc.hand, RunPc.pending, ThreadPc.released]

variable {d d' : Delegate}

theorem clientStep_frame (hd : d.clientStep = some d') :
    d'.thread = d.thread ∧ d'.spawned = d.spawned := by
  cases hc : d.client with
  | join =>
    simp only [Delegate.clientStep, hc, Option.ite_none_right_eq_some, Option.some.injEq] at hd
    obtain ⟨-, rfl⟩ := hd
    exact ⟨rfl, rfl⟩
  | _ =>
    simp only [Delegate.clientStep, hc, Option.some.injEq, reduceCtorEq] at hd
    all_goals
      subst hd
      exact ⟨rfl, rfl⟩

theorem threadStep_frame {more : Bool} (hd : d.threadStep more = some d') :
    d'.client = d.client ∧ d'.spawned = d.spawned := by
  cases hc : d.thread with
  | _ =>
    simp only [Delegate.threadStep, hc, Option.some.injEq, reduceCtorEq] at hd
    all_goals
      subst hd
      exact ⟨rfl, rfl⟩

theorem Inv.send (h : Inv w) (hw : step w .send = some w') : Inv w' := by
  simp only [step, Option.ite_none_left_eq_some, Option.some.injEq] at hw
  obtain ⟨-, rfl⟩ := hw
  refine ⟨h.delegate, h.phase, h.working, h.outside, h.asleep, h.gone, h.empty, ?_, h.placed, h.order, h.waiting⟩
  rw [List.range_succ, List.append_assoc]
  calc (w.calls ++ ([w.sent] ++ w.entered)).Perm (w.calls ++ (w.entered ++ [w.sent])) :=
        List.Perm.append_left _ List.perm_append_comm
    _ = w.calls ++ w.entered ++ [w.sent] := (List.append_assoc ..).symm
    _ |>.Perm (List.range w.sent ++ [w.sent]) := h.taken.append_right _

theorem Inv.enter (h : Inv w) {i : Nat} {node : Bool} (hs : Sound w (.enter i node))
    (hw : step w (.enter i node) = some w') : Inv w' := by
  obtain ⟨hun, rfl⟩ := hs
  simp only [step, Option.ite_none_left_eq_some, Option.map_eq_some_iff] at hw
  obtain ⟨hgone, msg, hmsg, rfl⟩ := hw
  simp only [Bool.not_eq_true] at hgone
  have hi : i < w.calls.length := (List.getElem?_eq_some_iff.mp hmsg).1
  have hperm : (msg :: w.calls.eraseIdx i).Perm w.calls := by
    obtain ⟨hi, rfl⟩ := List.getElem?_eq_some_iff.mp hmsg
    exact List.getElem_cons_eraseIdx_perm hi
  simp only [World.msgQSnd, hun, Bool.false_eq_true, if_false, if_true]
  refine ⟨h.delegate, ?_, ?_, ?_, ?_, h.gone, ?_, ?_, ?_, ?_, ?_⟩
  · simpa [hun] using h.phase
  · exact fun _ => h.working hun
  · intro hne
    simp [h.outside hne, RunPc.signal]
  · intro ha
    exact absurd ha (RunPc.signal_ne _)
  · intro hg
    simp [hgone] at hg
  · calc (w.calls.eraseIdx i ++ (w.entered ++ [msg])).Perm (w.calls.eraseIdx i ++ (msg :: w.entered)) :=
          List.Perm.append_left _ (List.perm_append_singleton ..)
      _ |>.Perm (msg :: w.calls.eraseIdx i ++ w.entered) := List.perm_middle
      _ |>.Perm (w.calls ++ w.entered) := hperm.append_right _
      _ |>.Perm (List.range w.sent) := h.taken
  · rw [RunPc.signal_hand]
    exact (h.placed.cons msg).trans (List.perm_append_singleton ..).symm
  · rw [RunPc.signal_pending, ← h.waiting hgone]
    simp [linkedListAdd]
  · intro _
    rw [RunPc.signal_pending, ← h.waiting hgone]
    simp [linkedListAdd]

theorem Inv.destroy (h : Inv w) (hw : step w .destroy = some w') : Inv w' := by
  simp only [step, Option.ite_none_right_eq_some, Option.some.injEq] at hw
  obtain ⟨ho, rfl⟩ := hw
  have hp := h.phase
  have hg := h.gone
  rw [ho] at hp hg
  refine ⟨h.delegate, hp, h.working, h.outside, h.asleep, ?_, h.empty, h.taken, h.placed, h.order, h.waiting⟩
  simpa using hg

theorem Inv.wake (h : Inv w) (hw : step w .wake = some w') : Inv w' := by
  obtain rfl := Option.some.inj hw
  refine ⟨h.delegate, h.phase, h.working, ?_, ?_, h.gone, h.empty, h.taken, ?_, ?_, ?_⟩
  · intro hne
    simp [h.outside hne, RunPc.signal]
  · intro ha
    exact absurd ha (RunPc.signal_ne _)
  · simpa using h.placed
  · simpa using h.order
  · simpa using h.waiting

theorem Inv.unblock (h : Inv w) (ho : w.owner = .unblock) :
    Inv { w.msgQUnblock with owner := .release } := by
  have hp := h.phase
  rw [ho] at hp
  have hg := h.gone
  simp only [World.msgQUnblock, hp.1, Bool.false_eq_true, if_false]
  refine ⟨h.delegate, ⟨rfl, hp.2⟩, ?_, ?_, ?_, ?_, h.empty, h.taken, ?_, ?_, ?_⟩
  · intro hun
    cases hun
  · intro hne
    simp [h.outside hne, RunPc.signal]
  · intro ha
    exact absurd ha (RunPc.signal_ne _)
  · rw [ho] at hg
    simpa using hg
  · simpa using h.placed
  · simpa using h.order
  · simpa using h.waiting

theorem Inv.delete (h : Inv w) (hrun : w.run = .receive) :
    (w.delete.calls ++ w.delete.entered).Perm (List.range w.delete.sent) ∧
      (w.delete.mQ.msgList ++ w.delete.run.hand ++ w.delete.deleted).Perm w.delete.entered ∧
      w.delete.processed ++ w.delete.run.pending ++ w.delete.mQ.msgList.reverse <+: w.delete.entered := by
  have hplaced := h.placed
  have horder := h.order
  simp only [hrun, RunPc.hand, RunPc.pending, List.append_nil] at hplaced horder
  simp only [World.delete, hrun, RunPc.hand, RunPc.pending, List.append_nil, List.nil_append, List.reverse_nil]
  refine ⟨h.taken, ?_, ?_⟩
  · exact List.perm_append_comm.trans hplaced
  · exact (List.prefix_append ..).trans horder

theorem making_step (hp : Phase d false .making) (hmade : d.mRunnable = d.spawned)
    (hd : d.clientStep = some d') :
    d'.mRunnable = d.mRunnable ∧
      Phase d' false (if d'.client = .held ∨ d'.client = .gone then .idle else .making) := by
  obtain ⟨-, hclient⟩ := hp
  cases hsp : d.spawned with
  | true =>
    rw [hsp] at hclient hmade
    rcases hclient with hc | hc
    all_goals
      simp only [Delegate.clientStep, hc, Option.some.injEq] at hd
      subst hd
      simp [Phase, Delegate.touch, hsp, hmade]
  | false =>
    rw [hsp] at hclient hmade
    cases hc : d.client with
    | check =>
      simp only [Delegate.clientStep, hc, Option.some.injEq] at hd
      subst hd
      simp [Phase, Delegate.touch, hsp, hmade, ClientPc.releases]
    | destroy =>
      simp only [Delegate.clientStep, hc, Option.some.injEq] at hd
      subst hd
      by_cases hpos : 0 < d.mRefCount
      all_goals simp [Phase, Delegate.touch, hsp, ClientPc.releases, hpos]
    | locked =>
      simp only [Delegate.clientStep, hc, Option.some.injEq] at hd
      subst hd
      by_cases hone : d.mRefCount = 1
      all_goals simp [Phase, Delegate.touch, hsp, ClientPc.releases, hone]
    | deleting =>
      simp only [Delegate.clientStep, hc, Option.some.injEq] at hd
      subst hd
      simp [Phase, hsp]
    | _ => simp [hc, ClientPc.releases] at hclient

theorem releasing_step (hp : Phase d true .releasing) (hd : d.clientStep = some d') :
    Phase d' true (if d'.client = .gone then .done else .releasing) := by
  obtain ⟨-, hsp, hcreated, hcheck, hheld⟩ := hp
  have hsp' := (clientStep_frame hd).2.trans hsp
  have hclient : d'.client ≠ .created ∧ d'.client ≠ .check ∧ d'.client ≠ .held := by
    cases hc : d.client with
    | join =>
      simp only [Delegate.clientStep, hc, Option.ite_none_right_eq_some, Option.some.injEq] at hd
      obtain ⟨-, rfl⟩ := hd
      simp
    | created => exact absurd hc hcreated
    | check => exact absurd hc hcheck
    | held => exact absurd hc hheld
    | _ =>
      simp only [Delegate.clientStep, hc, Option.some.injEq, reduceCtorEq] at hd
      all_goals
        subst hd
        refine ⟨?_, ?_, ?_⟩ <;> dsimp only <;> (try split) <;> simp
  by_cases hgone : d'.client = .gone
  · rw [if_pos hgone]
    exact ⟨rfl, hgone⟩
  · rw [if_neg hgone]
    exact ⟨rfl, hsp', hclient⟩

theorem Inv.owner (h : Inv w) (hs : Sound w .owner) (hw : step w .owner = some w') : Inv w' := by
  have hp := h.phase
  have hg := h.gone
  simp only [step, World.ownerStep] at hw
  cases ho : w.owner with
  | idle => simp [ho] at hw
  | done => simp [ho] at hw
  | unblock =>
    simp only [ho, Option.some.injEq] at hw
    exact hw ▸ h.unblock ho
  | making =>
    rw [ho] at hw hp hg
    simp only [Option.map_eq_some_iff] at hw
    obtain ⟨d, hd, rfl⟩ := hw
    obtain ⟨hth, hsp⟩ := clientStep_frame hd
    have hun := hp.1
    rw [hun] at hp
    have hmade : w.delegate.mRunnable = w.delegate.spawned := by
      cases hsp : w.delegate.spawned with
      | true => exact (h.working hun hsp).1
      | false => exact h.delegate.unmade hsp
    obtain ⟨hmr, hphase⟩ := making_step hp hmade hd
    have hsound : w.delegate.Sound := ⟨fun _ hsp => hmade.trans hsp, hs⟩
    refine ⟨h.delegate.clientStep hsound hd, ?_, ?_, ?_, h.asleep, ?_, h.empty, h.taken, h.placed, h.order, h.waiting⟩
    · rw [hun]
      exact hphase
    · rw [hmr, hth, hsp]
      exact h.working
    · rw [hth]
      exact h.outside
    · rw [hth, hsp]
      refine hg.trans (or_congr_right (and_congr_right fun _ => ?_))
      split <;> simp
  | release =>
    rw [ho] at hw hp hg
    obtain ⟨hun, hclient⟩ := hp
    simp only at hw
    cases hsp : w.delegate.spawned with
    | true =>
      rw [hsp] at hclient
      have hclient : w.delegate.client = .held := hclient
      rw [if_pos hclient] at hw
      obtain rfl := Option.some.inj hw
      refine ⟨h.delegate.call hclient (.inr rfl), ⟨hun, hsp, ?_⟩, h.working, h.outside, h.asleep, ?_, h.empty,
        h.taken, h.placed, h.order, h.waiting⟩
      · simp
      · simpa using hg
    | false =>
      rw [hsp] at hclient
      have hclient : w.delegate.client = .gone := hclient
      rw [if_neg (by rw [hclient]; simp)] at hw
      obtain rfl := Option.some.inj hw
      have hth := h.delegate.unborn.mpr hsp
      have hrun := h.outside (by rw [hth]; simp)
      obtain ⟨htaken, hplaced, horder⟩ := h.delete hrun
      refine ⟨h.delegate, ⟨hun, hclient⟩, h.working, h.outside, ?_, ?_, fun _ => rfl, htaken, hplaced, horder, ?_⟩
      · intro ha
        simp [World.delete, hrun] at ha
      · exact ⟨fun _ => .inr ⟨hsp, rfl⟩, fun _ => rfl⟩
      · intro hno
        cases hno
  | releasing =>
    rw [ho] at hw hp hg
    simp only [Option.map_eq_some_iff] at hw
    obtain ⟨d, hd, rfl⟩ := hw
    obtain ⟨hth, hsp⟩ := clientStep_frame hd
    have hun := hp.1
    have hspawned := hp.2.1
    rw [hun] at hp
    have hsound : w.delegate.Sound := ⟨fun hc => absurd hc hp.2.2.2.1, hs⟩
    refine ⟨h.delegate.clientStep hsound hd, ?_, ?_, ?_, h.asleep, ?_, h.empty, h.taken, h.placed, h.order, h.waiting⟩
    · rw [hun]
      exact releasing_step hp hd
    · intro hno
      simp [hun] at hno
    · rw [hth]
      exact h.outside
    · rw [hth, hsp, hspawned]
      simpa [hspawned] using hg

theorem linkedListRemove_eq_some {l rest : LinkedList} {msg : Nat} :
    linkedListRemove l = some (msg, rest) ↔ l = rest ++ [msg] := by
  simp only [linkedListRemove, Option.map_eq_some_iff, Prod.mk.injEq]
  constructor
  · rintro ⟨obj, hlast, rfl, rfl⟩
    exact (List.dropLast_append_getLast? _ hlast).symm
  · rintro rfl
    exact ⟨msg, by simp, rfl, by simp⟩

theorem linkedListRemove_eq_none {l : LinkedList} : linkedListRemove l = none ↔ l = [] := by
  simp [linkedListRemove]

theorem Inv.returns (h : Inv w) {more : Bool} (hth : w.delegate.thread = .run) (hhand : w.run.hand = [])
    (hmore : w.mQ.unblocked = false → more = true) (hw : w.returns more = some w') : Inv w' := by
  simp only [World.returns, Option.map_eq_some_iff] at hw
  obtain ⟨d, hd, rfl⟩ := hw
  have hinv := h.delegate.threadStep hd
  have hg := h.gone
  have hpending : w.run.pending = [] := by
    cases hr : w.run <;> simp_all [RunPc.hand, RunPc.pending]
  have hplaced := h.placed
  have horder := h.order
  have hwaiting := h.waiting
  rw [hhand] at hplaced
  rw [hpending] at horder hwaiting
  simp only [Delegate.threadStep, hth, Option.some.injEq] at hd
  subst hd
  refine ⟨hinv, ?_, ?_, fun _ => rfl, ?_, ?_, h.empty, h.taken, hplaced, horder, hwaiting⟩
  · have hp := h.phase
    cases ho : w.owner
    all_goals
      rw [ho] at hp
      exact hp
  · intro hun hsp
    have hwork := h.working hun hsp
    simp [hwork.1, hmore hun]
  · intro ha
    cases ha
  · rw [hth] at hg
    refine hg.trans (or_congr_left ?_)
    cases more <;> simp [ThreadPc.released]

theorem Inv.wait (h : Inv w) (hth : w.delegate.thread = .run) (hrun : w.run = .receive ∨ w.run = .woken)
    (hw : w.msgQWait = some w') : Inv w' := by
  have hhand : w.run.hand = [] := by
    rcases hrun with hr | hr <;> rw [hr] <;> rfl
  have hpending : w.run.pending = [] := by
    rcases hrun with hr | hr <;> rw [hr] <;> rfl
  have hplaced := h.placed
  have horder := h.order
  have hwaiting := h.waiting
  rw [hhand] at hplaced
  rw [hpending] at horder hwaiting
  unfold World.msgQWait at hw
  cases hremove : linkedListRemove w.mQ.msgList with
  | some taken =>
    obtain ⟨msg, rest⟩ := taken
    rw [hremove] at hw
    obtain rfl := Option.some.inj hw
    have hl := linkedListRemove_eq_some.mp hremove
    rw [hl] at hplaced horder hwaiting
    refine ⟨h.delegate, h.phase, h.working, ?_, ?_, h.gone, ?_, h.taken, ?_, ?_, ?_⟩
    · intro hne
      exact absurd hth hne
    · intro ha
      cases ha
    · intro hg
      simp [h.empty hg] at hl
    · simpa [RunPc.hand] using hplaced
    · simpa [RunPc.pending] using horder
    · simpa [RunPc.pending] using hwaiting
  | none =>
    have hl := linkedListRemove_eq_none.mp hremove
    rw [hremove] at hw
    cases hun : w.mQ.unblocked with
    | true =>
      simp only [hun, if_true] at hw
      exact h.returns hth hhand (by simp [hun]) hw
    | false =>
      simp only [hun, Bool.false_eq_true, if_false] at hw
      obtain rfl := Option.some.inj hw
      refine ⟨h.delegate, h.phase, h.working, ?_, ?_, h.gone, h.empty, h.taken, ?_, ?_, ?_⟩
      · intro hne
        exact absurd hth hne
      · intro _
        rw [← hl, ← hun]
      · simpa [RunPc.hand] using hplaced
      · simpa [RunPc.pending] using horder
      · simpa [RunPc.pending] using hwaiting

theorem Inv.runStep (h : Inv w) (hth : w.delegate.thread = .run) (hw : w.runStep = some w') : Inv w' := by
  unfold World.runStep at hw
  cases hr : w.run with
  | receive =>
    rw [hr] at hw
    cases hun : w.mQ.unblocked with
    | true =>
      simp only [hun, if_true] at hw
      exact h.returns hth (by rw [hr]; rfl) (by simp [hun]) hw
    | false =>
      simp only [hun, Bool.false_eq_true, if_false] at hw
      exact h.wait hth (.inl hr) hw
  | asleep => simp [hr] at hw
  | woken =>
    rw [hr] at hw
    exact h.wait hth (.inr hr) hw
  | process msg =>
    rw [hr] at hw
    obtain rfl := Option.some.inj hw
    have hplaced := h.placed
    have horder := h.order
    have hwaiting := h.waiting
    rw [hr] at hplaced horder hwaiting
    refine ⟨h.delegate, h.phase, h.working, ?_, ?_, h.gone, h.empty, h.taken, hplaced, ?_, ?_⟩
    · intro hne
      exact absurd hth hne
    · intro ha
      cases ha
    · simpa [RunPc.pending] using horder
    · simpa [RunPc.pending] using hwaiting
  | delete msg =>
    rw [hr] at hw
    have hplaced := h.placed
    rw [hr] at hplaced
    have hinv : Inv { w with deleted := w.deleted ++ [msg], run := .receive } := by
      have horder := h.order
      have hwaiting := h.waiting
      rw [hr] at horder hwaiting
      refine ⟨h.delegate, h.phase, h.working, fun _ => rfl, ?_, h.gone, h.empty, h.taken, ?_, horder, hwaiting⟩
      · intro ha
        cases ha
      · refine List.Perm.trans ?_ hplaced
        simp only [RunPc.hand, List.append_nil, List.append_assoc]
        exact List.Perm.append_left _ List.perm_append_comm
    exact hinv.returns hth rfl (fun _ => rfl) hw

theorem mainStep {more : Bool} (hinv : d.Inv) (hrun : d.thread ≠ .run)
    (hdel : d.thread ≠ .deleteRunnable) (hd : d.threadStep more = some d') :
    d'.thread.released = d.thread.released ∧
      (d.mRunnable = true ∧ (d.thread = .begin ∨ d.thread = .prerun ∨ d.thread = .loop ∨ d.thread = .run) →
        d'.mRunnable = true ∧
          (d'.thread = .begin ∨ d'.thread = .prerun ∨ d'.thread = .loop ∨ d'.thread = .run)) := by
  cases hth : d.thread with
  | run => exact absurd hth hrun
  | deleteRunnable => exact absurd hth hdel
  | begin =>
    simp only [Delegate.threadStep, hth, if_pos (hinv.begun hth), Option.some.injEq] at hd
    subst hd
    simp [ThreadPc.released, Delegate.touch]
  | loop =>
    simp only [Delegate.threadStep, hth, Option.some.injEq] at hd
    subst hd
    cases hr : d.mRunnable
    all_goals simp [ThreadPc.released, Delegate.touch, hr]
  | destroy =>
    simp only [Delegate.threadStep, hth, Option.some.injEq] at hd
    subst hd
    by_cases hpos : 0 < d.mRefCount
    all_goals simp [ThreadPc.released, hpos]
  | locked =>
    simp only [Delegate.threadStep, hth, Option.some.injEq] at hd
    subst hd
    by_cases hone : d.mRefCount = 1
    all_goals simp [ThreadPc.released, hone]
  | _ =>
    simp only [Delegate.threadStep, hth, Option.some.injEq, reduceCtorEq] at hd
    all_goals
      subst hd
      simp [ThreadPc.released, Delegate.touch]

theorem Phase.of_frame {b : Bool} {o : OwnerPc} (hp : Phase d b o)
    (hd : d'.client = d.client ∧ d'.spawned = d.spawned) : Phase d' b o := by
  cases o
  all_goals
    simp only [Phase, hd.1, hd.2] at hp ⊢
    exact hp

theorem Inv.main (h : Inv w) (hrun : w.delegate.thread ≠ .run)
    (hdel : w.delegate.thread ≠ .deleteRunnable) (hd : w.delegate.threadStep true = some d) :
    Inv { w with delegate := d } := by
  obtain ⟨hreleased, hwork⟩ := mainStep h.delegate hrun hdel hd
  have hframe := threadStep_frame hd
  refine ⟨h.delegate.threadStep hd, h.phase.of_frame hframe, ?_, fun _ => h.outside hrun, h.asleep, ?_, h.empty,
    h.taken, h.placed, h.order, h.waiting⟩
  · intro hun hsp
    exact hwork (h.working hun (hframe.2 ▸ hsp))
  · rw [hreleased, hframe.2]
    exact h.gone

theorem Inv.deleteRunnable (h : Inv w) (hth : w.delegate.thread = .deleteRunnable)
    (hd : w.delegate.threadStep true = some d) : Inv { w.delete with delegate := d } := by
  have hframe := threadStep_frame hd
  have hinv := h.delegate.threadStep hd
  have hrun := h.outside (by rw [hth]; simp)
  obtain ⟨htaken, hplaced, horder⟩ := h.delete hrun
  have hspawned : w.delegate.spawned = true := by
    cases hsp : w.delegate.spawned with
    | true => rfl
    | false =>
      have hun := h.delegate.unborn.mpr hsp
      rw [hth] at hun
      cases hun
  simp only [Delegate.threadStep, hth, Option.some.injEq] at hd
  have hreleased : d.thread.released = true := by
    subst hd
    rfl
  refine ⟨hinv, h.phase.of_frame hframe, ?_, fun _ => hrun, ?_, ?_, fun _ => rfl, htaken, hplaced, horder, ?_⟩
  · intro hun _
    have hwork := (h.working hun hspawned).2
    simp [hth] at hwork
  · intro ha
    simp [World.delete, hrun] at ha
  · exact ⟨fun _ => .inl hreleased, fun _ => rfl⟩
  · intro hno
    cases hno

theorem Inv.thread (h : Inv w) (hw : step w .thread = some w') : Inv w' := by
  simp only [step, World.threadStep] at hw
  cases hth : w.delegate.thread with
  | run =>
    rw [hth] at hw
    exact h.runStep hth hw
  | deleteRunnable =>
    simp only [hth, Option.map_eq_some_iff] at hw
    obtain ⟨d, hd, rfl⟩ := hw
    exact h.deleteRunnable hth hd
  | _ =>
    simp only [hth, Option.map_eq_some_iff] at hw
    obtain ⟨d, hd, rfl⟩ := hw
    exact h.main (by simp [hth]) (by simp [hth]) hd

theorem Inv.step {e : Event} (h : Inv w) (hs : Sound w e) (hw : MsgTask.step w e = some w') : Inv w' := by
  cases e with
  | send => exact h.send hw
  | enter i node => exact h.enter hs hw
  | destroy => exact h.destroy hw
  | owner => exact h.owner hs hw
  | thread => exact h.thread hw
  | wake => exact h.wake hw

/-- An upper bound for the steps the thread still takes once the queue is unblocked. -/
def World.left (w : World) : Nat :=
  match w.delegate.thread with
  | .unborn | .ended => 0
  | .deleting => 1
  | .locked => 2
  | .destroy => 3
  | .deleteRunnable => 4
  | .clear => 5
  | .postrun => 6
  | .run =>
    match w.run with
    | .receive => 7
    | .asleep => 0
    | .delete _ => 9
    | .process _ => 10
    | .woken => 11
  | .loop => 8
  | .prerun => 9
  | .begin => 10

theorem left_returns (w : World) (more : Bool) (hth : w.delegate.thread = .run) :
    ∃ w', w.returns more = some w' ∧ w'.delegate.thread = (if more then .loop else .postrun) ∧
      w'.left = (if more then 8 else 6) ∧ w'.mQ = w.mQ := by
  simp only [World.returns, Delegate.threadStep, hth, Option.map_some, Option.some.injEq, exists_eq_left']
  cases more
  all_goals simp [World.left]

theorem Inv.returns_false (h : Inv w) (hq : w.mQ = ⟨[], true⟩) (hth : w.delegate.thread = .run)
    (hhand : w.run.hand = []) : ∃ w', MsgTask.step w .thread = some w' ∧ w'.delegate.thread = .postrun := by
  obtain ⟨w', hw, hpost, -⟩ := left_returns w false hth
  refine ⟨w', ?_, hpost⟩
  rw [← hw]
  simp only [MsgTask.step, World.threadStep, hth, World.runStep]
  cases hr : w.run with
  | receive => simp [hq]
  | woken => simp [World.msgQWait, hq, linkedListRemove]
  | asleep =>
    rw [h.asleep hr] at hq
    cases hq
  | process msg => simp [hr, RunPc.hand] at hhand
  | delete msg => simp [hr, RunPc.hand] at hhand

theorem Inv.nears (h : Inv w) (hun : w.mQ.unblocked = true) (hunborn : w.delegate.thread ≠ .unborn)
    (hended : w.delegate.thread ≠ .ended) :
    ∃ w', MsgTask.step w .thread = some w' ∧ w'.left < w.left ∧ w'.mQ.unblocked = true ∧
      w'.delegate.thread ≠ .unborn := by
  simp only [MsgTask.step, World.threadStep]
  cases hth : w.delegate.thread with
  | unborn => exact absurd hth hunborn
  | ended => exact absurd hth hended
  | run =>
    simp only [World.runStep]
    cases hr : w.run with
    | asleep =>
      rw [h.asleep hr] at hun
      cases hun
    | receive =>
      obtain ⟨w', hw, hpost, hleft, hq⟩ := left_returns w false hth
      refine ⟨w', by simp [hun, hw], ?_, hq ▸ hun, by simp [hpost]⟩
      rw [hleft]
      simp [World.left, hth, hr]
    | woken =>
      simp only [World.msgQWait]
      cases hremove : linkedListRemove w.mQ.msgList with
      | some taken => exact ⟨_, rfl, by simp [World.left, hth, hr], hun, by simp [hth]⟩
      | none =>
        obtain ⟨w', hw, hpost, hleft, hq⟩ := left_returns w false hth
        refine ⟨w', by simp [hun, hw], ?_, hq ▸ hun, by simp [hpost]⟩
        rw [hleft]
        simp [World.left, hth, hr]
    | process msg => exact ⟨_, rfl, by simp [World.left, hth, hr], hun, by simp [hth]⟩
    | delete msg =>
      obtain ⟨w', hw, hpost, hleft, hq⟩ :=
        left_returns { w with deleted := w.deleted ++ [msg] } true hth
      refine ⟨w', hw, ?_, hq ▸ hun, by simp [hpost]⟩
      rw [hleft]
      simp [World.left, hth, hr]
  | begin =>
    simp only [Delegate.threadStep, hth, if_pos (h.delegate.begun hth), Option.map_some]
    exact ⟨_, rfl, by simp [World.left, hth], hun, by simp⟩
  | loop =>
    have hrun := h.outside (by rw [hth]; simp)
    simp only [Delegate.threadStep, hth, Option.map_some]
    refine ⟨_, rfl, ?_, hun, ?_⟩
    all_goals cases hm : w.delegate.mRunnable <;> simp [World.left, hth, hrun]
  | destroy =>
    simp only [Delegate.threadStep, hth, Option.map_some]
    refine ⟨_, rfl, ?_, hun, ?_⟩
    all_goals by_cases hpos : 0 < w.delegate.mRefCount <;> simp [World.left, hth, hpos]
  | locked =>
    simp only [Delegate.threadStep, hth, Option.map_some]
    refine ⟨_, rfl, ?_, hun, ?_⟩
    all_goals by_cases hone : w.delegate.mRefCount = 1 <;> simp [World.left, hth, hone]
  | _ =>
    simp only [Delegate.threadStep, hth, Option.map_some]
    exact ⟨_, rfl, by simp [World.left, hth], hun, by simp⟩

theorem Inv.ends (h : Inv w) (hun : w.mQ.unblocked = true) (hunborn : w.delegate.thread ≠ .unborn) :
    ∃ n w', Runs.play MsgTask.step w (List.replicate n .thread) = some w' ∧ w'.delegate.thread = .ended := by
  induction hk : w.left using Nat.strong_induction_on generalizing w with
  | _ k ih =>
    by_cases hended : w.delegate.thread = .ended
    · exact ⟨0, w, rfl, hended⟩
    · obtain ⟨u, hu, hless, hun', hunborn'⟩ := h.nears hun hunborn hended
      obtain ⟨n, w', hw, hth⟩ := ih u.left (hk ▸ hless) (h.thread hu) hun' hunborn' rfl
      exact ⟨n + 1, w', Runs.play_cons.mpr ⟨u, hu, hw⟩, hth⟩

theorem Inv.entered_nodup (h : Inv w) : w.entered.Nodup := by
  have hall := h.taken.nodup_iff.mpr List.nodup_range
  exact (List.nodup_append.mp hall).2.1

theorem Inv.handled (h : Inv w) : Handled w where
  inOrder := by
    refine List.IsPrefix.trans ?_ h.order
    rw [List.append_assoc]
    exact List.prefix_append ..
  once := by
    have hpre : w.processed <+: w.entered := by
      refine List.IsPrefix.trans ?_ h.order
      rw [List.append_assoc]
      exact List.prefix_append ..
    exact hpre.sublist.nodup h.entered_nodup
  places := by
    rw [List.append_assoc, List.append_assoc, ← List.append_assoc w.mQ.msgList]
    exact (h.placed.append_left _).trans h.taken
  deleted hgone hcalls := by
    have hplaced := h.placed
    have htaken := h.taken
    have hhand : w.run.hand = [] := by
      by_cases hth : w.delegate.thread = .run
      · rcases h.gone.mp hgone with hreleased | ⟨hsp, -⟩
        · rw [hth] at hreleased
          cases hreleased
        · have hun := h.delegate.unborn.mpr hsp
          rw [hth] at hun
          cases hun
      · rw [h.outside hth]
        rfl
    rw [h.empty hgone, hhand] at hplaced
    rw [hcalls] at htaken
    exact hplaced.trans htaken
  freed hdone hth := by
    refine h.gone.mpr ?_
    rcases hth with hth | hth
    · left
      rw [hth]
      rfl
    · exact .inr ⟨h.delegate.unborn.mp hth, hdone⟩
  returns hq hth hhand := h.returns_false hq hth hhand
  ends := h.ends

/-- While messages come to the queue only before it is unblocked, their list elements can be allocated and the
owner does not stop a thread that has not read its runnable, each message is processed at most once, in the
order of the queue, and deleted once. -/
theorem messages_handled {joinable spawned : Bool} {es : List Event} {w : World}
    (hs : Runs.Along step Sound (.make joinable spawned) es)
    (hw : Runs.play step (.make joinable spawned) es = some w) : Handled w :=
  (Runs.play_invariant (fun _ _ _ h hs hw => h.step hs hw) (make_inv joinable spawned) hs hw).handled

/-- A message sent after `destroy` has unblocked the queue is never deleted. -/
theorem refused_message_kept : ¬ ∀ (joinable spawned : Bool) (es : List Event) (w : World),
    Runs.play step (.make joinable spawned) es = some w → Handled w := by
  intro h
  have hw := h true true
    [.owner, .owner, .destroy, .owner, .send, .enter 0 true] _ rfl
  exact absurd hw.places.length_eq (by decide)

theorem messages_handled_twice : ∃ w, Handled w ∧ w.processed = [0] ∧ w.deleted = [0, 1] ∧ w.gone = true :=
  ⟨_, @messages_handled true true
    [.owner, .owner, .thread, .thread, .thread, .send, .send, .enter 0 true, .enter 0 true, .thread, .thread,
      .destroy, .owner, .thread, .thread, .owner, .thread, .thread, .thread, .thread]
    _ (by decide) rfl, rfl, rfl, rfl⟩

end Wt88047.MsgTask
