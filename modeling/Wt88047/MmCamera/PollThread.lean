import Mathlib.Logic.Function.Basic
import Wt88047.Lib.Runs

/-! The poll thread of a channel or of a camera: its entries, which any thread writes, the commands
in its pipe and the descriptors that it polls. -/

namespace Wt88047.Poll

def maxStreamNumInBundle : Nat := 4

inductive PollType
  | evt | data
  deriving DecidableEq

structure PollEntry where
  fd : Int := 0
  handler : Nat := 0
  notifyCb : Option Nat := none
  userData : Nat := 0

inductive PipeCmd
  | pollEntriesUpdated | pollEntriesUpdatedAsync | commit | exit
  deriving DecidableEq

def PipeCmd.updates (c : PipeCmd) : Bool := c = .pollEntriesUpdated ∨ c = .pollEntriesUpdatedAsync

/-- `mm_camera_poll_sig_done` is called for it. -/
def PipeCmd.answered (c : PipeCmd) : Bool := c ≠ .pollEntriesUpdatedAsync

structure PollThread where
  pollType : PollType
  pollEntries : Nat → PollEntry := fun _ => {}
  /-- Those behind the pipe's own. -/
  pollFds : List Int := []
  pipe : List PipeCmd := []
  /-- The calls that have written their entry and not yet their command. -/
  unsent : Nat := 0
  /-- The threads in `pthread_cond_wait`. -/
  waiting : Nat := 0
  polling : Bool := true
  called : List (Nat × Nat × Nat) := []

namespace PollThread

variable (w : PollThread)

def index (handler : Nat) : Nat :=
  match w.pollType with
  | .evt => 0
  | .data => handler % 256

def setEntry (i : Nat) (e : PollEntry) : PollThread :=
  { w with pollEntries := Function.update w.pollEntries i e, unsent := w.unsent + 1 }

def addPollFd (e : PollEntry) : PollThread :=
  if w.index e.handler < maxStreamNumInBundle then w.setEntry (w.index e.handler) e else w

def delPollFd (handler : Nat) : PollThread :=
  let i := w.index handler
  if i < maxStreamNumInBundle ∧ handler = (w.pollEntries i).handler then
    w.setEntry i { w.pollEntries i with fd := -1, handler := 0, notifyCb := none }
  else w

def sig (cmd : PipeCmd) (ok : Bool) : PollThread :=
  if ok then { w with pipe := w.pipe ++ [cmd], waiting := w.waiting + cmd.answered.toNat } else w

def updated : List Int :=
  match w.pollType with
  | .evt => if 0 < (w.pollEntries 0).fd then [(w.pollEntries 0).fd] else []
  | .data => (List.range maxStreamNumInBundle).map fun i =>
    if 0 < (w.pollEntries i).fd then (w.pollEntries i).fd else -1

def procPipe (cmd : PipeCmd) (rest : List PipeCmd) : PollThread :=
  { w with
    pipe := rest
    pollFds := if cmd.updates then w.updated else w.pollFds
    polling := cmd ≠ .exit
    waiting := w.waiting - cmd.answered.toNat }

/-- `poll` passes over a negative descriptor. -/
def polls (i : Nat) : Option Int := w.pollFds[i]?.filter (0 ≤ ·)

def notify (i : Nat) : PollThread :=
  match (w.pollEntries i).notifyCb with
  | none => w
  | some cb => { w with called := w.called ++ [(i, cb, (w.pollEntries i).userData)] }

def listed (i : Nat) : Option Int :=
  if i < (if w.pollType = .evt then 1 else maxStreamNumInBundle) ∧ 0 < (w.pollEntries i).fd then
    some (w.pollEntries i).fd
  else none

def calledAt (i : Nat) : List (Nat × Nat × Nat) := w.called.filter (·.1 = i)

theorem polls_updated (i : Nat) : w.updated[i]?.filter (0 ≤ ·) = w.listed i := by
  unfold updated listed
  cases w.pollType with
  | evt =>
    by_cases hfd : 0 < (w.pollEntries 0).fd
    · cases i <;> simp [hfd, Int.le_of_lt hfd]
    · cases i <;> simp [hfd]
  | data =>
    by_cases hi : i < maxStreamNumInBundle
    · by_cases hfd : 0 < (w.pollEntries i).fd
      · simp [hi, hfd, Int.le_of_lt hfd]
      · simp [hi, hfd]
    · simp [hi]

theorem polls_procPipe (cmd : PipeCmd) (rest : List PipeCmd) (i : Nat) :
    (w.procPipe cmd rest).polls i = if cmd.updates then w.listed i else w.polls i := by
  rw [← polls_updated]
  cases hup : cmd.updates <;> simp [procPipe, polls, hup]

end PollThread

inductive Event
  | addPollFd (e : PollEntry)
  | delPollFd (handler : Nat)
  /-- A call that has written its entry goes on to its command; `ok` is whether `write` succeeds. -/
  | goOn (sync ok : Bool)
  | sig (cmd : PipeCmd) (ok : Bool)
  | procPipe
  | ready (i : Nat)

def step (w : PollThread) : Event → Option PollThread
  | .addPollFd e => some (w.addPollFd e)
  | .delPollFd handler => some (w.delPollFd handler)
  | .goOn sync ok =>
    if w.unsent = 0 then none
    else some { w.sig (if sync then .pollEntriesUpdated else .pollEntriesUpdatedAsync) ok with unsent := w.unsent - 1 }
  | .sig cmd ok => some (w.sig cmd ok)
  | .procPipe => if w.polling then w.pipe.head?.map fun cmd => w.procPipe cmd w.pipe.tail else none
  | .ready i => if w.polling ∧ (w.polls i).isSome then some (w.notify i) else none

def Event.written : Event → Bool
  | .goOn _ ok => ok
  | _ => true

def Event.spares (i : Nat) (w : PollThread) : Event → Bool
  | .addPollFd e => w.index e.handler ≠ i
  | _ => true

variable {w w' : PollThread} {e : Event} {i : Nat}

theorem step_cases (hw : step w e = some w') :
    w' = w ∨ (∃ j cb d, w.polls j ≠ none ∧ w' = { w with called := w.called ++ [(j, cb, d)] }) ∨
      (∃ j d, w' = w.setEntry j d ∧ (0 < d.fd → e.spares j w = false)) ∨
      (∃ cmd ok n, w' = { w.sig cmd ok with unsent := n } ∧
        (n = w.unsent ∨ cmd.updates = true ∧ e.written = ok)) ∨
      ∃ cmd rest, w.pipe = cmd :: rest ∧ w' = w.procPipe cmd rest := by
  cases e with
  | addPollFd d =>
    obtain rfl := Option.some.inj hw
    unfold PollThread.addPollFd
    split
    · exact .inr (.inr (.inl ⟨_, d, rfl, fun _ => by simp [Event.spares]⟩))
    · exact .inl rfl
  | delPollFd handler =>
    obtain rfl := Option.some.inj hw
    unfold PollThread.delPollFd
    dsimp only
    split
    · exact .inr (.inr (.inl ⟨_, _, rfl, nofun⟩))
    · exact .inl rfl
  | goOn sync ok =>
    simp only [step] at hw
    split at hw
    · cases hw
    · exact .inr (.inr (.inr (.inl ⟨_, ok, _, (Option.some.inj hw).symm, .inr ⟨by cases sync <;> rfl, rfl⟩⟩)))
  | sig cmd ok =>
    obtain rfl := Option.some.inj hw
    refine .inr (.inr (.inr (.inl ⟨cmd, ok, w.unsent, ?_, .inl rfl⟩)))
    cases ok <;> rfl
  | procPipe =>
    simp only [step] at hw
    split at hw
    · cases hp : w.pipe with
      | nil => simp [hp] at hw
      | cons cmd rest =>
        rw [hp] at hw
        exact .inr (.inr (.inr (.inr ⟨cmd, rest, rfl, (Option.some.inj hw).symm⟩)))
    · cases hw
  | ready j =>
    simp only [step] at hw
    split at hw
    · next hready =>
      obtain rfl := Option.some.inj hw
      unfold PollThread.notify
      split
      · exact .inl rfl
      · exact .inr (.inl ⟨j, _, _, Option.isSome_iff_ne_none.mp hready.2, rfl⟩)
    · cases hw

theorem mem_pipe_sig {c cmd : PipeCmd} {ok : Bool} (h : c ∈ w.pipe) : c ∈ (w.sig cmd ok).pipe := by
  cases ok with
  | false => exact h
  | true => exact List.mem_append_left _ h

theorem polls_sig (cmd : PipeCmd) (ok : Bool) (n : Nat) :
    ({ w.sig cmd ok with unsent := n } : PollThread).polls i = w.polls i ∧
    ({ w.sig cmd ok with unsent := n } : PollThread).listed i = w.listed i := by
  cases ok <;> exact ⟨rfl, rfl⟩

def Caught (w : PollThread) : Prop :=
  w.unsent = 0 → (∀ c ∈ w.pipe, c.updates = false) → ∀ i, w.polls i = w.listed i

theorem step_caught (h : Caught w) (he : e.written = true) (hw : step w e = some w') : Caught w' := by
  rcases step_cases hw with rfl | ⟨j, cb, d, -, rfl⟩ | ⟨j, d, rfl, -⟩ | ⟨cmd, ok, n, rfl, hn⟩ | ⟨cmd, rest, hp, rfl⟩
  · exact h
  · exact h
  · exact fun hsent => absurd hsent (Nat.succ_ne_zero _)
  · intro hsent hpipe i
    rw [(polls_sig cmd ok n).1, (polls_sig cmd ok n).2]
    rcases hn with rfl | ⟨hup, rfl⟩
    · exact h hsent (fun c hc => hpipe c (mem_pipe_sig hc)) i
    · rw [he] at hpipe
      have hno := hpipe cmd (List.mem_append_right _ (List.mem_singleton_self _))
      exact absurd hup (by simp [hno])
  · intro hsent hpipe i
    rw [PollThread.polls_procPipe]
    split
    · rfl
    · next hup =>
      refine h hsent ?_ i
      rw [hp]
      exact List.forall_mem_cons.mpr ⟨by simpa using hup, hpipe⟩

/-- Whatever the callers and the thread do in between, each change of an entry comes to be polled, and
nothing else is, unless a command could not be written. -/
theorem updates_polled {es : List Event} {t : PollType}
    (he : Runs.Along step (fun _ e => e.written = true) { pollType := t } es)
    (hw : Runs.play step { pollType := t } es = some w) (hsent : w.unsent = 0)
    (hpipe : ∀ c ∈ w.pipe, c.updates = false) : ∀ i, w.polls i = w.listed i := by
  have hstart : Caught { pollType := t } := by
    intro _ _ i
    simp [PollThread.polls, PollThread.listed]
  exact Runs.play_invariant (fun _ _ _ h he hw => step_caught h he hw) hstart he hw hsent hpipe

def addedStream : List Event := [.addPollFd ⟨7, 257, some 1, 2⟩, .goOn true true, .procPipe]

theorem updates_polled_stream : ∃ w : PollThread, w.polls 1 = some 7 ∧ w.polls 1 = w.listed 1 :=
  ⟨_, rfl, @updates_polled _ addedStream .data (by decide) rfl rfl (by decide) 1⟩

def Answers (w : PollThread) : Prop := w.pipe.countP PipeCmd.answered = w.waiting

theorem step_answers (h : Answers w) (hw : step w e = some w') : Answers w' := by
  unfold Answers at h
  rcases step_cases hw with rfl | ⟨j, cb, d, -, rfl⟩ | ⟨j, d, rfl, -⟩ | ⟨cmd, ok, n, rfl, -⟩ | ⟨cmd, rest, hp, rfl⟩
  · exact h
  · exact h
  · exact h
  · cases ok <;> cases hans : cmd.answered <;> simp [Answers, PollThread.sig, hans, h]
  · rw [hp] at h
    cases hans : cmd.answered <;> simp [Answers, PollThread.procPipe, hans] at h ⊢ <;> omega

/-- A deleted entry of which the thread has been told, or will be by a synchronous call. -/
def Deleted (i : Nat) (w : PollThread) : Prop :=
  (w.pollEntries i).fd ≤ 0 ∧ (w.polls i = none ∨ .pollEntriesUpdated ∈ w.pipe)

theorem step_deleted (h : Deleted i w) (he : e.spares i w = true) (hw : step w e = some w') :
    Deleted i w' ∧ (w.polls i = none → w'.polls i = none ∧ w'.calledAt i = w.calledAt i) := by
  obtain ⟨hfd, htold⟩ := h
  rcases step_cases hw with rfl | ⟨j, cb, d, hj, rfl⟩ | ⟨j, d, rfl, hd⟩ | ⟨cmd, ok, n, rfl, -⟩ | ⟨cmd, rest, hp, rfl⟩
  · exact ⟨⟨hfd, htold⟩, fun hnone => ⟨hnone, rfl⟩⟩
  · refine ⟨⟨hfd, htold⟩, fun hnone => ⟨hnone, ?_⟩⟩
    have hne : j ≠ i := fun h => hj (h ▸ hnone)
    simp [PollThread.calledAt, hne]
  · refine ⟨⟨?_, htold⟩, fun hnone => ⟨hnone, rfl⟩⟩
    by_cases hji : j = i
    · subst hji
      have hle : d.fd ≤ 0 := Int.not_lt.mp fun h => by simp [hd h] at he
      simpa [PollThread.setEntry] using hle
    · simpa [PollThread.setEntry, Ne.symm hji] using hfd
  · refine ⟨⟨?_, htold.imp ((polls_sig cmd ok n).1.trans ·) mem_pipe_sig⟩, fun hnone => ⟨(polls_sig cmd ok n).1.trans hnone, ?_⟩⟩
    · cases ok <;> exact hfd
    · cases ok <;> rfl
  · have hlisted : w.listed i = none := by simp [PollThread.listed, Int.not_lt.mpr hfd]
    have hkeep : w.polls i = none → (w.procPipe cmd rest).polls i = none := by
      intro hnone
      rw [PollThread.polls_procPipe, hlisted, hnone, ite_self]
    refine ⟨⟨hfd, ?_⟩, fun hnone => ⟨hkeep hnone, rfl⟩⟩
    rcases htold with hnone | hmem
    · exact .inl (hkeep hnone)
    · rw [hp, List.mem_cons] at hmem
      refine hmem.symm.imp_right ?_ |>.symm
      rintro rfl
      exact (PollThread.polls_procPipe ..).trans hlisted

end Wt88047.Poll
