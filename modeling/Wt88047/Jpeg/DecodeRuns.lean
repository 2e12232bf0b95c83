import Wt88047.Jpeg.DecodeJobs
import Wt88047.Jpeg.JobMoves
import Wt88047.Lib.Pool
import Wt88047.Lib.Runs

/-! Where each decode job is, in every state of a run that keeps clear of the lost events and of the callbacks that
come twice. -/

namespace Jpeg.Decode

/-- What the thread reads, or finds returned, at its stage: the event it waited for, unless an error event has ended
the job, and no error from the command that enables the port. -/
def Session.Follows (o : Outcome) (p : Session) : Stage → Prop
  | .call .enable => o.ok = true
  | .check .settings => p.eventPending = false → (p.omxEvent = .portSettingsChanged ↔ p.encoding = true)
  | .woken .settings => p.omxEvent = .portSettingsChanged ↔ p.encoding = true
  | .check .enable => p.eventPending = false → (p.omxEvent.isCmdComplete = true ↔ p.encoding = true)
  | .woken .enable => p.omxEvent.isCmdComplete = true ↔ p.encoding = true
  | _ => True

def Session.stops (p : Session) : Stage → Bool
  | .waiting .settings | .waiting .enable | .woken .settings | .woken .enable | .freeHandle | .removeSession => true
  | .check .settings | .check .enable => !p.eventPending
  | .callback | .jobDone => !p.encoding
  | _ => false

namespace World

def takesUp (w : World) : Option JobNode :=
  if w.jobSem = 0 ∨ w.lock.isSome ∨ maxConcurrentJobs ≤ w.ongoingJobQ.length then none else w.jobQueue.head?

end World

/-- The steps that go wrong are left out: a job without a callback; a job taken up without a place in the ongoing
queue, or beside another one of its session; an abort or destruction of a session that decodes, or of one that was
never made or has jobs queued; a buffer returned that is not with the component for a job; and what `Session.Follows`
and `Session.stops` exclude. -/
def Sound (w : World) : Event → Prop
  | .startDecodeJob job _ _ => (w.session (slotOf job.sessionId)).decParams.jpegCb = true
  | .abortJob id => (∃ n ∈ w.jobQueue, n.jobId = id) ∨ ∀ n ∈ w.ongoingJobQ, n.jobId ≠ id
  | .destroySession id => ∀ s ∈ getSession id, (w.session s).sessionId = packSession s ∧
      (w.session s).encoding = false ∧ ∀ n ∈ w.jobQueue, n.slot ≠ s
  | .wake enq => ∀ n ∈ w.takesUp, enq = true ∧ ∀ m ∈ w.ongoingJobQ, m.slot ≠ n.slot
  | .advance o => ∀ x ∈ w.lock, (w.session x.1).Follows o x.2
  | .fbd s => .fillThisBuffer ∈ (w.session s).owed
  | .omxEvent s .error => ∀ x ∈ w.lock, x.1 = s → (w.session s).stops x.2 = true
  | _ => True

namespace World

def AtRest (w : World) : Prop :=
  (∀ s, (w.session s).owed = []) ∧ (∀ o, step w (.advance o) = none) ∧ ∀ enq, step w (.wake enq) = none

def works (w : World) (s : Slot) : Prop := ∃ st, w.lock = some (s, st) ∧ st.byJobmgr = true

def destroys (w : World) (s : Slot) : Prop := ∃ st, w.lock = some (s, st) ∧ st.byJobmgr = false

def busy (w : World) (s : Slot) : Prop := s ∈ w.ongoingJobQ.map JobNode.slot

def called (w : World) : List Nat :=
  match w.lock with
  | some (s, .jobDone) => [(w.session s).decodeJob.serial]
  | _ => []

end World

def ChangeStage.Fits (p : Session) : ChangeStage → Prop
  | .exec => p.stateChangePending = true → .command .stateSet ∈ p.owed
  | .waiting => .command .stateSet ∈ p.owed
  | _ => True

def Session.Fits (p : Session) (s : Slot) (busy : Prop) : Stage → Prop
  | .begin | .configPorts | .setEncoding => busy ∧ p.encoding = false ∧ p.silent = false
  | .change g c => p.encoding = false ∧ p.silent = false ∧ c.Fits p ∧
      if g.byJobmgr then busy else p.omxHandle = true ∧ slotOf p.sessionId = s
  | .request _ | .call _ | .portDefinition | .fillThisBuffer => p.encoding = true ∧ p.silent = false
  | .useBuffers => p.encoding = true ∧ p.silent = false ∧
      (p.eventPending = true → Point.enable.request ∈ p.owed)
  | .check k => (busy → p.encoding = true) ∧ (p.encoding = true → p.silent = false) ∧
      (k = .disable ∨ p.eventPending = true → p.encoding = true) ∧ (p.eventPending = true → k.request ∈ p.owed)
  | .waiting k => p.encoding = true ∧ p.silent = false ∧ k.request ∈ p.owed
  | .woken k => (busy → p.encoding = true) ∧ (p.encoding = true → p.silent = false) ∧
      (k = .disable → p.encoding = true)
  | .callback | .jobDone => busy
  | .teardown => p.encoding = false ∧ p.silent = false ∧ slotOf p.sessionId = s
  | .freeHandle => p.encoding = false ∧ p.omxHandle = true ∧ slotOf p.sessionId = s
  | .removeSession => p.encoding = false ∧ slotOf p.sessionId = s
  | .abortWaiting _ | .abortWoken _ => False

structure Inv (w : World) : Prop where
  places : ∀ j, (w.jobQueue.map (·.job.serial)).count j + (w.ongoingJobQ.map (·.job.serial)).count j +
    w.removed.count j + w.aborted.count j = if j < w.accepted then 1 else 0
  answered : ∀ j, (w.answers.map (·.serial)).count j = w.removed.count j + w.called.count j
  jobs : ∀ n, n ∈ w.jobQueue ∨ n ∈ w.ongoingJobQ → validIdx n.jobId = true ∧ ¬ w.destroys n.slot ∧
    (w.session n.slot).active = true ∧ (w.session n.slot).decParams.jpegCb = true
  bound : ∀ n ∈ w.ongoingJobQ,
    (w.session n.slot).jobId = n.jobId ∧ (w.session n.slot).decodeJob.serial = n.job.serial
  apart : (w.ongoingJobQ.map JobNode.slot).Nodup
  held : ∀ s, w.busy s → w.works s ∨ .fillThisBuffer ∈ (w.session s).owed
  encodes : ∀ s, (w.session s).encoding = true → w.busy s
  filled : ∀ s, .fillThisBuffer ∈ (w.session s).owed → (w.session s).encoding = true ∧ ¬ w.works s
  ready : ∀ s, (w.session s).active = true → ¬ w.destroys s →
    (w.session s).omxHandle = true ∧ (w.session s).abortState = .none
  calm : ∀ s, (w.session s).abortState ≠ .init
  works_active : ∀ s, w.works s → (w.session s).active = true
  fits : ∀ s st, w.lock = some (s, st) → (w.session s).Fits s (w.busy s) st
  awake : min w.jobQueue.length (maxConcurrentJobs - w.ongoingJobQ.length) ≤ w.jobSem

structure Session.Keeps (p q : Session) : Prop where
  jobId : q.jobId = p.jobId
  decodeJob : q.decodeJob = p.decodeJob
  decParams : q.decParams = p.decParams
  active : q.active = p.active

def World.moved (w : World) (s : Slot) (p : Session) (lock : Option (Slot × Stage)) : World :=
  { w.setSession s p with lock := lock }

@[simp] theorem moved_lock (w : World) (s : Slot) (p : Session) (lock : Option (Slot × Stage)) :
    (w.moved s p lock).lock = lock := rfl

@[simp] theorem moved_session_self (w : World) (s : Slot) (p : Session) (lock : Option (Slot × Stage)) :
    (w.moved s p lock).session s = p := if_pos rfl

theorem moved_session_of_ne {w : World} {s t : Slot} {p : Session} {lock : Option (Slot × Stage)} (ht : t ≠ s) :
    (w.moved s p lock).session t = w.session t := if_neg ht

theorem World.works.not_destroys {w : World} {s t : Slot} (h : w.works s) : ¬ w.destroys t := by
  rintro ⟨st, hst, hby⟩
  obtain ⟨st', hst', hby'⟩ := h
  rw [hst] at hst'
  cases hst'
  rw [hby] at hby'
  cases hby'

section

variable {w : World} {s t : Slot} {p : Session} {st st' : Stage} {lock : Option (Slot × Stage)}

def SameLock (s : Slot) (lock lock' : Option (Slot × Stage)) : Prop :=
  ∀ t, t ≠ s → ∀ st, lock = some (t, st) ↔ lock' = some (t, st)

theorem SameLock.works (hlock : SameLock s lock w.lock) (ht : t ≠ s) :
    (w.moved s p lock).works t ↔ w.works t := by
  constructor
  · rintro ⟨st, hst, hby⟩
    exact ⟨st, (hlock t ht st).mp hst, hby⟩
  · rintro ⟨st, hst, hby⟩
    exact ⟨st, (hlock t ht st).mpr hst, hby⟩

theorem SameLock.destroys (hlock : SameLock s lock w.lock) (ht : t ≠ s) :
    (w.moved s p lock).destroys t ↔ w.destroys t := by
  constructor
  · rintro ⟨st, hst, hby⟩
    exact ⟨st, (hlock t ht st).mp hst, hby⟩
  · rintro ⟨st, hst, hby⟩
    exact ⟨st, (hlock t ht st).mpr hst, hby⟩

theorem Inv.replaced (h : Inv w) (hlock : SameLock s lock w.lock) (hcalled : (w.moved s p lock).called = w.called)
    (hjobs : ∀ n, n ∈ w.jobQueue ∨ n ∈ w.ongoingJobQ → n.slot = s →
      (w.session s).Keeps p ∧ ¬ (w.moved s p lock).destroys s)
    (henc : p.encoding = true → w.busy s)
    (hfilled : .fillThisBuffer ∈ p.owed → p.encoding = true ∧ ¬ (w.moved s p lock).works s)
    (hheld : w.busy s → (w.moved s p lock).works s ∨ .fillThisBuffer ∈ p.owed)
    (hready : p.active = true → ¬ (w.moved s p lock).destroys s → p.omxHandle = true ∧ p.abortState = .none)
    (hcalm : p.abortState ≠ .init)
    (hactive : (w.moved s p lock).works s → p.active = true)
    (hfits : ∀ st, lock = some (s, st) → p.Fits s (w.busy s) st) : Inv (w.moved s p lock) where
  places := h.places
  answered j := by
    rw [hcalled]
    exact h.answered j
  jobs n hn := by
    obtain ⟨hvalid, hnot, hact, hcb⟩ := h.jobs n hn
    by_cases ht : n.slot = s
    · obtain ⟨hk, hfree⟩ := hjobs n hn ht
      rw [ht] at hact hcb ⊢
      rw [moved_session_self, hk.active, hk.decParams]
      exact ⟨hvalid, hfree, hact, hcb⟩
    · rw [moved_session_of_ne ht]
      exact ⟨hvalid, fun hd => hnot ((hlock.destroys ht).mp hd), hact, hcb⟩
  bound n hn := by
    have hb := h.bound n hn
    by_cases ht : n.slot = s
    · obtain ⟨hk, -⟩ := hjobs n (.inr hn) ht
      rw [ht] at hb ⊢
      rw [moved_session_self, hk.jobId, hk.decodeJob]
      exact hb
    · rw [moved_session_of_ne ht]
      exact hb
  apart := h.apart
  held t hb := by
    by_cases ht : t = s
    · subst ht
      rw [moved_session_self]
      exact hheld hb
    · rw [moved_session_of_ne ht, hlock.works ht]
      exact h.held t hb
  encodes t he := by
    by_cases ht : t = s
    · subst ht
      rw [moved_session_self] at he
      exact henc he
    · rw [moved_session_of_ne ht] at he
      exact h.encodes t he
  filled t hf := by
    by_cases ht : t = s
    · subst ht
      rw [moved_session_self] at hf ⊢
      exact hfilled hf
    · rw [moved_session_of_ne ht] at hf ⊢
      rw [hlock.works ht]
      exact h.filled t hf
  ready t ha hnot := by
    by_cases ht : t = s
    · subst ht
      rw [moved_session_self] at ha ⊢
      exact hready ha hnot
    · rw [moved_session_of_ne ht] at ha ⊢
      exact h.ready t ha fun hd => hnot ((hlock.destroys ht).mpr hd)
  calm t := by
    by_cases ht : t = s
    · subst ht
      rw [moved_session_self]
      exact hcalm
    · rw [moved_session_of_ne ht]
      exact h.calm t
  works_active t hw := by
    by_cases ht : t = s
    · subst ht
      rw [moved_session_self]
      exact hactive hw
    · rw [moved_session_of_ne ht]
      exact h.works_active t ((hlock.works ht).mp hw)
  fits t st hst := by
    by_cases ht : t = s
    · subst ht
      rw [moved_session_self]
      exact hfits st hst
    · rw [moved_session_of_ne ht]
      exact h.fits t st ((hlock t ht st).mp hst)
  awake := h.awake

theorem Inv.moved (h : Inv w) (hk : (w.session s).Keeps p) (hlock : SameLock s lock w.lock)
    (hdestroys : (w.moved s p lock).destroys s ↔ w.destroys s)
    (hcalled : (w.moved s p lock).called = w.called)
    (henc : p.encoding = true → w.busy s)
    (hfilled : .fillThisBuffer ∈ p.owed → p.encoding = true ∧ ¬ (w.moved s p lock).works s)
    (hheld : w.busy s → (w.moved s p lock).works s ∨ .fillThisBuffer ∈ p.owed)
    (hready : p.active = true → ¬ w.destroys s → p.omxHandle = true ∧ p.abortState = .none)
    (hcalm : p.abortState ≠ .init)
    (hactive : (w.moved s p lock).works s → p.active = true)
    (hfits : ∀ st, lock = some (s, st) → p.Fits s (w.busy s) st) : Inv (w.moved s p lock) := by
  apply h.replaced hlock hcalled _ henc hfilled hheld _ hcalm hactive hfits
  · rintro n hn rfl
    exact ⟨hk, fun hd => (h.jobs n hn).2.1 (hdestroys.mp hd)⟩
  · exact fun ha hnot => hready ha fun hd => hnot (hdestroys.mpr hd)

theorem Inv.vacant (h : Inv w) (hlock : SameLock s lock w.lock) (hcalled : (w.moved s p lock).called = w.called)
    (hnone : ∀ n, n ∈ w.jobQueue ∨ n ∈ w.ongoingJobQ → n.slot ≠ s) (henc : p.encoding = false)
    (hfill : .fillThisBuffer ∉ p.owed)
    (hready : p.active = true → ¬ (w.moved s p lock).destroys s → p.omxHandle = true ∧ p.abortState = .none)
    (hcalm : p.abortState ≠ .init)
    (hactive : (w.moved s p lock).works s → p.active = true)
    (hfits : ∀ st, lock = some (s, st) → p.Fits s (w.busy s) st) : Inv (w.moved s p lock) := by
  have hidle : ¬ w.busy s := fun hb => by
    obtain ⟨n, hn, heq⟩ := List.mem_map.mp hb
    exact hnone n (.inr hn) heq
  apply h.replaced hlock hcalled (fun n hn heq => absurd heq (hnone n hn)) _ (fun hf => absurd hf hfill)
    (fun hb => absurd hb hidle) hready hcalm hactive hfits
  intro he
  rw [henc] at he
  cases he

theorem Inv.post (h : Inv w) : Inv { w with jobSem := w.jobSem + 1 } where
  places := h.places
  answered := h.answered
  jobs := h.jobs
  bound := h.bound
  apart := h.apart
  held := h.held
  encodes := h.encodes
  filled := h.filled
  ready := h.ready
  calm := h.calm
  works_active := h.works_active
  fits := h.fits
  awake := Nat.le_succ_of_le h.awake

theorem Inv.works_ready (h : Inv w) (hw : w.works s) :
    (w.session s).omxHandle = true ∧ (w.session s).abortState = .none :=
  h.ready s (h.works_active s hw) hw.not_destroys

theorem Inv.busy_ready (h : Inv w) (hb : w.busy s) :
    (w.session s).omxHandle = true ∧ (w.session s).abortState = .none := by
  obtain ⟨n, hn, rfl⟩ := List.mem_map.mp hb
  obtain ⟨-, hnot, hact, -⟩ := h.jobs n (.inr hn)
  exact h.ready n.slot hact hnot

theorem Inv.destroys_idle (h : Inv w) (hd : w.destroys s) : ¬ w.busy s := by
  intro hb
  obtain ⟨n, hn, rfl⟩ := List.mem_map.mp hb
  exact (h.jobs n (.inr hn)).2.1 hd

theorem Inv.unfilled (h : Inv w) (hl : w.lock = some (s, st)) : .fillThisBuffer ∉ (w.session s).owed := by
  intro hf
  obtain ⟨he, hnot⟩ := h.filled s hf
  cases hby : st.byJobmgr with
  | true => exact hnot ⟨st, hl, hby⟩
  | false => exact h.destroys_idle ⟨st, hl, hby⟩ (h.encodes s he)

end

structure Session.Went (p q : Session) (s : Slot) (busy : Prop) (st : Stage) (next : Option Stage) : Prop where
  keeps : p.Keeps q
  abortState : q.abortState = p.abortState
  omxHandle : st.byJobmgr = true → q.omxHandle = p.omxHandle
  encoding : q.encoding = true → busy
  goes : ∀ st', next = some st' → st'.byJobmgr = st.byJobmgr ∧ st' ≠ .jobDone ∧
    .fillThisBuffer ∉ q.owed ∧ q.Fits s busy st'
  leaves : next = none → st.byJobmgr = true ∧ (busy → .fillThisBuffer ∈ q.owed) ∧
    (.fillThisBuffer ∈ q.owed → q.encoding = true)

namespace Session

variable {p q : Session} {s : Slot} {busy : Prop} {st st' : Stage} {next : Option Stage} {o : Outcome}

theorem Keeps.rfl : p.Keeps p := ⟨Eq.refl _, Eq.refl _, Eq.refl _, Eq.refl _⟩

theorem ask_eq {r : Request} (h : p.silent = false) : p.ask r = { p with owed := p.owed ++ [r] } := by
  unfold ask
  rw [h]
  rfl

theorem Went.to (hk : p.Keeps q) (habort : q.abortState = p.abortState)
    (hhandle : st.byJobmgr = true → q.omxHandle = p.omxHandle) (henc : q.encoding = true → busy)
    (hby : st'.byJobmgr = st.byJobmgr) (hne : st' ≠ .jobDone) (hfill : .fillThisBuffer ∉ q.owed)
    (hfits : q.Fits s busy st') : p.Went q s busy st (some st') where
  keeps := hk
  abortState := habort
  omxHandle := hhandle
  encoding := henc
  goes := by
    rintro _ ⟨⟩
    exact ⟨hby, hne, hfill, hfits⟩
  leaves := by
    rintro ⟨⟩

theorem Went.stay (henc : p.encoding = true → busy) (hby : st'.byJobmgr = st.byJobmgr) (hne : st' ≠ .jobDone)
    (hfill : .fillThisBuffer ∉ p.owed) (hfits : p.Fits s busy st') : p.Went p s busy st (some st') :=
  Went.to Keeps.rfl rfl (fun _ => rfl) henc hby hne hfill hfits

theorem Went.done (henc : p.encoding = true → busy) (hby : st.byJobmgr = true) (hfill : .fillThisBuffer ∉ p.owed)
    (hidle : ¬ busy) : p.Went p s busy st none where
  keeps := Keeps.rfl
  abortState := rfl
  omxHandle _ := rfl
  encoding := henc
  goes := by
    rintro _ ⟨⟩
  leaves _ := ⟨hby, fun hb => absurd hb hidle, fun hf => absurd hf hfill⟩

theorem changed_went {g : Goal} {c : ChangeStage} (hf : p.Fits s busy (.change g c))
    (hfill : .fillThisBuffer ∉ p.owed) : p.Went (p.changed g).1 s busy (.change g c) (p.changed g).2 := by
  obtain ⟨henc, hsilent, -, hg⟩ := hf
  have hidle : p.encoding = true → busy := fun he => by rw [henc] at he; cases he
  cases g with
  | configIdle => exact Went.stay hidle rfl nofun hfill ⟨henc, hsilent, trivial, hg⟩
  | configExecuting =>
    exact Went.to ⟨rfl, rfl, rfl, rfl⟩ rfl (fun _ => rfl) hidle rfl nofun hfill ⟨hg, henc, hsilent⟩
  | destroyIdle => exact Went.stay hidle rfl nofun hfill ⟨henc, hsilent, trivial, hg⟩
  | destroyLoaded => exact Went.stay hidle rfl nofun hfill ⟨henc, hg.1, hg.2⟩

theorem unchanged_went {g : Goal} {c : ChangeStage} (hf : p.Fits s busy (.change g c))
    (hfill : .fillThisBuffer ∉ p.owed) : p.Went (p.unchanged g).1 s busy (.change g c) (p.unchanged g).2 := by
  obtain ⟨henc, hsilent, -, hg⟩ := hf
  have hidle : p.encoding = true → busy := fun he => by rw [henc] at he; cases he
  cases g with
  | configIdle => exact Went.stay hidle rfl nofun hfill hg
  | configExecuting => exact Went.stay hidle rfl nofun hfill hg
  | destroyIdle => exact Went.stay hidle rfl nofun hfill ⟨henc, hsilent, trivial, hg⟩
  | destroyLoaded => exact Went.stay hidle rfl nofun hfill ⟨henc, hg.1, hg.2⟩

theorem changeState_went {g : Goal} {c : ChangeStage} (hf : p.Fits s busy (.change g c))
    (hfill : .fillThisBuffer ∉ p.owed) (h : p.changeState o g c = some (q, next)) :
    p.Went q s busy (.change g c) next := by
  have hchanged := changed_went hf hfill
  have hunchanged := unchanged_went hf hfill
  obtain ⟨henc, hsilent, hc, hg⟩ := hf
  have hidle : p.encoding = true → busy := fun he => by rw [henc] at he; cases he
  cases c with
  | getState =>
    simp only [changeState] at h
    split at h
    · rw [Option.some.inj h] at hunchanged
      exact hunchanged
    split at h
    · rw [Option.some.inj h] at hchanged
      exact hchanged
    · cases h
      exact Went.to ⟨rfl, rfl, rfl, rfl⟩ rfl (fun _ => rfl) hidle rfl nofun hfill ⟨henc, hsilent, trivial, hg⟩
  | sendCommand =>
    simp only [changeState] at h
    split at h
    · rw [ask_eq hsilent] at h
      cases h
      exact Went.to ⟨rfl, rfl, rfl, rfl⟩ rfl (fun _ => rfl) hidle rfl nofun (by simpa using hfill)
        ⟨henc, hsilent, fun _ => List.mem_append_right _ (List.mem_singleton.mpr rfl), hg⟩
    · rw [Option.some.inj h] at hunchanged
      exact hunchanged
  | exec =>
    simp only [changeState] at h
    split at h
    · rw [Option.some.inj h] at hunchanged
      exact hunchanged
    split at h
    · next hpending =>
      cases h
      exact Went.stay hidle rfl nofun hfill ⟨henc, hsilent, hc hpending, hg⟩
    · rw [Option.some.inj h] at hchanged
      exact hchanged
  | waiting => cases h
  | woken =>
    rw [Option.some.inj h] at hchanged
    exact hchanged

theorem readEvent_went {k : Point} (henc : p.encoding = true → busy) (hby : st.byJobmgr = true)
    (hfill : .fillThisBuffer ∉ p.owed) (hbusy : busy → p.encoding = true)
    (hsilent : p.encoding = true → p.silent = false) (hdisable : k = .disable → p.encoding = true)
    (hfollows : p.Follows o (.woken k)) : p.Went (p.readEvent k).1 s busy st (p.readEvent k).2 := by
  cases k with
  | settings =>
    by_cases hev : p.omxEvent = .portSettingsChanged
    · have he : p.encoding = true := hfollows.mp hev
      simp only [readEvent, hev, if_true]
      exact Went.stay henc hby.symm nofun hfill ⟨he, hsilent he⟩
    · simp only [readEvent, hev, if_false]
      exact Went.done henc hby hfill fun hb => hev (hfollows.mpr (hbusy hb))
  | disable =>
    have he := hdisable rfl
    exact Went.stay henc hby.symm nofun hfill ⟨he, hsilent he⟩
  | enable =>
    by_cases hev : p.omxEvent.isCmdComplete = true
    · have he : p.encoding = true := hfollows.mp hev
      simp only [readEvent, hev, if_true]
      exact Went.stay henc hby.symm nofun hfill ⟨he, hsilent he⟩
    · simp only [readEvent, hev, Bool.false_eq_true, if_false]
      exact Went.done henc hby hfill fun hb => hev (hfollows.mpr (hbusy hb))

theorem callOmx_went {k : Point} (henc : p.encoding = true → busy) (he : p.encoding = true)
    (hsilent : p.silent = false) (hfill : .fillThisBuffer ∉ p.owed) (hfollows : p.Follows o (.call k)) :
    p.Went (p.callOmx o k).1 s busy (.call k) (p.callOmx o k).2 := by
  have hasked : ∀ r, r ≠ .fillThisBuffer → Request.fillThisBuffer ∉ p.owed ++ [r] := fun r hr hf => by
    rcases List.mem_append.mp hf with hf | hf
    · exact hfill hf
    · exact hr (List.mem_singleton.mp hf).symm
  have hlast : ∀ r : Request, r ∈ p.owed ++ [r] := fun r => List.mem_append_right _ (List.mem_singleton.mpr rfl)
  cases k with
  | settings =>
    cases ho : o.ok with
    | true =>
      simp only [callOmx, ho, if_true, ask_eq hsilent]
      exact Went.to ⟨rfl, rfl, rfl, rfl⟩ rfl (fun _ => rfl) henc rfl nofun (hasked _ nofun)
        ⟨fun _ => he, fun _ => hsilent, fun _ => he, fun _ => hlast _⟩
    | false =>
      simp only [callOmx, ho, Bool.false_eq_true, if_false]
      exact Went.stay henc rfl nofun hfill (henc he)
  | disable =>
    cases ho : o.ok with
    | true =>
      simp only [callOmx, ho, if_true, ask_eq hsilent]
      exact Went.to ⟨rfl, rfl, rfl, rfl⟩ rfl (fun _ => rfl) henc rfl nofun (hasked _ nofun)
        ⟨fun _ => he, fun _ => hsilent, fun _ => he, fun _ => hlast _⟩
    | false =>
      simp only [callOmx, ho, Bool.false_eq_true, if_false]
      exact Went.stay henc rfl nofun hfill ⟨he, hsilent⟩
  | enable =>
    have ho : o.ok = true := hfollows
    simp only [callOmx, ho, if_true, ask_eq hsilent]
    exact Went.to ⟨rfl, rfl, rfl, rfl⟩ rfl (fun _ => rfl) henc rfl nofun (hasked _ nofun)
      ⟨he, hsilent, fun _ => hlast _⟩

theorem advance_went (hf : p.Fits s busy st) (hfollows : p.Follows o st) (henc : p.encoding = true → busy)
    (hfill : .fillThisBuffer ∉ p.owed) (habort : st.byJobmgr = true → p.abortState = .none)
    (h : p.advance o st = some (q, next)) : p.Went q s busy st next := by
  cases st with
  | begin =>
    obtain ⟨hb, he, hsilent⟩ := hf
    cases h
    refine Went.to ⟨rfl, rfl, rfl, rfl⟩ (habort rfl).symm (fun _ => rfl) nofun ?_ ?_ hfill ?_
    all_goals cases p.config
    · rfl
    · rfl
    · nofun
    · nofun
    · exact ⟨hb, rfl, hsilent⟩
    · exact ⟨hb, rfl, hsilent⟩
  | configPorts =>
    obtain ⟨hb, he, hsilent⟩ := hf
    simp only [advance, habort rfl, reduceCtorEq, if_false] at h
    cases h
    cases o.ok with
    | true => exact Went.stay henc rfl nofun hfill ⟨he, hsilent, trivial, hb⟩
    | false => exact Went.stay henc rfl nofun hfill hb
  | change g c => exact changeState_went hf hfill h
  | setEncoding =>
    obtain ⟨hb, he, hsilent⟩ := hf
    cases h
    exact Went.to ⟨rfl, rfl, rfl, rfl⟩ rfl (fun _ => rfl) (fun _ => hb) rfl nofun hfill ⟨rfl, hsilent⟩
  | request k =>
    have hnot : ¬ (k = .settings ∧ p.abortState = .init) := fun hk => by
      rw [habort rfl] at hk
      cases hk.2
    simp only [advance, hnot, if_false] at h
    cases h
    exact Went.to ⟨rfl, rfl, rfl, rfl⟩ rfl (fun _ => rfl) henc rfl nofun hfill hf
  | call k =>
    have hwent := callOmx_went henc hf.1 hf.2 hfill hfollows (s := s)
    rw [Option.some.inj h] at hwent
    exact hwent
  | check k =>
    obtain ⟨hbusy, hsilent, hpending, howed⟩ := hf
    simp only [advance] at h
    split at h
    · next hp =>
      cases h
      have he := hpending (.inr hp)
      exact Went.stay henc rfl nofun hfill ⟨he, hsilent he, howed hp⟩
    · next hp =>
      have hwent := @readEvent_went p s busy (.check k) o k henc rfl hfill hbusy hsilent
        (fun hk => hpending (.inl hk)) (by cases k <;> first | exact hfollows (by simpa using hp) | trivial)
      rw [Option.some.inj h] at hwent
      exact hwent
  | waiting k => cases h
  | woken k =>
    have hwent := @readEvent_went p s busy (.woken k) o k henc rfl hfill hf.1 hf.2.1 hf.2.2 hfollows
    rw [Option.some.inj h] at hwent
    exact hwent
  | portDefinition =>
    cases h
    cases o.ok with
    | true => exact Went.stay henc rfl nofun hfill hf
    | false => exact Went.stay henc rfl nofun hfill (henc hf.1)
  | useBuffers =>
    obtain ⟨he, hsilent, howed⟩ := hf
    cases h
    cases o.ok with
    | true => exact Went.stay henc rfl nofun hfill ⟨fun _ => he, fun _ => hsilent, fun _ => he, howed⟩
    | false => exact Went.stay henc rfl nofun hfill (henc he)
  | fillThisBuffer =>
    obtain ⟨he, hsilent⟩ := hf
    simp only [advance, ask_eq hsilent] at h
    split at h
    · cases h
      -- the buffer is with the component now, and the job is its
      exact ⟨⟨rfl, rfl, rfl, rfl⟩, rfl, fun _ => rfl, henc, nofun,
        fun _ => ⟨rfl, fun _ => List.mem_append_right _ (List.mem_singleton.mpr rfl), fun _ => he⟩⟩
    · cases h
      exact Went.stay henc rfl nofun hfill (henc he)
  | callback => cases h
  | jobDone => cases h
  | abortWaiting d => cases h
  | abortWoken d => exact hf.elim
  | teardown =>
    obtain ⟨he, hsilent, hid⟩ := hf
    cases h
    cases hh : p.omxHandle with
    | true => exact Went.stay henc rfl nofun hfill ⟨he, hsilent, trivial, hh, hid⟩
    | false => exact Went.stay henc rfl nofun hfill ⟨he, hid⟩
  | freeHandle =>
    obtain ⟨he, -, hid⟩ := hf
    cases h
    exact Went.to ⟨rfl, rfl, rfl, rfl⟩ rfl nofun henc rfl nofun nofun ⟨he, hid⟩
  | removeSession => cases h

end Session

variable {w w' : World} {s t : Slot} {p q : Session} {st st' : Stage} {next lock : Option (Slot × Stage)}

theorem works_of_lock (hl : w.lock = some (s, st)) : w.works s ↔ st.byJobmgr = true := by
  constructor
  · rintro ⟨st', hl', hby⟩
    rw [hl] at hl'
    cases hl'
    exact hby
  · exact fun hby => ⟨st, hl, hby⟩

theorem destroys_of_lock (hl : w.lock = some (s, st)) : w.destroys s ↔ st.byJobmgr = false := by
  constructor
  · rintro ⟨st', hl', hby⟩
    rw [hl] at hl'
    cases hl'
    exact hby
  · exact fun hby => ⟨st, hl, hby⟩

theorem sameLock_of_lock {next : Option Stage} (hl : w.lock = some (s, st)) :
    SameLock s (next.map (Prod.mk s)) w.lock := by
  intro t ht st'
  rw [hl]
  constructor
  · intro h
    obtain ⟨st₁, -, heq⟩ := Option.map_eq_some_iff.mp h
    cases heq
    exact absurd rfl ht
  · rintro ⟨⟩
    exact absurd rfl ht

theorem called_of_ne (hl : w.lock = some (s, st)) (hne : st ≠ .jobDone) : w.called = [] := by
  unfold World.called
  rw [hl]
  cases st <;> first | rfl | exact absurd rfl hne

theorem Inv.went {next : Option Stage} (h : Inv w) (hl : w.lock = some (s, st)) (hne : st ≠ .jobDone)
    (hw : (w.session s).Went q s (w.busy s) st next) : Inv (w.moved s q (next.map (Prod.mk s))) := by
  have hcalled := called_of_ne hl hne
  have hlock : SameLock s (next.map (Prod.mk s)) w.lock := sameLock_of_lock hl
  have hcalm : q.abortState ≠ .init := by
    rw [hw.abortState]
    exact h.calm s
  have hready : st.byJobmgr = true → q.omxHandle = true ∧ q.abortState = .none := fun hby => by
    obtain ⟨hh, ha⟩ := h.works_ready ((works_of_lock hl).mpr hby)
    exact ⟨(hw.omxHandle hby).trans hh, hw.abortState.trans ha⟩
  have hnot : ¬ w.destroys s → st.byJobmgr = true := fun hd => by
    rw [destroys_of_lock hl] at hd
    simpa using hd
  cases next with
  | some st' =>
    obtain ⟨hby, hne', hfill, hfits⟩ := hw.goes st' rfl
    have hl' : (w.moved s q ((some st').map (Prod.mk s))).lock = some (s, st') := rfl
    refine h.moved hw.keeps hlock ?_ ?_ hw.encoding (fun hf => absurd hf hfill) ?_ (fun _ hd => hready (hnot hd))
      hcalm ?_ ?_
    · rw [destroys_of_lock hl, destroys_of_lock hl', hby]
    · exact (called_of_ne hl' hne').trans hcalled.symm
    · intro hb
      rw [works_of_lock hl', hby]
      refine .inl (hnot fun hd => h.destroys_idle hd hb)
    · intro hworks
      rw [works_of_lock hl', hby] at hworks
      exact hw.keeps.active.trans (h.works_active s ((works_of_lock hl).mpr hworks))
    · rintro st₁ ⟨⟩
      exact hfits
  | none =>
    obtain ⟨hby, hsub, henc⟩ := hw.leaves rfl
    have hnone : ∀ {P : Stage → Prop}, ¬ ∃ st, (none : Option (Slot × Stage)) = some (s, st) ∧ P st := by
      rintro P ⟨st, hst, -⟩
      cases hst
    refine h.moved hw.keeps hlock ⟨fun hd => absurd hd hnone, fun hd => ?_⟩ hcalled.symm hw.encoding
      (fun hf => ⟨henc hf, hnone⟩) (fun hb => .inr (hsub hb)) (fun _ _ => hready hby) hcalm
      (fun hworks => absurd hworks hnone) nofun
    rw [destroys_of_lock hl, hby] at hd
    cases hd

def World.finished (w : World) (n : JobNode) (rest : List JobNode) (answers : List Answer) (p : Session)
    (lock : Option (Slot × Stage)) : World :=
  { w.moved n.slot p lock with
    ongoingJobQ := rest
    removed := w.removed ++ [n.job.serial]
    answers := answers
    jobSem := w.jobSem + 1 }

section

variable {n : JobNode} {rest : List JobNode} {answers : List Answer}

theorem busy_of_perm (hperm : w.ongoingJobQ.Perm (n :: rest)) (hv : w'.ongoingJobQ = rest) (ht : t ≠ n.slot) :
    w'.busy t ↔ w.busy t := by
  unfold World.busy
  rw [hv, (hperm.map JobNode.slot).mem_iff, List.map_cons, List.mem_cons]
  exact (or_iff_right ht).symm

theorem not_busy_of_perm (h : Inv w) (hperm : w.ongoingJobQ.Perm (n :: rest)) (hv : w'.ongoingJobQ = rest) :
    ¬ w'.busy n.slot := by
  have hnodup := (hperm.map JobNode.slot).nodup_iff.mp h.apart
  rw [List.map_cons, List.nodup_cons] at hnodup
  unfold World.busy
  rw [hv]
  exact hnodup.1

theorem Inv.finished (h : Inv w) (hperm : w.ongoingJobQ.Perm (n :: rest)) (hk : (w.session n.slot).Keeps p)
    (habort : p.abortState = (w.session n.slot).abortState) (hhandle : p.omxHandle = (w.session n.slot).omxHandle)
    (henc : p.encoding = false) (hfill : .fillThisBuffer ∉ p.owed) (hlock : SameLock n.slot lock w.lock)
    (hworks : (w.moved n.slot p lock).works n.slot → w.works n.slot)
    (hdestroys : (w.moved n.slot p lock).destroys n.slot ↔ w.destroys n.slot)
    (hans : ∀ j, (answers.map (·.serial)).count j =
      w.removed.count j + [n.job.serial].count j + (w.moved n.slot p lock).called.count j)
    (hfits : ∀ st, lock = some (n.slot, st) → p.Fits n.slot False st) :
    Inv (w.finished n rest answers p lock) := by
  have hmem : ∀ m, m ∈ rest → m ∈ w.ongoingJobQ := fun m hm => hperm.mem_iff.mpr (List.mem_cons_of_mem n hm)
  have hself : (w.finished n rest answers p lock).session n.slot = p := if_pos rfl
  have hother : ∀ t, t ≠ n.slot → (w.finished n rest answers p lock).session t = w.session t :=
    fun t ht => if_neg ht
  have hdest : ∀ t, t ≠ n.slot → ((w.finished n rest answers p lock).destroys t ↔ w.destroys t) :=
    fun t ht => SameLock.destroys (p := p) hlock ht
  have hwork : ∀ t, t ≠ n.slot → ((w.finished n rest answers p lock).works t ↔ w.works t) :=
    fun t ht => SameLock.works (p := p) hlock ht
  have hbusy : ∀ t, t ≠ n.slot → ((w.finished n rest answers p lock).busy t ↔ w.busy t) :=
    fun t ht => busy_of_perm hperm rfl ht
  have hidle : ¬ (w.finished n rest answers p lock).busy n.slot := not_busy_of_perm h hperm rfl
  have hapart : ∀ m ∈ rest, m.slot ≠ n.slot := fun m hm heq => hidle (List.mem_map.mpr ⟨m, hm, heq⟩)
  constructor
  case places =>
    intro j
    have hj := h.places j
    rw [(hperm.map (·.job.serial)).count_eq, List.map_cons, List.count_cons] at hj
    show (w.jobQueue.map (·.job.serial)).count j + (rest.map (·.job.serial)).count j +
      (w.removed ++ [n.job.serial]).count j + w.aborted.count j = if j < w.accepted then 1 else 0
    rw [List.count_append, List.count_singleton, ← hj]
    omega
  case answered =>
    intro j
    show (answers.map (·.serial)).count j =
      (w.removed ++ [n.job.serial]).count j + (w.moved n.slot p lock).called.count j
    rw [hans j, List.count_append]
  case jobs =>
    intro m hm
    obtain ⟨hvalid, hnot, hact, hcb⟩ := h.jobs m (hm.imp id (hmem m))
    by_cases ht : m.slot = n.slot
    · rw [ht] at hnot hact hcb ⊢
      rw [hself]
      exact ⟨hvalid, fun hd => hnot (hdestroys.mp hd), hk.active.trans hact, by rw [hk.decParams]; exact hcb⟩
    · rw [hother m.slot ht]
      exact ⟨hvalid, fun hd => hnot ((hdest m.slot ht).mp hd), hact, hcb⟩
  case bound =>
    intro m hm
    rw [hother m.slot (hapart m hm)]
    exact h.bound m (hmem m hm)
  case apart =>
    have hnodup := (hperm.map JobNode.slot).nodup_iff.mp h.apart
    rw [List.map_cons, List.nodup_cons] at hnodup
    exact hnodup.2
  case held =>
    intro t hb
    have ht : t ≠ n.slot := fun heq => hidle (heq ▸ hb)
    rw [hother t ht]
    exact (h.held t ((hbusy t ht).mp hb)).imp (hwork t ht).mpr id
  case encodes =>
    intro t he
    by_cases ht : t = n.slot
    · rw [ht, hself, henc] at he
      cases he
    · rw [hother t ht] at he
      exact (hbusy t ht).mpr (h.encodes t he)
  case filled =>
    intro t hf
    by_cases ht : t = n.slot
    · rw [ht, hself] at hf
      exact absurd hf hfill
    · rw [hother t ht] at hf ⊢
      obtain ⟨he, hnot⟩ := h.filled t hf
      exact ⟨he, fun hw => hnot ((hwork t ht).mp hw)⟩
  case ready =>
    intro t ha hnot
    by_cases ht : t = n.slot
    · rw [ht] at ha hnot ⊢
      rw [hself] at ha ⊢
      rw [hhandle, habort]
      exact h.ready n.slot (hk.active.symm.trans ha) fun hd => hnot (hdestroys.mpr hd)
    · rw [hother t ht] at ha ⊢
      exact h.ready t ha fun hd => hnot ((hdest t ht).mpr hd)
  case calm =>
    intro t
    by_cases ht : t = n.slot
    · rw [ht, hself, habort]
      exact h.calm n.slot
    · rw [hother t ht]
      exact h.calm t
  case works_active =>
    intro t hw
    by_cases ht : t = n.slot
    · rw [ht] at hw ⊢
      rw [hself]
      exact hk.active.trans (h.works_active n.slot (hworks hw))
    · rw [hother t ht]
      exact h.works_active t ((hwork t ht).mp hw)
  case fits =>
    intro t st hl
    by_cases ht : t = n.slot
    · rw [ht] at hl ⊢
      rw [hself, propext (iff_false_intro hidle)]
      exact hfits st hl
    · rw [hother t ht, propext (hbusy t ht)]
      exact h.fits t st ((hlock t ht st).mp hl)
  case awake =>
    have hwake := h.awake
    have hlen := hperm.length_eq
    rw [List.length_cons] at hlen
    show min w.jobQueue.length (maxConcurrentJobs - rest.length) ≤ w.jobSem + 1
    omega

end

@[simp] theorem Stage.wake_byJobmgr (st : Stage) : st.wake.byJobmgr = st.byJobmgr := by
  rcases st with _ | _ | ⟨g, c⟩ | _ | _ | _ | _ | _ | _ | _ | _ | _ | _ | _ | _ | _ | _ | _ | _
  all_goals first | rfl | (cases c <;> rfl)

theorem signal_lock_self (hl : w.lock = some (s, st)) : (w.signal s).lock = some (s, st.wake) := by
  simp [World.signal, hl]

theorem sameLock_signal : SameLock s (w.signal s).lock w.lock := by
  intro t ht st
  cases hl : w.lock with
  | none => simp [World.signal, hl]
  | some x =>
    by_cases hx : x.1 = s
    · simp only [World.signal, hl, Option.map_some, hx, if_true, Option.some.injEq]
      constructor
      · rintro ⟨⟩
        exact absurd rfl ht
      · rintro rfl
        exact absurd hx ht
    · simp [World.signal, hl, hx]

theorem signal_byJobmgr (b : Bool) :
    (∃ st, (w.moved s p (w.signal s).lock).lock = some (s, st) ∧ st.byJobmgr = b) ↔
      ∃ st, w.lock = some (s, st) ∧ st.byJobmgr = b := by
  constructor
  · rintro ⟨st, hst, hby⟩
    obtain ⟨x, hl, hx⟩ := Option.map_eq_some_iff.mp hst
    split at hx
    · next heq =>
      cases hx
      rw [Stage.wake_byJobmgr] at hby
      exact ⟨x.2, by rw [hl, ← heq], hby⟩
    · next hne =>
      cases hx
      exact absurd rfl hne
  · rintro ⟨st, hst, hby⟩
    exact ⟨st.wake, signal_lock_self hst, by rwa [Stage.wake_byJobmgr]⟩

theorem works_signal : (w.moved s p (w.signal s).lock).works s ↔ w.works s := signal_byJobmgr true

theorem destroys_signal : (w.moved s p (w.signal s).lock).destroys s ↔ w.destroys s := signal_byJobmgr false

theorem called_signal (hj : p.decodeJob = (w.session s).decodeJob) :
    (w.moved s p (w.signal s).lock).called = w.called := by
  unfold World.called
  cases hl : w.lock with
  | none => simp [World.signal, hl]
  | some x =>
    obtain ⟨t, st⟩ := x
    by_cases ht : t = s
    · subst ht
      rw [moved_lock, signal_lock_self hl]
      rcases st with _ | _ | ⟨g, c⟩ | _ | _ | _ | _ | _ | _ | _ | _ | _ | _ | _ | _ | _ | _ | _ | _
      all_goals first | rfl | (cases c <;> rfl) | skip
      simp [Stage.wake, hj]
    · have hsame : (w.signal s).lock = some (t, st) := by simp [World.signal, hl, ht]
      rw [moved_lock, hsame]
      cases st
      case jobDone => exact congrArg (fun q => [q.decodeJob.serial]) (moved_session_of_ne ht)
      all_goals rfl

theorem called_kept (hj : p.decodeJob = (w.session s).decodeJob) : (w.moved s p w.lock).called = w.called := by
  unfold World.called
  rw [moved_lock]
  cases hl : w.lock with
  | none => rfl
  | some x =>
    obtain ⟨t, st⟩ := x
    cases st
    case jobDone =>
      by_cases ht : t = s
      · subst ht
        simp [hj]
      · simp [moved_session_of_ne ht]
    all_goals rfl

namespace Session

variable {s : Slot} {busy : Prop} {st : Stage} {e : OmxEvent}

theorem Fits.wake (hf : p.Fits s busy st) (henc : q.encoding = p.encoding) (hsilent : q.silent = p.silent)
    (hhandle : q.omxHandle = p.omxHandle) (hid : q.sessionId = p.sessionId) (hpending : q.eventPending = false)
    (hstate : q.stateChangePending = true → p.stateChangePending = true ∧
      (.command .stateSet ∈ p.owed → .command .stateSet ∈ q.owed)) : q.Fits s busy st.wake := by
  have hnot : ∀ {P : Prop}, q.eventPending = true → P := fun hp => by rw [hpending] at hp; cases hp
  cases st with
  | begin => exact ⟨hf.1, henc.trans hf.2.1, hsilent.trans hf.2.2⟩
  | configPorts => exact ⟨hf.1, henc.trans hf.2.1, hsilent.trans hf.2.2⟩
  | setEncoding => exact ⟨hf.1, henc.trans hf.2.1, hsilent.trans hf.2.2⟩
  | change g c =>
    obtain ⟨he, hs, hc, hg⟩ := hf
    have hg' : if g.byJobmgr then busy else q.omxHandle = true ∧ slotOf q.sessionId = s := by
      rw [hhandle, hid]
      exact hg
    cases c with
    | exec => exact ⟨henc.trans he, hsilent.trans hs, fun hp => (hstate hp).2 (hc (hstate hp).1), hg'⟩
    | getState => exact ⟨henc.trans he, hsilent.trans hs, trivial, hg'⟩
    | sendCommand => exact ⟨henc.trans he, hsilent.trans hs, trivial, hg'⟩
    | waiting => exact ⟨henc.trans he, hsilent.trans hs, trivial, hg'⟩
    | woken => exact ⟨henc.trans he, hsilent.trans hs, trivial, hg'⟩
  | request k => exact ⟨henc.trans hf.1, hsilent.trans hf.2⟩
  | call k => exact ⟨henc.trans hf.1, hsilent.trans hf.2⟩
  | portDefinition => exact ⟨henc.trans hf.1, hsilent.trans hf.2⟩
  | fillThisBuffer => exact ⟨henc.trans hf.1, hsilent.trans hf.2⟩
  | useBuffers => exact ⟨henc.trans hf.1, hsilent.trans hf.2.1, hnot⟩
  | check k =>
    obtain ⟨hbusy, hs, hp, -⟩ := hf
    refine ⟨fun hb => henc.trans (hbusy hb), fun he => hsilent.trans (hs (henc.symm.trans he)), ?_, hnot⟩
    rintro (hk | hk)
    · exact henc.trans (hp (.inl hk))
    · exact hnot hk
  | waiting k =>
    obtain ⟨he, hs, -⟩ := hf
    exact ⟨fun _ => henc.trans he, fun _ => hsilent.trans hs, fun _ => henc.trans he⟩
  | woken k =>
    obtain ⟨hbusy, hs, hk⟩ := hf
    exact ⟨fun hb => henc.trans (hbusy hb), fun he => hsilent.trans (hs (henc.symm.trans he)),
      fun hd => henc.trans (hk hd)⟩
  | callback => exact hf
  | jobDone => exact hf
  | abortWaiting d => exact hf
  | abortWoken d => exact hf
  | teardown => exact ⟨henc.trans hf.1, hsilent.trans hf.2.1, (congrArg slotOf hid).trans hf.2.2⟩
  | freeHandle => exact ⟨henc.trans hf.1, hhandle.trans hf.2.1, (congrArg slotOf hid).trans hf.2.2⟩
  | removeSession => exact ⟨henc.trans hf.1, (congrArg slotOf hid).trans hf.2⟩

theorem Fits.spurious (hf : p.Fits s busy st) : p.Fits s busy st.wake := by
  cases st with
  | change g c =>
    cases c with
    | waiting => exact ⟨hf.1, hf.2.1, trivial, hf.2.2.2⟩
    | _ => exact hf
  | waiting k => exact ⟨fun _ => hf.1, fun _ => hf.2.1, fun _ => hf.1⟩
  | _ => exact hf

theorem Fits.error (hf : p.Fits s busy st) (hstops : p.stops st = true) (henc : p.encoding = false) :
    (p.hear .error).Fits s busy st.wake := by
  have hnot : ∀ {P : Prop}, p.encoding = true → P := fun he => by rw [henc] at he; cases he
  cases st with
  | check k =>
    have hpending : p.eventPending = false := by
      cases k with
      | disable => cases hstops
      | settings => simpa [stops] using hstops
      | enable => simpa [stops] using hstops
    obtain ⟨hbusy, -, hp, -⟩ := hf
    exact ⟨hbusy, hnot, hp, fun he => absurd (hpending.symm.trans he) nofun⟩
  | waiting k => exact hnot hf.1
  | woken k => exact ⟨hf.1, hnot, hf.2.2⟩
  | callback => exact hf
  | jobDone => exact hf
  | freeHandle => exact hf
  | removeSession => exact hf
  | _ => cases hstops

theorem Fits.ended (hf : p.Fits s busy st) (hstops : p.stops st = true) (henc : p.encoding = true) :
    { p.hear .error with encoding := false }.Fits s False st.wake := by
  have hnot : ∀ {P : Prop}, p.encoding = false → P := fun he => by rw [henc] at he; cases he
  cases st with
  | check k =>
    have hpending : p.eventPending = false := by
      cases k with
      | disable => cases hstops
      | settings => simpa [stops] using hstops
      | enable => simpa [stops] using hstops
    have hk : k ≠ .disable := fun hk => by
      subst hk
      cases hstops
    refine ⟨False.elim, nofun, ?_, fun he => ?_⟩
    · rintro (hd | he)
      · exact absurd hd hk
      · exact absurd (hpending.symm.trans he) nofun
    · exact absurd (hpending.symm.trans he) nofun
  | waiting k =>
    have hk : k ≠ .disable := fun hk => by
      subst hk
      cases hstops
    exact ⟨False.elim, nofun, fun hd => absurd hd hk⟩
  | woken k =>
    have hk : k ≠ .disable := fun hk => by
      subst hk
      cases hstops
    exact ⟨False.elim, nofun, fun hd => absurd hd hk⟩
  | callback => exact hnot (by simpa [stops] using hstops)
  | jobDone => exact hnot (by simpa [stops] using hstops)
  | freeHandle => exact hnot hf.1
  | removeSession => exact hnot hf.1
  | _ => cases hstops

end Session

end Jpeg.Decode
