import Mathlib.Data.List.Perm.Subperm
import Wt88047.Jpeg.JpegInterface

/-! What the start and the abort of jobs, the job manager and the callbacks leave alone: the
clients, the session chains and the handles. -/

namespace Jpeg

open World

structure Session.Kept (p p' : Session) : Prop where
  clientHdl : p'.clientHdl = p.clientHdl
  sessionId : p'.sessionId = p.sessionId
  params : p'.params = p.params
  omxHandle : p'.omxHandle = p.omxHandle
  active : p'.active = p.active
  nextSession : p'.nextSession = p.nextSession
  queues : p'.queues = p.queues

theorem Session.Kept.refl (p : Session) : p.Kept p := ⟨rfl, rfl, rfl, rfl, rfl, rfl, rfl⟩

theorem Session.Kept.trans {p p' p'' : Session} (h : p.Kept p') (h' : p'.Kept p'') : p.Kept p'' where
  clientHdl := h'.clientHdl.trans h.clientHdl
  sessionId := h'.sessionId.trans h.sessionId
  params := h'.params.trans h.params
  omxHandle := h'.omxHandle.trans h.omxHandle
  active := h'.active.trans h.active
  nextSession := h'.nextSession.trans h.nextSession
  queues := h'.queues.trans h.queues

structure JobFrame (w w' : World) : Prop where
  opened : w'.opened = w.opened
  numClients : w'.numClients = w.numClients
  client : w'.client = w.client
  numSessions : w'.numSessions = w.numSessions
  nextHandle : w'.nextHandle = w.nextHandle
  nextQueues : w'.nextQueues = w.nextQueues
  issued : w'.issued = w.issued
  session : ∀ s, (w.session s).Kept (w'.session s)
  deinits : ∀ q, (w'.queues q).handlesDeinit = (w.queues q).handlesDeinit ∧
    (w'.queues q).outBufsDeinit = (w.queues q).outBufsDeinit
  released : ∀ h, (w'.component h).freed = (w.component h).freed ∧
    (w'.component h).freeHandle = (w.component h).freeHandle
  unheld : ∀ h, (∀ s, (w.session s).omxHandle ≠ some h) → w'.component h = w.component h

variable {s : Slot}

namespace JobFrame

variable {w w' w'' : World}

theorem refl (w : World) : JobFrame w w :=
  ⟨rfl, rfl, rfl, rfl, rfl, rfl, rfl, fun _ => .refl _, fun _ => ⟨rfl, rfl⟩, fun _ => ⟨rfl, rfl⟩,
    fun _ _ => rfl⟩

theorem trans (h : JobFrame w w') (h' : JobFrame w' w'') : JobFrame w w'' where
  opened := h'.opened.trans h.opened
  numClients := h'.numClients.trans h.numClients
  client := h'.client.trans h.client
  numSessions := h'.numSessions.trans h.numSessions
  nextHandle := h'.nextHandle.trans h.nextHandle
  nextQueues := h'.nextQueues.trans h.nextQueues
  issued := h'.issued.trans h.issued
  session s := (h.session s).trans (h'.session s)
  deinits q := ⟨(h'.deinits q).1.trans (h.deinits q).1, (h'.deinits q).2.trans (h.deinits q).2⟩
  released k := ⟨(h'.released k).1.trans (h.released k).1, (h'.released k).2.trans (h.released k).2⟩
  unheld k hk := (h'.unheld k fun s => by rw [(h.session s).omxHandle]; exact hk s).trans (h.unheld k hk)

theorem setSession {p : Session} (h : (w.session s).Kept p) : JobFrame w (w.setSession s p) := by
  refine ⟨rfl, rfl, rfl, rfl, rfl, rfl, rfl, fun t => ?_, fun _ => ⟨rfl, rfl⟩, fun _ => ⟨rfl, rfl⟩,
    fun _ _ => rfl⟩
  rw [session_setSession]
  by_cases ht : t = s
  · rw [if_pos ht, ht]
    exact h
  · rw [if_neg ht]
    exact .refl _

theorem onSession {f : Session → Session} (h : ∀ p : Session, p.Kept (f p)) :
    JobFrame w (w.onSession s f) :=
  setSession (h _)

theorem onQueues {q : Nat} {f : SessionQueues → SessionQueues}
    (h : ∀ x : SessionQueues,
      (f x).handlesDeinit = x.handlesDeinit ∧ (f x).outBufsDeinit = x.outBufsDeinit) :
    JobFrame w (w.onQueues q f) := by
  refine ⟨rfl, rfl, rfl, rfl, rfl, rfl, rfl, fun _ => .refl _, fun r => ?_, fun _ => ⟨rfl, rfl⟩,
    fun _ _ => rfl⟩
  rw [queues_onQueues]
  by_cases hr : r = q
  · rw [if_pos hr, hr]
    exact h _
  · rw [if_neg hr]
    exact ⟨rfl, rfl⟩

theorem setComponent {k : Nat} {c : Component} (hs : (w.session s).omxHandle = some k)
    (h : c.freed = (w.component k).freed ∧ c.freeHandle = (w.component k).freeHandle) :
    JobFrame w (w.setComponent k c) := by
  refine ⟨rfl, rfl, rfl, rfl, rfl, rfl, rfl, fun _ => .refl _, fun _ => ⟨rfl, rfl⟩, fun j => ?_,
    fun j hj => ?_⟩
  · rw [component_setComponent]
    by_cases hj : j = k
    · rw [if_pos hj, hj]
      exact h
    · rw [if_neg hj]
      exact ⟨rfl, rfl⟩
  · rw [component_setComponent, if_neg]
    rintro rfl
    exact hj s hs

theorem deqHandle (w : World) (q : Nat) : JobFrame w (w.deqHandle q) := onQueues fun _ => ⟨rfl, rfl⟩

theorem deqOutBuf (w : World) (q : Nat) : JobFrame w (w.deqOutBuf q) := onQueues fun _ => ⟨rfl, rfl⟩

theorem enqHandle (w : World) (q : Nat) (s : Slot) : JobFrame w (w.enqHandle q s) :=
  onQueues fun _ => ⟨rfl, rfl⟩

theorem enqOutBuf (w : World) (q i : Nat) : JobFrame w (w.enqOutBuf q i) :=
  onQueues fun _ => ⟨rfl, rfl⟩

end JobFrame

theorem jobFrame_jobs (w : World) (work : WorkBufs) (sem : Nat) (todo ongoing : List JobNode)
    (enc : Option Slot) (accepted : Nat) (answers : List Answer) (aborted : List Nat) :
    JobFrame w { w with
      work := work, jobSem := sem, jobQueue := todo, ongoingJobQ := ongoing, inEncode := enc
      accepted := accepted, answers := answers, aborted := aborted } :=
  ⟨rfl, rfl, rfl, rfl, rfl, rfl, rfl, fun _ => .refl _, fun _ => ⟨rfl, rfl⟩, fun _ => ⟨rfl, rfl⟩,
    fun _ _ => rfl⟩

theorem removeJobs_frame (w : World) (id : Nat) : JobFrame w (removeJobs w id) := jobFrame_jobs ..

def tickets (w : World) : List (Nat × Nat) :=
  (w.jobQueue ++ w.ongoingJobQ).map fun n => (n.job.sessionId, n.jobId)

/-- The frame of what starts no job: none is queued, and the sessions keep their work buffers and
their history numbers. -/
structure Steady (w w' : World) : Prop extends JobFrame w w' where
  work : w'.work = w.work
  todo : w'.jobQueue ⊆ w.jobQueue
  tickets : (tickets w').Subperm (tickets w)
  own : ∀ s, (w'.session s).jobHist = (w.session s).jobHist ∧
    (w'.session s).workBuffer = (w.session s).workBuffer

namespace Steady

variable {w w' w'' : World}

theorem refl (w : World) : Steady w w :=
  ⟨.refl w, rfl, List.Subset.refl _, List.Subperm.refl _, fun _ => ⟨rfl, rfl⟩⟩

theorem trans (h : Steady w w') (h' : Steady w' w'') : Steady w w'' where
  toJobFrame := h.toJobFrame.trans h'.toJobFrame
  work := h'.work.trans h.work
  todo := List.Subset.trans h'.todo h.todo
  tickets := h'.tickets.trans h.tickets
  own s := ⟨(h'.own s).1.trans (h.own s).1, (h'.own s).2.trans (h.own s).2⟩

theorem setSession {p : Session} (hk : (w.session s).Kept p) (hh : p.jobHist = (w.session s).jobHist)
    (hb : p.workBuffer = (w.session s).workBuffer) : Steady w (w.setSession s p) := by
  refine ⟨.setSession hk, rfl, List.Subset.refl _, List.Subperm.refl _, fun t => ?_⟩
  rw [session_setSession]
  by_cases ht : t = s
  · rw [if_pos ht, ht]
    exact ⟨hh, hb⟩
  · rw [if_neg ht]
    exact ⟨rfl, rfl⟩

theorem onSession {f : Session → Session}
    (h : ∀ p : Session, p.Kept (f p) ∧ (f p).jobHist = p.jobHist ∧ (f p).workBuffer = p.workBuffer) :
    Steady w (w.onSession s f) :=
  setSession (h _).1 (h _).2.1 (h _).2.2

theorem of_frame (h : JobFrame w w') (hw : w'.work = w.work) (hq : w'.jobQueue = w.jobQueue)
    (ho : w'.ongoingJobQ = w.ongoingJobQ) (hs : w'.session = w.session) : Steady w w' := by
  refine ⟨h, hw, by rw [hq]; exact List.Subset.refl _, ?_, fun s => by rw [hs]; exact ⟨rfl, rfl⟩⟩
  rw [Jpeg.tickets, hq, ho]
  exact List.Subperm.refl _

theorem jobs {sem : Nat} {todo ongoing : List JobNode} {enc : Option Slot} {answers : List Answer}
    {aborted : List Nat} (hq : todo.Sublist w.jobQueue) (ho : ongoing.Sublist w.ongoingJobQ) :
    Steady w { w with
      jobSem := sem, jobQueue := todo, ongoingJobQ := ongoing, inEncode := enc, answers := answers
      aborted := aborted } :=
  ⟨jobFrame_jobs .., rfl, hq.subset, ((hq.append ho).map _).subperm, fun _ => ⟨rfl, rfl⟩⟩

end Steady

theorem jobDone_steady {o : Done} {w w' : World} (h : jobDone o s w = some w') : Steady w w' := by
  unfold jobDone at h
  dsimp only at h
  cases hq : (w.session s).queues with
  | none => rw [hq] at h; cases h
  | some q =>
    rw [hq] at h
    obtain rfl := Option.some.inj h
    refine Steady.trans ?_ (Steady.jobs (List.Sublist.refl _) (List.Sublist.refl _))
    have hremoved : Steady w ((w.removeOngoing (w.session s).jobId).onSession s
        fun p => { p with encoding := false }) :=
      (Steady.jobs (List.Sublist.refl _) List.eraseP_sublist).trans
        (.onSession fun p => ⟨by constructor <;> rfl, rfl, rfl⟩)
    have hhandle : ∀ v : World, Steady v (v.enqHandle q s) :=
      fun v => .of_frame (.enqHandle ..) rfl rfl rfl rfl
    have hbuf : ∀ (v : World) i, Steady v (v.enqOutBuf q i) :=
      fun v i => .of_frame (.enqOutBuf ..) rfl rfl rfl rfl
    split_ifs
    · exact (hremoved.trans (hhandle _)).trans (hbuf ..)
    · exact hremoved.trans (hbuf ..)
    · exact hremoved.trans (hhandle _)
    · exact hremoved

theorem callback_steady (status : JobStatus) (s : Slot) (w : World) :
    Steady w (callback status s w) := by
  unfold callback
  dsimp only
  split_ifs
  · exact .jobs (List.Sublist.refl _) (List.Sublist.refl _)
  · exact .refl _

theorem configureSession_steady (o : Configure) {h : Nat} {w : World}
    (hh : (w.session s).omxHandle = some h) : Steady w (configureSession o s h w).1 := by
  obtain ⟨p, f, hs⟩ := sessionConfigure_session o (w.session s) (w.component h)
  have hc := sessionConfigure_freed o (w.session s) (w.component h)
  have hset : ∀ x : Session, (w.session s).Kept x → x.jobHist = (w.session s).jobHist →
      x.workBuffer = (w.session s).workBuffer → Steady w ((w.setSession s x).setComponent h
        (sessionConfigure o (w.session s) (w.component h)).2.1) := by
    intro x hkept hhist hbuf
    refine (Steady.setSession hkept hhist hbuf).trans
      (.of_frame (JobFrame.setComponent (s := s) ?_ hc) rfl rfl rfl rfl)
    rw [session_setSession, if_pos rfl, hkept.omxHandle]
    exact hh
  unfold configureSession
  dsimp only
  rw [hs]
  split_ifs
  · exact hset _ ⟨rfl, rfl, rfl, rfl, rfl, rfl, rfl⟩ rfl rfl
  · exact hset _ ⟨rfl, rfl, rfl, rfl, rfl, rfl, rfl⟩ rfl rfl

theorem beginEncode_steady (o : TakeUp) (s : Slot) (w : World) :
    Steady w (beginEncode o s w).1 := by
  have hreset : Steady w (w.onSession s fun p => { p with abortState := .none, encoding := false }) :=
    .onSession fun p => ⟨by constructor <;> rfl, rfl, rfl⟩
  unfold beginEncode
  dsimp only
  split
  · rename_i hh
    exact hreset.trans (configureSession_steady _ hh)
  · exact hreset

theorem startEncode_frame {o : TakeUp} {n : JobNode} {w w' : World}
    (h : startEncode o n s w = some w') : JobFrame w w' := by
  unfold startEncode at h
  dsimp only at h
  have hbind : JobFrame w (bindJob n s w) :=
    (jobFrame_jobs ..).trans (.onSession fun p => by constructor <;> rfl)
  have hbegin := hbind.trans (beginEncode_steady o s _).toJobFrame
  split_ifs at h
  · exact (jobDone_steady h).toJobFrame
  · obtain rfl := Option.some.inj h
    refine hbegin.trans (JobFrame.trans ?_ (jobFrame_jobs ..))
    exact .onSession fun p => by constructor <;> rfl
  · exact hbegin.trans ((callback_steady ..).trans (jobDone_steady h)).toJobFrame

theorem processEncodingJob_frame {o : TakeUp} {n : JobNode} {w w' : World}
    (h : processEncodingJob o n w = some w') : JobFrame w w' := by
  unfold processEncodingJob at h
  dsimp only at h
  split at h
  · obtain rfl := Option.some.inj h
    exact .refl _
  split at h
  · cases h
  split at h
  · obtain rfl := Option.some.inj h
    split_ifs
    · exact jobFrame_jobs ..
    · exact .refl _
  rename_i q _ _ s _ _
  have htaken : JobFrame w ((w.deqHandle q).onSession s fun p => { p with autoOutBuf := false }) :=
    (JobFrame.deqHandle w q).trans (.onSession fun p => by constructor <;> rfl)
  refine htaken.trans ?_
  split_ifs at h
  · exact startEncode_frame h
  split at h
  · cases h
  split at h
  · obtain rfl := Option.some.inj h
    exact .deqOutBuf ..
  · exact ((JobFrame.deqOutBuf ..).trans (.onSession fun p => by constructor <;> rfl)).trans
      (startEncode_frame h)

theorem jobmgrWake_frame {o : TakeUp} {w w' : World} (h : jobmgrWake o w = some w') :
    JobFrame w w' := by
  unfold jobmgrWake at h
  dsimp only at h
  split_ifs at h
  · obtain rfl := Option.some.inj h
    exact jobFrame_jobs ..
  · split at h
    · obtain rfl := Option.some.inj h
      exact jobFrame_jobs ..
    · refine JobFrame.trans ?_ (processEncodingJob_frame h)
      exact jobFrame_jobs ..

theorem encodeSubmit_steady {taken : Bool} {o : Done} {w w' : World}
    (h : encodeSubmit taken o w = some w') : Steady w w' := by
  unfold encodeSubmit at h
  split at h
  · cases h
  have hleft : Steady w { w with inEncode := none } :=
    .jobs (List.Sublist.refl _) (List.Sublist.refl _)
  split_ifs at h
  · obtain rfl := Option.some.inj h
    exact hleft
  · exact (hleft.trans (callback_steady ..)).trans (jobDone_steady h)

theorem fbd_steady {o : Done} {w w' : World} (h : fbd s o w = some w') : Steady w w' := by
  unfold fbd at h
  dsimp only at h
  split_ifs at h
  · obtain rfl := Option.some.inj h
    exact .onSession fun p => ⟨by constructor <;> rfl, rfl, rfl⟩
  · exact (callback_steady ..).trans (jobDone_steady h)
  · obtain rfl := Option.some.inj h
    exact .refl _

theorem eventHandler_steady {e : OmxEvent} {o : Done} {w w' : World}
    (h : eventHandler s e o w = some w') : Steady w w' := by
  unfold eventHandler at h
  by_cases hh : (w.session s).omxHandle = none
  · rw [if_pos hh] at h
    cases h
  rw [if_neg hh] at h
  by_cases hi : (w.session s).abortState = .init
  · rw [if_pos hi] at h
    obtain rfl := Option.some.inj h
    exact .onSession fun p => ⟨by constructor <;> rfl, rfl, rfl⟩
  rw [if_neg hi] at h
  cases e with
  | error e =>
    have hflag : Steady w (w.onSession s fun p => { p with errorFlag := e }) :=
      .onSession fun p => ⟨by constructor <;> rfl, rfl, rfl⟩
    dsimp only at h
    by_cases hp : (w.session s).encoding = true
    · rw [if_pos hp] at h
      exact (hflag.trans (callback_steady ..)).trans (jobDone_steady h)
    · rw [if_neg hp] at h
      obtain rfl := Option.some.inj h
      exact hflag
  | cmdComplete =>
    obtain rfl := Option.some.inj h
    exact .onSession fun p => ⟨by constructor <;> rfl, rfl, rfl⟩

theorem sessionAbort_steady (chain : List Slot) (w : World) : Steady w (sessionAbort chain w) := by
  induction chain generalizing w with
  | nil => exact .refl _
  | cons s rest ih =>
    rw [sessionAbort]
    split_ifs
    · exact .refl _
    · refine Steady.trans ?_ (ih _)
      exact .onSession fun p => ⟨by constructor <;> rfl, rfl, rfl⟩

theorem sessionAbort_frame (chain : List Slot) (w : World) : JobFrame w (sessionAbort chain w) :=
  (sessionAbort_steady chain w).toJobFrame

theorem startJob_frame (count : Nat) (job : EncodeJob) (o : Start) (w : World) :
    JobFrame w (startJob count job o w).1 := by
  unfold startJob
  dsimp only
  have hbuf : ∀ b p, JobFrame w (setWorkBufs (slotOf job.sessionId) b p w) := fun b p =>
    JobFrame.trans (jobFrame_jobs ..) (.onSession fun p => by constructor <;> rfl)
  have hcount : ∀ v, JobFrame v (countJob (slotOf job.sessionId) v) := fun v =>
    .onSession fun p => by constructor <;> rfl
  split_ifs
  · exact .refl _
  · exact hbuf _ _
  · exact hbuf _ _
  · exact hbuf _ _
  · exact (hbuf _ _).trans (hcount _)
  · exact ((hbuf _ _).trans (hcount _)).trans (jobFrame_jobs ..)

theorem abortJob_steady (id : Nat) (w : World) : Steady w (abortJob id w).1 := by
  have hongoing : ∀ a, Steady w
      { w with ongoingJobQ := w.ongoingJobQ.eraseP (·.jobId = id), aborted := a } :=
    fun _ => .jobs (List.Sublist.refl _) List.eraseP_sublist
  unfold abortJob
  split
  · exact .jobs List.eraseP_sublist (List.Sublist.refl _)
  split
  · exact .refl _
  split
  · exact hongoing _
  · exact (hongoing _).trans (sessionAbort_steady ..)

end Jpeg
