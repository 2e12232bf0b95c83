import Wt88047.Jpeg.SessionChains

/-! What each step does to the jobs: a job is accepted, taken up by a session, answered by it or
taken out of the queue, and every other step moves none. -/

namespace Jpeg

open World

def Session.binding (p : Session) : Nat × EncodeJob := (p.jobId, p.encodeJob)

def JobNode.binding (n : JobNode) : Nat × EncodeJob := (n.jobId, n.job)

structure Session.SameJob (p p' : Session) : Prop where
  binding : p'.binding = p.binding
  autoOutBuf : p'.autoOutBuf = p.autoOutBuf

def Session.AtWork (p : Session) : Prop := p.encoding = true ∧ p.abortState = .none

structure Quiet (w w' : World) : Prop where
  frame : JobFrame w w'
  ongoing : w'.ongoingJobQ = w.ongoingJobQ
  answers : w'.answers = w.answers
  queues : w'.queues = w.queues
  session : ∀ s, (w.session s).SameJob (w'.session s)
  atWork : ∀ s, (w.session s).AtWork → (w'.session s).AtWork

structure Unmoved (w w' : World) : Prop extends Quiet w w' where
  todo : w'.jobQueue = w.jobQueue
  accepted : w'.accepted = w.accepted
  aborted : w'.aborted = w.aborted
  jobSem : w'.jobSem = w.jobSem

structure Touched (w w' : World) (s : Slot) : Prop where
  frame : JobFrame w w'
  todo : w'.jobQueue = w.jobQueue
  ongoing : w'.ongoingJobQ = w.ongoingJobQ
  accepted : w'.accepted = w.accepted
  answers : w'.answers = w.answers
  aborted : w'.aborted = w.aborted
  queues : w'.queues = w.queues
  self : (w.session s).SameJob (w'.session s)
  other : ∀ t, t ≠ s → w'.session t = w.session t

structure Taken (w w' : World) (n : JobNode) (job : EncodeJob) (s : Slot) (q : Nat) (auto : Bool) :
    Prop where
  frame : JobFrame w w'
  todo : w.jobQueue = n :: w'.jobQueue
  ongoing : w'.ongoingJobQ = w.ongoingJobQ ++ [{ n with job := job }]
  origin : job.sessionId = n.job.sessionId ∧ job.serial = n.job.serial
  accepted : w'.accepted = w.accepted
  answers : w'.answers = w.answers
  aborted : w'.aborted = w.aborted
  handles : (w.queues q).handles = s :: (w'.queues q).handles
  outBufs : (w.queues q).outBufs =
    (if auto then [(job.dstIndex + 1).toNat] else []) ++ (w'.queues q).outBufs
  queues : ∀ r, r ≠ q → w'.queues r = w.queues r
  self : (w'.session s).binding = (n.jobId, job) ∧ (w'.session s).autoOutBuf = auto
  other : ∀ t, t ≠ s → w'.session t = w.session t

structure Finished (w w' : World) (s : Slot) (q : Nat) (o : Done) : Prop where
  frame : JobFrame w w'
  todo : w'.jobQueue = w.jobQueue
  ongoing : w'.ongoingJobQ = w.ongoingJobQ.eraseP (·.jobId = (w.session s).jobId)
  accepted : w'.accepted = w.accepted
  answers : w'.answers.map (·.serial) =
    w.answers.map (·.serial) ++ [(w.session s).encodeJob.serial]
  aborted : w'.aborted = w.aborted
  handles : (w'.queues q).handles = (w.queues q).handles ++ [s]
  outBufs : o.outBuf = true → (w'.queues q).outBufs = (w.queues q).outBufs ++
    if (w.session s).autoOutBuf then [((w.session s).encodeJob.dstIndex + 1).toNat] else []
  queues : ∀ r, r ≠ q → w'.queues r = w.queues r
  self : (w.session s).SameJob (w'.session s)
  other : ∀ t, t ≠ s → w'.session t = w.session t
  posted : 0 < w'.jobSem

theorem Session.SameJob.refl (p : Session) : p.SameJob p := ⟨rfl, rfl⟩

namespace Touched

variable {w w' w'' : World} {s : Slot}

theorem trans (h : Touched w w' s) (h' : Touched w' w'' s) : Touched w w'' s where
  frame := h.frame.trans h'.frame
  todo := h'.todo.trans h.todo
  ongoing := h'.ongoing.trans h.ongoing
  accepted := h'.accepted.trans h.accepted
  answers := h'.answers.trans h.answers
  aborted := h'.aborted.trans h.aborted
  queues := h'.queues.trans h.queues
  self := ⟨h'.self.binding.trans h.self.binding, h'.self.autoOutBuf.trans h.self.autoOutBuf⟩
  other t ht := (h'.other t ht).trans (h.other t ht)

theorem setSession {p : Session} (hk : (w.session s).Kept p) (hp : (w.session s).SameJob p) :
    Touched w (w.setSession s p) s := by
  refine ⟨.setSession hk, rfl, rfl, rfl, rfl, rfl, rfl, ?_, fun t ht => ?_⟩
  · rw [session_setSession, if_pos rfl]
    exact hp
  · rw [session_setSession, if_neg ht]

theorem quiet (h : Touched w w' s) (hs : (w.session s).AtWork → (w'.session s).AtWork) :
    Quiet w w' := by
  refine ⟨h.frame, h.ongoing, h.answers, h.queues, fun t => ?_, fun t ht => ?_⟩
  · by_cases hts : t = s
    · rw [hts]
      exact h.self
    · rw [h.other t hts]
      exact .refl _
  · by_cases hts : t = s
    · rw [hts] at ht ⊢
      exact hs ht
    · rw [h.other t hts]
      exact ht

end Touched

theorem Taken.touched {w v w' : World} {n : JobNode} {job : EncodeJob} {s : Slot} {q : Nat}
    {auto : Bool} (h : Taken w v n job s q auto) (h' : Touched v w' s) :
    Taken w w' n job s q auto where
  frame := h.frame.trans h'.frame
  todo := by rw [h'.todo]; exact h.todo
  ongoing := h'.ongoing.trans h.ongoing
  origin := h.origin
  accepted := h'.accepted.trans h.accepted
  answers := h'.answers.trans h.answers
  aborted := h'.aborted.trans h.aborted
  handles := by rw [h'.queues]; exact h.handles
  outBufs := by rw [h'.queues]; exact h.outBufs
  queues r hr := by rw [h'.queues]; exact h.queues r hr
  self := ⟨h'.self.binding.trans h.self.1, h'.self.autoOutBuf.trans h.self.2⟩
  other t ht := (h'.other t ht).trans (h.other t ht)

theorem quiet_jobs (w : World) (work : WorkBufs) (sem : Nat) (todo : List JobNode)
    (enc : Option Slot) (accepted : Nat) (aborted : List Nat) :
    Quiet w { w with
      work := work, jobSem := sem, jobQueue := todo, inEncode := enc, accepted := accepted
      aborted := aborted } :=
  ⟨jobFrame_jobs .., rfl, rfl, rfl, fun _ => .refl _, fun _ h => h⟩

namespace Quiet

variable {w w' w'' : World}

theorem trans (h : Quiet w w') (h' : Quiet w' w'') : Quiet w w'' where
  frame := h.frame.trans h'.frame
  ongoing := h'.ongoing.trans h.ongoing
  answers := h'.answers.trans h.answers
  queues := h'.queues.trans h.queues
  session s := ⟨(h'.session s).binding.trans (h.session s).binding,
    (h'.session s).autoOutBuf.trans (h.session s).autoOutBuf⟩
  atWork s hs := h'.atWork s (h.atWork s hs)

theorem onSession {s : Slot} {f : Session → Session} (hk : ∀ p : Session, p.Kept (f p))
    (hp : ∀ p : Session, p.SameJob (f p)) (hw : (w.session s).AtWork → (f (w.session s)).AtWork) :
    Quiet w (w.onSession s f) := by
  refine (Touched.setSession (hk _) (hp _)).quiet fun h => ?_
  rw [session_setSession, if_pos rfl]
  exact hw h

end Quiet

theorem Unmoved.refl (w : World) : Unmoved w w :=
  ⟨⟨.refl _, rfl, rfl, rfl, fun _ => .refl _, fun _ h => h⟩, rfl, rfl, rfl, rfl⟩

theorem finished {o : Done} {s : Slot} {q : Nat} {status : JobStatus} {w w' : World}
    (hq : (w.session s).queues = some q) (hcb : (w.session s).params.jpegCb = true)
    (ho : o.handle = true) (h : jobDone o s (callback status s w) = some w') :
    Finished w w' s q o := by
  have hframe := ((callback_steady status s w).trans (jobDone_steady h)).toJobFrame
  unfold callback at h
  rw [if_pos hcb] at h
  unfold jobDone at h
  dsimp only at h
  rw [hq] at h
  obtain rfl := Option.some.inj h
  rw [if_pos ho] at hframe ⊢
  have hsession : ∀ v : World, v.session = (w.onSession s fun p => { p with encoding := false }).session →
      (w.session s).SameJob (v.session s) ∧ ∀ t, t ≠ s → v.session t = w.session t := by
    intro v hv
    rw [hv]
    refine ⟨?_, fun t ht => ?_⟩
    · rw [session_onSession, if_pos rfl]
      exact ⟨rfl, rfl⟩
    · rw [session_onSession, if_neg ht]
  by_cases hauto : (w.session s).autoOutBuf = true ∧ o.outBuf = true
  · rw [if_pos hauto] at hframe ⊢
    obtain ⟨hself, hother⟩ := hsession _ rfl
    refine ⟨hframe, rfl, rfl, rfl, List.map_append, rfl, ?_, fun _ => ?_, fun r hr => ?_,
      hself, hother, Nat.succ_pos _⟩
    · simp
    · simp [hauto.1]
    · simp [hr]
  · rw [if_neg hauto] at hframe ⊢
    obtain ⟨hself, hother⟩ := hsession _ rfl
    refine ⟨hframe, rfl, rfl, rfl, List.map_append, rfl, ?_, fun hb => ?_, fun r hr => ?_,
      hself, hother, Nat.succ_pos _⟩
    · simp
    · rw [if_neg fun ha => hauto ⟨ha, hb⟩]
      simp
    · simp [hr]

theorem fbd_cases {s : Slot} {o : Done} {w w' : World} (h : fbd s o w = some w') :
    Unmoved w w' ∨ (w.session s).params.jpegCb = true ∧ (w.session s).abortState = .none ∧
      jobDone o s (callback .done s w) = some w' := by
  unfold fbd at h
  by_cases hh : (w.session s).omxHandle = none
  · rw [if_pos hh] at h
    cases h
  rw [if_neg hh] at h
  by_cases ha : (w.session s).abortState ≠ .none
  · rw [if_pos ha] at h
    obtain rfl := Option.some.inj h
    refine .inl ⟨.onSession (fun p => by constructor <;> rfl) (fun p => ⟨rfl, rfl⟩) fun hw => ?_, rfl,
      rfl, rfl, rfl⟩
    exact absurd hw.2 ha
  rw [if_neg ha] at h
  by_cases hcb : (w.session s).params.jpegCb = true
  · rw [if_pos hcb] at h
    exact .inr ⟨hcb, not_not.mp ha, h⟩
  · rw [if_neg hcb] at h
    obtain rfl := Option.some.inj h
    exact .inl (.refl _)

theorem eventHandler_cases {s : Slot} {e : OmxEvent} {o : Done} {w w' : World}
    (h : eventHandler s e o w = some w') :
    Unmoved w w' ∨ (w.session s).abortState ≠ .init ∧ (w.session s).encoding = true ∧
      (∃ c, e = .error c) ∧ ∃ v, Unmoved w v ∧ jobDone o s (callback .error s v) = some w' := by
  unfold eventHandler at h
  by_cases hh : (w.session s).omxHandle = none
  · rw [if_pos hh] at h
    cases h
  rw [if_neg hh] at h
  by_cases hi : (w.session s).abortState = .init
  · rw [if_pos hi] at h
    obtain rfl := Option.some.inj h
    refine .inl ⟨.onSession (fun p => by constructor <;> rfl) (fun p => ⟨rfl, rfl⟩) fun hw => ?_, rfl,
      rfl, rfl, rfl⟩
    rw [hw.2] at hi
    cases hi
  rw [if_neg hi] at h
  cases e with
  | error e =>
    have hflag : Unmoved w (w.onSession s fun p => { p with errorFlag := e }) :=
      ⟨.onSession (fun p => by constructor <;> rfl) (fun p => ⟨rfl, rfl⟩) fun hw => hw, rfl, rfl, rfl,
        rfl⟩
    dsimp only at h
    by_cases hp : (w.session s).encoding = true
    · rw [if_pos hp] at h
      exact .inr ⟨hi, hp, ⟨e, rfl⟩, _, hflag, h⟩
    · rw [if_neg hp] at h
      obtain rfl := Option.some.inj h
      exact .inl hflag
  | cmdComplete =>
    obtain rfl := Option.some.inj h
    exact .inl ⟨.onSession (fun p => by constructor <;> rfl) (fun p => ⟨rfl, rfl⟩) fun hw => hw, rfl,
      rfl, rfl, rfl⟩

theorem encodeSubmit_cases {taken : Bool} {o : Done} {w w' : World}
    (h : encodeSubmit taken o w = some w') : ∃ s, w.inEncode = some s ∧
      Unmoved w { w with inEncode := none } ∧ (taken = true ∧ w' = { w with inEncode := none } ∨
        taken = false ∧ jobDone o s (callback .error s { w with inEncode := none }) = some w') := by
  unfold encodeSubmit at h
  rcases Option.eq_none_or_eq_some w.inEncode with hs | ⟨s, hs⟩
  · rw [hs] at h
    cases h
  rw [hs] at h
  refine ⟨s, hs, ⟨quiet_jobs .., rfl, rfl, rfl, rfl⟩, ?_⟩
  cases taken with
  | true => exact .inl ⟨rfl, (Option.some.inj h).symm⟩
  | false => exact .inr ⟨rfl, h⟩

theorem configureSession_touched (o : Configure) {s : Slot} {h : Nat} {w : World}
    (hh : (w.session s).omxHandle = some h) : Touched w (configureSession o s h w).1 s ∧
      ((configureSession o s h w).1.session s).abortState = (w.session s).abortState := by
  obtain ⟨p, f, hs⟩ := sessionConfigure_session o (w.session s) (w.component h)
  have hself : (configureSession o s h w).1.session s =
      if (sessionConfigure o (w.session s) (w.component h)).2.2 then
        { (sessionConfigure o (w.session s) (w.component h)).1 with config := true }
      else (sessionConfigure o (w.session s) (w.component h)).1 := by
    change (if s = s then _ else w.session s) = _
    rw [if_pos rfl]
  refine ⟨⟨(configureSession_steady o hh).toJobFrame, rfl, rfl, rfl, rfl, rfl, rfl, ?_, fun t ht => ?_⟩, ?_⟩
  · rw [hself, hs]
    split_ifs
    · exact ⟨rfl, rfl⟩
    · exact ⟨rfl, rfl⟩
  · change (if t = s then _ else w.session t) = _
    rw [if_neg ht]
  · rw [hself, hs]
    split_ifs <;> rfl

theorem beginEncode_touched (o : TakeUp) (s : Slot) (w : World) :
    Touched w (beginEncode o s w).1 s ∧
      ((beginEncode o s w).1.session s).abortState = .none := by
  have hreset : Touched w (w.onSession s fun p => { p with abortState := .none, encoding := false })
      s := .setSession (by constructor <;> rfl) ⟨rfl, rfl⟩
  have habort : ((w.onSession s fun p => { p with abortState := .none, encoding := false }).session
      s).abortState = .none := by
    rw [session_onSession, if_pos rfl]
  unfold beginEncode
  dsimp only
  split
  · rename_i hh
    obtain ⟨htouched, hsame⟩ := configureSession_touched o.configure hh
    exact ⟨hreset.trans htouched, hsame.trans habort⟩
  · exact ⟨hreset, habort⟩

theorem bindJob_frame (n : JobNode) (s : Slot) (w : World) : JobFrame w (bindJob n s w) :=
  (jobFrame_jobs ..).trans (.onSession fun p => by constructor <;> rfl)

theorem autoOutBuf_frame (s : Slot) (b : Bool) (w : World) :
    JobFrame w (w.onSession s fun p => { p with autoOutBuf := b }) :=
  .onSession fun p => by constructor <;> rfl

theorem pop_frame (w : World) (sem : Nat) (rest : List JobNode) :
    JobFrame w { w with jobSem := sem, jobQueue := rest } := jobFrame_jobs ..

theorem taken_manual {w : World} {n : JobNode} {rest : List JobNode} {s : Slot} {hs : List Slot}
    {q sem : Nat} (hn : w.jobQueue = n :: rest) (hq : (w.queues q).handles = s :: hs) :
    Taken w (bindJob n s ((({ w with jobSem := sem, jobQueue := rest } : World).deqHandle q).onSession
      s fun p => { p with autoOutBuf := false })) n n.job s q false := by
  refine ⟨?_, hn, rfl, ⟨rfl, rfl⟩, rfl, rfl, rfl, ?_, ?_, fun r hr => ?_, ⟨?_, ?_⟩, fun t ht => ?_⟩
  · exact (((pop_frame ..).trans (.deqHandle ..)).trans (autoOutBuf_frame ..)).trans
      (bindJob_frame ..)
  · simp [bindJob, hq]
  · simp [bindJob]
  · simp [bindJob, hr]
  · simp [bindJob, Session.binding]
  · simp [bindJob]
  · simp [bindJob, ht]

theorem taken_auto {w : World} {n : JobNode} {rest : List JobNode} {s : Slot} {hs : List Slot}
    {q sem buf : Nat} {bufs : List Nat} (hn : w.jobQueue = n :: rest)
    (hq : (w.queues q).handles = s :: hs) (hb : (w.queues q).outBufs = (buf + 1) :: bufs) :
    Taken w (bindJob { n with job := { n.job with dstIndex := buf } } s
      ((((({ w with jobSem := sem, jobQueue := rest } : World).deqHandle q).onSession
        s fun p => { p with autoOutBuf := false }).deqOutBuf q).onSession
          s fun p => { p with autoOutBuf := true })) n { n.job with dstIndex := buf } s q true := by
  refine ⟨?_, hn, rfl, ⟨rfl, rfl⟩, rfl, rfl, rfl, ?_, ?_, fun r hr => ?_, ⟨?_, ?_⟩, fun t ht => ?_⟩
  · exact (((((pop_frame ..).trans (.deqHandle ..)).trans (autoOutBuf_frame ..)).trans
      (.deqOutBuf ..)).trans (autoOutBuf_frame ..)).trans (bindJob_frame ..)
  · simp [bindJob, hq]
  · simp [bindJob, hb]
  · simp [bindJob, hr]
  · simp [bindJob, Session.binding]
  · simp [bindJob]
  · simp [bindJob, ht]

theorem startEncode_cases {o : TakeUp} {n : JobNode} {s : Slot} {w w' : World}
    (ho : o.enqOngoing = true) (h : startEncode o n s w = some w') :
    Touched (bindJob n s w) w' s ∧ (w'.session s).AtWork ∨
      ∃ u, Touched (bindJob n s w) u s ∧ jobDone o.done s (callback .error s u) = some w' := by
  obtain ⟨hbegin, habort⟩ := beginEncode_touched o s (bindJob n s w)
  unfold startEncode at h
  rw [if_neg (by rw [ho]; decide)] at h
  by_cases hr : (beginEncode o s (bindJob n s w)).2 = true
  · rw [if_pos hr] at h
    obtain rfl := Option.some.inj h
    have hset : ∀ v, Touched v { v.onSession s fun p => { p with encoding := true } with
        inEncode := some s } s := by
      intro v
      refine ⟨?_, rfl, rfl, rfl, rfl, rfl, rfl, ?_, fun t ht => ?_⟩
      · exact JobFrame.trans (.onSession fun p => by constructor <;> rfl) (jobFrame_jobs ..)
      · change (v.session s).SameJob (if s = s then _ else _)
        rw [if_pos rfl]
        exact ⟨rfl, rfl⟩
      · change (if t = s then _ else v.session t) = _
        rw [if_neg ht]
    refine .inl ⟨hbegin.trans (hset _), ?_⟩
    change Session.AtWork (if s = s then _ else _)
    rw [if_pos rfl]
    exact ⟨rfl, habort⟩
  · rw [if_neg hr] at h
    exact .inr ⟨_, hbegin, h⟩

theorem processEncodingJob_cases {o : TakeUp} {n : JobNode} {rest : List JobNode} {s₀ : Slot}
    {q sem : Nat} {w w' : World} (hn : w.jobQueue = n :: rest) (hs₀ : getSession n.jobId = some s₀)
    (hq : (w.session s₀).queues = some q)
    (hmem : ∀ s ∈ (w.queues q).handles, (w.session s).queues = some q)
    (ho : (w.queues q).handles ≠ [] → o.enqOngoing = true ∧
      (n.job.dstIndex < 0 → (w.queues q).outBufs.headD 0 ≠ 0))
    (h : processEncodingJob o n { w with jobSem := sem, jobQueue := rest } = some w') :
    ((w.queues q).handles = [] ∧
      w' = { w with jobSem := sem, jobQueue := if o.enqHead then n :: rest else rest }) ∨
    ∃ s job auto u, Taken w u n job s q auto ∧
      (u = w' ∧ (w'.session s).AtWork ∨ jobDone o.done s (callback .error s u) = some w') := by
  unfold processEncodingJob at h
  rw [hs₀] at h
  dsimp only at h
  rw [hq] at h
  dsimp only at h
  rcases hh : (w.queues q).handles with - | ⟨s, hs⟩
  · rw [hh] at h
    obtain rfl := Option.some.inj h
    refine .inl ⟨rfl, ?_⟩
    split_ifs <;> rfl
  right
  obtain ⟨hongoing, hbuf⟩ := ho (by rw [hh]; simp)
  rw [hh] at h
  dsimp only at h
  by_cases hdst : 0 ≤ n.job.dstIndex
  · rw [if_pos hdst] at h
    have htaken := @taken_manual w n rest s hs q sem hn hh
    rcases startEncode_cases hongoing h with ⟨ht, hw⟩ | ⟨u, hu, hd⟩
    · exact ⟨s, n.job, false, w', htaken.touched ht, .inl ⟨rfl, hw⟩⟩
    · exact ⟨s, n.job, false, u, htaken.touched hu, .inr hd⟩
  · rw [if_neg hdst] at h
    have hqs : (((({ w with jobSem := sem, jobQueue := rest } : World).deqHandle q).onSession s
        fun p => { p with autoOutBuf := false }).session s).queues = some q := by
      simp [hmem s (by rw [hh]; exact List.mem_cons_self ..)]
    rw [hqs] at h
    dsimp only at h
    have hout : (((({ w with jobSem := sem, jobQueue := rest } : World).deqHandle q).onSession s
        fun p => { p with autoOutBuf := false }).queues q).outBufs = (w.queues q).outBufs := by simp
    rw [hout] at h
    obtain ⟨buf, hbuf'⟩ := Nat.exists_eq_succ_of_ne_zero (hbuf (by omega))
    rw [hbuf'] at h
    have hbufs : (w.queues q).outBufs = (buf + 1) :: (w.queues q).outBufs.tail := by
      cases hb : (w.queues q).outBufs with
      | nil =>
        rw [hb] at hbuf'
        cases hbuf'
      | cons b bufs =>
        rw [hb] at hbuf'
        exact congrArg (· :: bufs) hbuf'
    have htaken := @taken_auto w n rest s hs q sem buf _ hn hh hbufs
    rcases startEncode_cases hongoing h with ⟨ht, hw⟩ | ⟨u, hu, hd⟩
    · exact ⟨s, _, true, w', htaken.touched ht, .inl ⟨rfl, hw⟩⟩
    · exact ⟨s, _, true, u, htaken.touched hu, .inr hd⟩

/-- The checks of `mm_jpeg_start_job` that a job passes on its way to the queue. -/
def Start.Accepts (o : Start) (count : Nat) (job : EncodeJob) (w : World) : Prop :=
  validIdx job.sessionId = true ∧
    (reserveWorkBufs count o.alloc job w.numSessions w.work).2.2.2 = true ∧
    (w.session (slotOf job.sessionId)).active = true ∧
    job.srcIndex < (w.session (slotOf job.sessionId)).params.numSrcBufs ∧
    job.dstIndex < (w.session (slotOf job.sessionId)).params.numDstBufs ∧
    o.mallocNode = true ∧ o.enq = true

instance (o : Start) (count : Nat) (job : EncodeJob) (w : World) :
    Decidable (o.Accepts count job w) :=
  inferInstanceAs (Decidable (_ ∧ _ ∧ _ ∧ _ ∧ _ ∧ _ ∧ _))

theorem setWorkBufs_unmoved (s : Slot) (b : WorkBufs) (buf : WorkBuffer) (w : World) :
    Unmoved w (setWorkBufs s b buf w) := by
  refine ⟨(quiet_jobs ..).trans (.onSession (fun p => by constructor <;> rfl) (fun p => ⟨rfl, rfl⟩)
    fun hw => hw), rfl, rfl, rfl, rfl⟩

theorem countJob_unmoved (s : Slot) (w : World) : Unmoved w (countJob s w) :=
  ⟨.onSession (fun p => by constructor <;> rfl) (fun p => ⟨rfl, rfl⟩) fun hw => hw, rfl, rfl, rfl, rfl⟩

theorem Unmoved.trans {w w' w'' : World} (h : Unmoved w w') (h' : Unmoved w' w'') : Unmoved w w'' :=
  ⟨h.toQuiet.trans h'.toQuiet, h'.todo.trans h.todo, h'.accepted.trans h.accepted,
    h'.aborted.trans h.aborted, h'.jobSem.trans h.jobSem⟩

theorem startJob_cases (count : Nat) (job : EncodeJob) (o : Start) (w : World) :
    Unmoved w (startJob count job o w).1 ∨ o.Accepts count job w ∧
      ∃ n : JobNode, n.job = { job with serial := w.accepted } ∧
        n.jobId = packJob job.sessionId (w.session (slotOf job.sessionId)).jobHist ∧
        ∃ v, Unmoved w v ∧ (startJob count job o w).1 = enqJob n v := by
  unfold startJob
  dsimp only
  by_cases hv : (!validIdx job.sessionId) = true
  · rw [if_pos hv]
    exact .inl (.refl _)
  rw [if_neg hv]
  generalize hr : reserveWorkBufs count o.alloc job w.numSessions w.work = r
  have hbufs := setWorkBufs_unmoved (slotOf job.sessionId) r.1 r.2.1 w
  have hself : (setWorkBufs (slotOf job.sessionId) r.1 r.2.1 w).session (slotOf job.sessionId) =
      { w.session (slotOf job.sessionId) with workBuffer := r.2.1 } := by
    change (if slotOf job.sessionId = slotOf job.sessionId then _ else _) = _
    rw [if_pos rfl]
  have hcount := hbufs.trans (countJob_unmoved (slotOf job.sessionId) _)
  rw [hself]
  by_cases hp : (!r.2.2.2) = true ∨ (!(w.session (slotOf job.sessionId)).active) = true
  · rw [if_pos hp]
    exact .inl hbufs
  rw [if_neg hp]
  by_cases hb : ((w.session (slotOf job.sessionId)).params.numSrcBufs : Int) ≤ job.srcIndex ∨
      ((w.session (slotOf job.sessionId)).params.numDstBufs : Int) ≤ job.dstIndex
  · rw [if_pos hb]
    exact .inl hbufs
  rw [if_neg hb]
  by_cases hm : (!o.mallocNode) = true
  · rw [if_pos hm]
    exact .inl hbufs
  rw [if_neg hm]
  by_cases he : (!o.enq) = true
  · rw [if_pos he]
    exact .inl hcount
  rw [if_neg he]
  refine .inr ⟨?_, _, rfl, rfl, _, hcount, rfl⟩
  obtain ⟨hres, hact⟩ := not_or.mp hp
  obtain ⟨hsrc, hdst⟩ := not_or.mp hb
  refine ⟨by simpa using hv, by rw [hr]; simpa using hres, by simpa using hact, by omega, by omega,
    by simpa using hm, by simpa using he⟩

theorem slotOf_packJob (session hist : Nat) : slotOf (packJob session hist) = slotOf session := by
  have hlow : (hist % jobHistMax) <<< 16 % 2 ^ 8 = 0 := by
    rw [Nat.shiftLeft_eq]
    omega
  have hmid : (hist % jobHistMax) <<< 16 / 2 ^ 8 % 2 ^ 8 = 0 := by
    rw [Nat.shiftLeft_eq]
    omega
  have hclient : (session ||| (hist % jobHistMax) <<< 16) % 2 ^ 8 = session % 2 ^ 8 := by
    rw [Nat.or_mod_two_pow, hlow, Nat.or_zero]
  have hidx : (session ||| (hist % jobHistMax) <<< 16) / 2 ^ 8 % 2 ^ 8 = session / 2 ^ 8 % 2 ^ 8 := by
    rw [Nat.or_div_two_pow, Nat.or_mod_two_pow, hmid, Nat.or_zero]
  exact congrArg₂ Slot.mk hclient hidx

theorem abortJob_cases {id : Nat} {w : World} (h : ∀ n ∈ w.ongoingJobQ, n.jobId ≠ id) :
    (abortJob id w).1 = w ∨ ∃ n ∈ w.jobQueue, n.jobId = id ∧
      (abortJob id w).1 = { w with
        jobQueue := w.jobQueue.eraseP (·.jobId = id), aborted := w.aborted ++ [n.job.serial] } := by
  have hongoing : w.ongoingJobQ.find? (·.jobId = id) = none := by
    rw [List.find?_eq_none]
    exact fun n hn => by simpa using h n hn
  unfold abortJob
  rcases Option.eq_none_or_eq_some (w.jobQueue.find? (·.jobId = id)) with hf | ⟨n, hf⟩
  · rw [hf, hongoing]
    exact .inl rfl
  · rw [hf]
    exact .inr ⟨n, List.mem_of_find?_eq_some hf, by simpa using List.find?_some hf, rfl⟩

def World.jobs (w : World) : List JobNode × List JobNode × Nat × List Answer × List Nat × Nat :=
  (w.jobQueue, w.ongoingJobQ, w.accepted, w.answers, w.aborted, w.jobSem)

theorem sessionAbort_jobs (chain : List Slot) (w : World) : (sessionAbort chain w).jobs = w.jobs := by
  induction chain generalizing w with
  | nil => rfl
  | cons s rest ih =>
    rw [sessionAbort]
    split_ifs
    · rfl
    · exact ih _

theorem sessionDestroy_jobs (o : Slot → Teardown) (chain : List Slot) (w : World) :
    (sessionDestroy o chain w).jobs = w.jobs ∧ (sessionDestroy o chain w).queues = w.queues := by
  induction chain generalizing w with
  | nil => exact ⟨rfl, rfl⟩
  | cons s rest ih =>
    rw [sessionDestroy]
    split
    · exact ⟨rfl, rfl⟩
    · exact ih _

theorem removeChain_jobs (chain : List Slot) (w : World) :
    (chain.foldl (fun w t => removeSessionIdx w (w.session t).sessionId) w).jobs = w.jobs ∧
      (chain.foldl (fun w t => removeSessionIdx w (w.session t).sessionId) w).queues = w.queues := by
  induction chain generalizing w with
  | nil => exact ⟨rfl, rfl⟩
  | cons s rest ih => exact ih _

structure Destroyed (w w' : World) (id q : Nat) : Prop where
  todo : w'.jobQueue = w.jobQueue.filter (·.job.sessionId ≠ id)
  ongoing : w'.ongoingJobQ = w.ongoingJobQ.filter (·.job.sessionId ≠ id)
  accepted : w'.accepted = w.accepted
  answers : w'.answers = w.answers
  aborted : w'.aborted = w.aborted ++
    ((w.jobQueue ++ w.ongoingJobQ).filter (·.job.sessionId = id)).map (·.job.serial)
  queues : ∀ r, r ≠ q → w'.queues r = w.queues r
  posted : 0 < w'.jobSem

theorem destroyed {o : Slot → Teardown} {s : Slot} {w w' : World}
    (h : destroySession o s w = some w') :
    ∃ q, ((destroyChain o s w).session s).queues = some q ∧
      Destroyed w w' (w.session s).sessionId q := by
  have hjobs : (destroyChain o s w).jobs = (removeJobs w (w.session s).sessionId).jobs :=
    (removeChain_jobs ..).1.trans ((sessionDestroy_jobs ..).1.trans (sessionAbort_jobs ..))
  have hqueues : (destroyChain o s w).queues = w.queues :=
    (removeChain_jobs ..).2.trans ((sessionDestroy_jobs ..).2.trans (sessionAbort_rest _ _ s).2.1)
  unfold destroySession at h
  split at h
  · cases h
  rename_i q hq
  obtain rfl := Option.some.inj h
  refine ⟨q, hq, congrArg (·.1) hjobs, congrArg (·.2.1) hjobs, congrArg (·.2.2.1) hjobs,
    congrArg (·.2.2.2.1) hjobs, congrArg (·.2.2.2.2.1) hjobs, fun r hr => ?_, Nat.succ_pos _⟩
  change (if r = q then _ else (destroyChain o s w).queues r) = _
  rw [if_neg hr, hqueues]

end Jpeg
