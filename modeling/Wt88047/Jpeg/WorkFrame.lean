import Wt88047.Jpeg.WorkBuffers
import Wt88047.Jpeg.JobMoves
import Wt88047.Jpeg.ChainCreation

/-! What leaves the work buffers of the object and of its sessions alone. -/

namespace Jpeg

open World

def Session.load (p : Session) : EncodeJob × WorkBuffer := (p.encodeJob, p.workBuffer)

/-- No active session has another work buffer, none becomes active, and no job is queued. -/
structure WorkFrame (w w' : World) : Prop where
  opened : w'.opened = w.opened
  work : w'.work = w.work
  queue : w'.jobQueue ⊆ w.jobQueue
  session : ∀ t, (w'.session t).active = true →
    (w.session t).active = true ∧ (w'.session t).workBuffer = (w.session t).workBuffer

namespace WorkFrame

variable {w w' w'' : World} {s : Slot}

theorem refl (w : World) : WorkFrame w w := ⟨rfl, rfl, List.Subset.refl _, fun _ ht => ⟨ht, rfl⟩⟩

theorem trans (h : WorkFrame w w') (h' : WorkFrame w' w'') : WorkFrame w w'' where
  opened := h'.opened.trans h.opened
  work := h'.work.trans h.work
  queue := List.Subset.trans h'.queue h.queue
  session := by
    intro t ht
    obtain ⟨ht', hbuf'⟩ := h'.session t ht
    obtain ⟨ht, hbuf⟩ := h.session t ht'
    exact ⟨ht, hbuf'.trans hbuf⟩

theorem of_jobs (ho : w'.opened = w.opened) (hwork : w'.work = w.work)
    (hq : w'.jobQueue ⊆ w.jobQueue) (hs : w'.session = w.session) : WorkFrame w w' :=
  ⟨ho, hwork, hq, fun t ht => by rw [hs] at ht ⊢; exact ⟨ht, rfl⟩⟩

theorem jobs (w : World) (sem : Nat) (ongoing : List JobNode) (enc : Option Slot) (accepted : Nat)
    (answers : List Answer) (aborted : List Nat) : WorkFrame w { w with
      jobSem := sem, ongoingJobQ := ongoing, inEncode := enc, accepted := accepted
      answers := answers, aborted := aborted } :=
  of_jobs rfl rfl (List.Subset.refl _) rfl

theorem setSession {p : Session} (h : p.active = true →
    (w.session s).active = true ∧ p.workBuffer = (w.session s).workBuffer) :
    WorkFrame w (w.setSession s p) := by
  refine ⟨rfl, rfl, List.Subset.refl _, fun t ht => ?_⟩
  rw [session_setSession] at ht ⊢
  by_cases hts : t = s
  · rw [if_pos hts] at ht ⊢
    rw [hts]
    exact h ht
  · rw [if_neg hts] at ht ⊢
    exact ⟨ht, rfl⟩

theorem onSession {f : Session → Session}
    (h : ∀ p : Session, (f p).active = true → p.active = true ∧ (f p).workBuffer = p.workBuffer) :
    WorkFrame w (w.onSession s f) := setSession (h _)

end WorkFrame

variable {w w' : World}

theorem Steady.workFrame (h : Steady w w') : WorkFrame w w' :=
  ⟨h.opened, h.work, h.todo, fun t ht => ⟨(h.session t).active.symm.trans ht, (h.own t).2⟩⟩

theorem jobDone_work {o : Done} {s : Slot} (h : jobDone o s w = some w') :
    WorkFrame w w' ∧ w'.inEncode = w.inEncode := by
  refine ⟨(jobDone_steady h).workFrame, ?_⟩
  unfold jobDone at h
  dsimp only at h
  split at h
  · cases h
  · obtain rfl := Option.some.inj h
    split_ifs <;> rfl

theorem callback_work (status : JobStatus) (s : Slot) (w : World) :
    WorkFrame w (callback status s w) ∧ (callback status s w).inEncode = w.inEncode := by
  refine ⟨(callback_steady ..).workFrame, ?_⟩
  unfold callback
  dsimp only
  split_ifs <;> rfl

theorem configureSession_work (o : Configure) (s : Slot) (h : Nat) (w : World) :
    WorkFrame w (configureSession o s h w).1 ∧
      (configureSession o s h w).1.inEncode = w.inEncode ∧
      ((configureSession o s h w).1.session s).load = (w.session s).load := by
  obtain ⟨p, f, hs⟩ := sessionConfigure_session o (w.session s) (w.component h)
  have hset : ∀ x : Session, x.active = (w.session s).active →
      x.load = (w.session s).load → WorkFrame w ((w.setSession s x).setComponent h
        (sessionConfigure o (w.session s) (w.component h)).2.1) ∧
      ((w.setSession s x).session s).load = (w.session s).load := by
    intro x hactive hload
    refine ⟨(WorkFrame.setSession fun hx => ⟨hactive ▸ hx, congrArg Prod.snd hload⟩).trans
      (.of_jobs rfl rfl (List.Subset.refl _) rfl), ?_⟩
    rw [session_setSession, if_pos rfl]
    exact hload
  unfold configureSession
  dsimp only
  rw [hs]
  split_ifs
  · refine ⟨(hset _ ?_ ?_).1, rfl, (hset _ ?_ ?_).2⟩ <;> rfl
  · refine ⟨(hset _ ?_ ?_).1, rfl, (hset _ ?_ ?_).2⟩ <;> rfl

theorem beginEncode_work (o : TakeUp) (s : Slot) (w : World) :
    WorkFrame w (beginEncode o s w).1 ∧ (beginEncode o s w).1.inEncode = w.inEncode ∧
      ((beginEncode o s w).1.session s).load = (w.session s).load := by
  have hreset : WorkFrame w (w.onSession s fun p =>
      { p with abortState := .none, encoding := false }) := .onSession fun _ hp => by exact ⟨hp, rfl⟩
  have hload : ((w.onSession s fun p => { p with abortState := .none, encoding := false }).session
      s).load = (w.session s).load := by
    rw [session_onSession, if_pos rfl]
    rfl
  unfold beginEncode
  dsimp only
  split
  · next hc hh =>
    obtain ⟨hframe, hin, hkept⟩ := configureSession_work o.configure s _
      (w.onSession s fun p => { p with abortState := .none, encoding := false })
    exact ⟨hreset.trans hframe, hin, hkept.trans hload⟩
  · exact ⟨hreset, rfl, hload⟩

theorem bindJob_work (n : JobNode) (s : Slot) (w : World) : WorkFrame w (bindJob n s w) :=
  (WorkFrame.jobs ..).trans (.onSession fun _ hp => ⟨hp, rfl⟩)

theorem startEncode_work {o : TakeUp} {n : JobNode} {s : Slot} (h : startEncode o n s w = some w') :
    WorkFrame w w' ∧ (w'.inEncode = w.inEncode ∨
      w'.inEncode = some s ∧ (w'.session s).load = (n.job, (w.session s).workBuffer)) := by
  unfold startEncode at h
  dsimp only at h
  obtain ⟨hbegin, hin, hload⟩ := beginEncode_work o s (bindJob n s w)
  have hframe := (bindJob_work n s w).trans hbegin
  split_ifs at h
  · obtain ⟨hdone, hsame⟩ := jobDone_work h
    exact ⟨hdone, Or.inl hsame⟩
  · obtain rfl := Option.some.inj h
    have hset : WorkFrame (beginEncode o s (bindJob n s w)).1
        { (beginEncode o s (bindJob n s w)).1.onSession s fun p => { p with encoding := true } with
          inEncode := some s } := by
      apply WorkFrame.trans (.onSession (f := fun p => { p with encoding := true }) _)
      · exact .of_jobs rfl rfl (List.Subset.refl _) rfl
      · exact fun _ hp => ⟨hp, rfl⟩
    refine ⟨hframe.trans hset, Or.inr ⟨rfl, ?_⟩⟩
    have hbound : ((bindJob n s w).session s).load = (n.job, (w.session s).workBuffer) := by
      rw [bindJob, session_onSession, if_pos rfl]
      rfl
    change (if s = s then _ else _ : Session).load = _
    rw [if_pos rfl]
    exact hload.trans hbound
  · obtain ⟨hcall, hcalled⟩ := callback_work .error s (beginEncode o s (bindJob n s w)).1
    obtain ⟨hdone, hsame⟩ := jobDone_work h
    exact ⟨(hframe.trans hcall).trans hdone, Or.inl ((hsame.trans hcalled).trans hin)⟩

theorem deqOutBuf_work (w : World) (q : Nat) : WorkFrame w (w.deqOutBuf q) :=
  .of_jobs rfl rfl (List.Subset.refl _) rfl

theorem processEncodingJob_work {o : TakeUp} {n : JobNode} {rest : List JobNode} {sem : Nat}
    (hn : w.jobQueue = n :: rest)
    (h : processEncodingJob o n { w with jobSem := sem, jobQueue := rest } = some w') :
    WorkFrame w w' ∧ (w'.inEncode = w.inEncode ∨ ∃ t q, w'.inEncode = some t ∧
      (w.session (slotOf n.jobId)).queues = some q ∧ (w.queues q).handles.head? = some t ∧
        (w'.session t).workBuffer = (w.session t).workBuffer ∧
          (w'.session t).encodeJob.workSize = n.job.workSize) := by
  have hpop : WorkFrame w { w with jobSem := sem, jobQueue := rest } :=
    .of_jobs rfl rfl (by rw [hn]; exact List.subset_cons_self ..) rfl
  unfold processEncodingJob getSession at h
  dsimp only at h
  by_cases hv : validIdx n.jobId = true
  · rw [if_pos hv] at h
    dsimp only at h
    split at h
    · cases h
    next q hq =>
    split at h
    · obtain rfl := Option.some.inj h
      split_ifs
      · exact ⟨.of_jobs rfl rfl (by rw [hn]; exact List.Subset.refl _) rfl, Or.inl rfl⟩
      · exact ⟨hpop, Or.inl rfl⟩
    next s hs hh =>
    have hhead : (w.queues q).handles.head? = some s := by rw [hh]; rfl
    have hauto : ∀ v : World, ∀ b,
        WorkFrame v (v.onSession s fun p => { p with autoOutBuf := b }) ∧
        ((v.onSession s fun p => { p with autoOutBuf := b }).session s).workBuffer =
          (v.session s).workBuffer := by
      intro v b
      refine ⟨.onSession fun _ hp => ⟨hp, rfl⟩, ?_⟩
      rw [session_onSession, if_pos rfl]
    have hdeq : WorkFrame w (({ w with jobSem := sem, jobQueue := rest } : World).deqHandle q) :=
      hpop.trans (.of_jobs rfl rfl (List.Subset.refl _) rfl)
    have hfree := hauto (({ w with jobSem := sem, jobQueue := rest } : World).deqHandle q) false
    by_cases hdst : 0 ≤ n.job.dstIndex
    · rw [if_pos hdst] at h
      obtain ⟨hframe, hin⟩ := startEncode_work h
      refine ⟨(hdeq.trans hfree.1).trans hframe, hin.imp_right fun ht =>
        ⟨s, q, ht.1, hq, hhead, (congrArg Prod.snd ht.2).trans hfree.2, ?_⟩⟩
      have hjob : (w'.session s).encodeJob = n.job := congrArg Prod.fst ht.2
      rw [hjob]
    · rw [if_neg hdst] at h
      split at h
      · cases h
      next r hr =>
      split at h
      · obtain rfl := Option.some.inj h
        exact ⟨(hdeq.trans hfree.1).trans (deqOutBuf_work _ r), Or.inl rfl⟩
      next buf hbuf =>
      have hout := hauto (World.deqOutBuf ((({ w with jobSem := sem, jobQueue := rest } :
        World).deqHandle q).onSession s fun p => { p with autoOutBuf := false }) r) true
      obtain ⟨hframe, hin⟩ := startEncode_work h
      refine ⟨(((hdeq.trans hfree.1).trans (deqOutBuf_work _ r)).trans hout.1).trans hframe,
        hin.imp_right fun ht =>
          ⟨s, q, ht.1, hq, hhead, (congrArg Prod.snd ht.2).trans (hout.2.trans hfree.2), ?_⟩⟩
      have hjob : (w'.session s).encodeJob = { n.job with dstIndex := buf } :=
        congrArg Prod.fst ht.2
      rw [hjob]
      rfl
  · rw [if_neg hv] at h
    obtain rfl := Option.some.inj h
    exact ⟨hpop, Or.inl rfl⟩

theorem jobmgrWake_work {o : TakeUp} (h : jobmgrWake o w = some w') :
    WorkFrame w w' ∧ ∀ t, w'.inEncode = some t → ∃ n q, w.jobQueue.head? = some n ∧
      (w.session (slotOf n.jobId)).queues = some q ∧ (w.queues q).handles.head? = some t ∧
        (w'.session t).workBuffer = (w.session t).workBuffer ∧
          (w'.session t).encodeJob.workSize = n.job.workSize := by
  unfold jobmgrWake at h
  dsimp only at h
  by_cases hg : w.jobSem = 0 ∨ w.inEncode ≠ none
  · rw [if_pos hg] at h
    cases h
  rw [if_neg hg] at h
  have hin : w.inEncode = none := not_not.mp (not_or.mp hg).2
  have hnone : ∀ {v : World}, v.inEncode = w.inEncode → ∀ t, v.inEncode = some t →
      ∃ n q, w.jobQueue.head? = some n ∧ (w.session (slotOf n.jobId)).queues = some q ∧
        (w.queues q).handles.head? = some t ∧ (v.session t).workBuffer = (w.session t).workBuffer ∧
          (v.session t).encodeJob.workSize = n.job.workSize := by
    intro v hv t ht
    rw [hv, hin] at ht
    cases ht
  by_cases hmax : maxConcurrentJobs ≤ w.ongoingJobQ.length
  · rw [if_pos hmax] at h
    obtain rfl := Option.some.inj h
    exact ⟨.jobs .., hnone rfl⟩
  rw [if_neg hmax] at h
  split at h
  · obtain rfl := Option.some.inj h
    exact ⟨.jobs .., hnone rfl⟩
  next n rest hn =>
  obtain ⟨hframe, hcases⟩ := processEncodingJob_work hn h
  refine ⟨hframe, fun t ht => ?_⟩
  rcases hcases with hsame | ⟨s, q, hs, hq, hhead, hload⟩
  · exact hnone hsame t ht
  · obtain rfl := Option.some.inj (hs.symm.trans ht)
    exact ⟨n, q, by rw [hn]; rfl, hq, hhead, hload⟩

theorem removeJobs_work (w : World) (id : Nat) : WorkFrame w (removeJobs w id) :=
  .of_jobs rfl rfl (List.filter_subset_self _) rfl

theorem removeSessionIdx_work (w : World) (id : Nat) : WorkFrame w (removeSessionIdx w id) :=
  .onSession fun _ hp => absurd hp Bool.false_ne_true

theorem teardownSession_work (o : Teardown) (s : Slot) (h : Nat) (w : World) :
    WorkFrame w (teardownSession o s h w) := by
  obtain ⟨p, f, hs⟩ := sessionTeardown_session o (w.session s) (w.component h)
  have hset : WorkFrame w (w.setSession s (sessionTeardown o (w.session s) (w.component h)).1) := by
    apply WorkFrame.setSession
    rw [hs]
    exact fun hp => ⟨hp, rfl⟩
  exact hset.trans (.of_jobs rfl rfl (List.Subset.refl _) rfl)

theorem sessionDestroy_work (o : Slot → Teardown) (chain : List Slot) (w : World) :
    WorkFrame w (sessionDestroy o chain w) := by
  induction chain generalizing w with
  | nil => exact .refl _
  | cons s rest ih =>
    rw [sessionDestroy]
    split
    · exact .refl _
    · exact (teardownSession_work ..).trans (ih _)

theorem destroyQueues_work (s : Slot) (q id : Nat) (w : World) :
    WorkFrame w (destroyQueues s q id w) := by
  have hqueues : ∀ v : World, WorkFrame v (v.onSession s fun p => { p with queues := none }) :=
    fun v => .onSession fun _ hp => ⟨hp, rfl⟩
  obtain ⟨ho, hwork, hq, hs⟩ := hqueues (w.onQueues q fun x =>
    { handles := [], outBufs := [], handlesDeinit := x.handlesDeinit + 1
      outBufsDeinit := x.outBufsDeinit + 1 })
  exact ⟨ho, hwork, hq, hs⟩

theorem destroySession_work {o : Slot → Teardown} {s : Slot} (h : destroySession o s w = some w') :
    WorkFrame w w' := by
  have hfold : ∀ (l : List Slot) (v : World),
      WorkFrame v (l.foldl (fun w t => removeSessionIdx w (w.session t).sessionId) v) := by
    intro l
    induction l with
    | nil => exact fun v => .refl v
    | cons t l ih => exact fun v => (removeSessionIdx_work ..).trans (ih _)
  have hchain : WorkFrame w (destroyChain o s w) := by
    unfold destroyChain
    dsimp only
    exact (((removeJobs_work ..).trans (sessionAbort_steady ..).workFrame).trans
      (sessionDestroy_work ..)).trans (hfold _ _)
  unfold destroySession at h
  split at h
  · cases h
  · obtain rfl := Option.some.inj h
    exact hchain.trans (destroyQueues_work ..)

theorem destroySessionUnlocked_work (w : World) (s : Slot) :
    WorkFrame w (destroySessionUnlocked w s) :=
  (((removeJobs_work ..).trans (sessionAbort_steady ..).workFrame).trans (removeSessionIdx_work ..)).trans
    (.of_jobs rfl rfl (List.Subset.refl _) rfl)

theorem clearSessions_work (w : World) (c : Nat) : WorkFrame w (clearSessions w c) := by
  refine ⟨rfl, rfl, List.Subset.refl _, fun t ht => ?_⟩
  unfold clearSessions at ht ⊢
  dsimp only at ht ⊢
  by_cases hc : t.client = c
  · rw [if_pos hc] at ht
    cases ht
  · rw [if_neg hc] at ht ⊢
    exact ⟨ht, rfl⟩

theorem close_work (hdl : Nat) (w : World) : WorkFrame w (Jpeg.close hdl w).1 := by
  have hfold : ∀ (l : List Nat) (v : World), WorkFrame v (l.foldl (fun w i =>
      if (w.session ⟨getIndexByHandler hdl, i⟩).active then
        destroySessionUnlocked w ⟨getIndexByHandler hdl, i⟩ else w) v) := by
    intro l
    induction l with
    | nil => exact fun v => .refl v
    | cons i l ih =>
      intro v
      rw [List.foldl_cons]
      refine WorkFrame.trans ?_ (ih _)
      split_ifs
      · exact destroySessionUnlocked_work ..
      · exact .refl v
  unfold Jpeg.close
  dsimp only
  split_ifs
  · exact .refl w
  · exact ((hfold _ _).trans (clearSessions_work ..)).trans
      (.of_jobs rfl rfl (List.Subset.refl _) rfl)

theorem newClient_work (w : World) : WorkFrame w (newClient w).1 := by
  unfold newClient
  split_ifs
  · exact .refl w
  split
  · exact .refl w
  · refine WorkFrame.trans (WorkFrame.trans (.of_jobs rfl rfl (List.Subset.refl _) rfl)
      (clearSessions_work _ _)) (.of_jobs rfl rfl (List.Subset.refl _) rfl)

/-- Only the session `s` changes in what it has for a job. -/
structure Joining (s : Slot) (w w' : World) : Prop where
  opened : w'.opened = w.opened
  work : w'.work = w.work
  queue : w'.jobQueue = w.jobQueue
  session : ∀ t, t ≠ s → (w'.session t).active = (w.session t).active ∧
    (w'.session t).workBuffer = (w.session t).workBuffer

namespace Joining

variable {s t : Slot} {w'' : World}

theorem trans (h : Joining s w w') (h' : Joining s w' w'') : Joining s w w'' where
  opened := h'.opened.trans h.opened
  work := h'.work.trans h.work
  queue := h'.queue.trans h.queue
  session t ht := ⟨(h'.session t ht).1.trans (h.session t ht).1,
    (h'.session t ht).2.trans (h.session t ht).2⟩

theorem of_session (ho : w'.opened = w.opened) (hwork : w'.work = w.work)
    (hq : w'.jobQueue = w.jobQueue) (hs : ∀ t, t ≠ s → w'.session t = w.session t) :
    Joining s w w' :=
  ⟨ho, hwork, hq, fun t ht => by rw [hs t ht]; exact ⟨rfl, rfl⟩⟩

theorem setSession (w : World) (s : Slot) (p : Session) : Joining s w (w.setSession s p) :=
  .of_session rfl rfl rfl fun _ ht => if_neg ht

theorem appendNext (w : World) (s t : Slot) : Joining s w (Jpeg.appendNext s w t) := by
  refine ⟨rfl, rfl, rfl, fun u hu => ?_⟩
  unfold Jpeg.appendNext
  rw [session_onSession]
  by_cases hut : u = t
  · rw [if_pos hut, hut]
    exact ⟨rfl, rfl⟩
  · rw [if_neg hut]
    exact ⟨rfl, rfl⟩

end Joining

theorem linkSession_joining (count i : Nat) (chain : List Slot) (s : Slot) (w : World) :
    Joining s w (linkSession count i chain s w) := by
  have hfold : ∀ (l : List Slot) (v : World), Joining s v (l.foldl (appendNext s) v) := by
    intro l
    induction l with
    | nil => exact fun v => .of_session rfl rfl rfl fun _ _ => rfl
    | cons t l ih => exact fun v => (Joining.appendNext v s t).trans (ih _)
  unfold linkSession
  dsimp only
  exact ((Joining.setSession w s _).trans (hfold chain _)).trans (Joining.setSession _ s _)

theorem joinChain_joining (count i hdl q : Nat) (params : EncodeParams) (enq : Bool)
    (conf : Configure) (chain : List Slot) (s : Slot) (w : World) :
    Joining s w (joinChain count i hdl q params enq conf chain s w).1 := by
  have hregister : ∀ v : World, Joining s v (registerSession hdl q params enq s v) := by
    intro v
    cases enq with
    | true => exact .of_session rfl rfl rfl fun t ht => if_neg ht
    | false => exact .of_session rfl rfl rfl fun t ht => if_neg ht
  have hconfigure : ∀ (h : Nat) (v : World), Joining s v (configureSession conf s h v).1 :=
    fun h v => .of_session rfl rfl rfl fun t ht => if_neg ht
  unfold joinChain
  dsimp only
  exact ((linkSession_joining count i chain s w).trans (hregister _)).trans (hconfigure _ _)

/-- The active sessions keep their work buffers, and only sessions of the client `c` join them. -/
structure Grown (c : Nat) (w w' : World) : Prop where
  opened : w'.opened = w.opened
  work : w'.work = w.work
  queue : w'.jobQueue = w.jobQueue
  kept : ∀ t, (w.session t).active = true → (w'.session t).active = true ∧
    (w'.session t).workBuffer = (w.session t).workBuffer
  client : ∀ t, (w'.session t).active = true → (w.session t).active = true ∨ t.client = c

namespace Grown

variable {c : Nat} {s : Slot} {w'' : World}

theorem trans (h : Grown c w w') (h' : Grown c w' w'') : Grown c w w'' where
  opened := h'.opened.trans h.opened
  work := h'.work.trans h.work
  queue := h'.queue.trans h.queue
  kept t ht := by
    obtain ⟨ht', hbuf⟩ := h.kept t ht
    obtain ⟨ht'', hbuf'⟩ := h'.kept t ht'
    exact ⟨ht'', hbuf'.trans hbuf⟩
  client t ht := (h'.client t ht).elim (h.client t) Or.inr

theorem of_same (ho : w'.opened = w.opened) (hwork : w'.work = w.work)
    (hq : w'.jobQueue = w.jobQueue) (hs : w'.session = w.session) : Grown c w w' :=
  ⟨ho, hwork, hq, fun t ht => by rw [hs]; exact ⟨ht, rfl⟩, fun t ht => by rw [← hs]; exact .inl ht⟩

theorem of_joining (h : Joining s w w') (hs : (w.session s).active = false) (hc : s.client = c) :
    Grown c w w' := by
  refine ⟨h.opened, h.work, h.queue, fun t ht => ?_, fun t ht => ?_⟩
  · have hts : t ≠ s := by
      rintro rfl
      rw [hs] at ht
      cases ht
    rw [(h.session t hts).1]
    exact ⟨ht, (h.session t hts).2⟩
  · by_cases hts : t = s
    · exact .inr (by rw [hts]; exact hc)
    · rw [(h.session t hts).1] at ht
      exact .inl ht

end Grown

theorem createSessions_grown (count hdl q : Nat) (params : EncodeParams) (o : Creation) (k i : Nat)
    (chain : List Slot) (id : Nat) (w : World) :
    Grown (getIndexByHandler hdl) w (createSessions count hdl q params o k i chain id w).1 := by
  induction k generalizing i chain id w with
  | zero => exact .of_same rfl rfl rfl rfl
  | succ k ih =>
    rw [createSessions]
    split
    · exact .of_same rfl rfl rfl rfl
    next s hs =>
    obtain ⟨hc, -, hs⟩ := newSessionIdx_spec hs
    have hjoined := Grown.of_joining
      (joinChain_joining count i hdl q params (o.enqHandle i) (o.configure i) chain s w) hs hc
    by_cases hg : (!o.getHandle i) = true
    · rw [if_pos hg]
      exact .of_joining ((linkSession_joining count i chain s w).trans (Joining.setSession _ s _)) hs hc
    rw [if_neg hg]
    dsimp only
    by_cases hr : (joinChain count i hdl q params (o.enqHandle i) (o.configure i) chain s w).2 = true
    · rw [if_pos hr]
      exact hjoined.trans (ih ..)
    · rw [if_neg hr]
      exact hjoined

theorem createSession_grown (count hdl : Nat) (params : EncodeParams) (o : Creation) (w : World) :
    Grown (getIndexByHandler hdl) w (createSession count hdl params o w).1 := by
  have hqueues : Grown (getIndexByHandler hdl) w
      { w.setQueues w.nextQueues {} with nextQueues := w.nextQueues + 1 } := .of_same rfl rfl rfl rfl
  have hsessions : ∀ n, Grown (getIndexByHandler hdl) w (createSessions count hdl w.nextQueues params
      o n 0 [] 0 { w.setQueues w.nextQueues {} with nextQueues := w.nextQueues + 1 }).1 :=
    fun n => hqueues.trans (createSessions_grown ..)
  have hqueued : ∀ (v : World) (q : Nat) (f : SessionQueues → SessionQueues),
      Grown (getIndexByHandler hdl) w v → Grown (getIndexByHandler hdl) w (v.onQueues q f) :=
    fun v q f hv => hv.trans (.of_same rfl rfl rfl rfl)
  have hissued : ∀ (v : World) (id : Nat), Grown (getIndexByHandler hdl) w v →
      Grown (getIndexByHandler hdl) w (if id = 0 then v else { v with issued := id :: v.issued }) := by
    intro v id hv
    split
    · exact hv
    · exact hv.trans (.of_same rfl rfl rfl rfl)
  have hgrown := fun n => hissued _ (createSessions count hdl w.nextQueues params o n 0 [] 0
    { w.setQueues w.nextQueues {} with nextQueues := w.nextQueues + 1 }).2.2 (hsessions n)
  rw [createSession]
  by_cases hbufs : maxJpegBuf < params.numSrcBufs ∨ maxJpegBuf < params.numDstBufs
  · rw [if_pos hbufs]
    exact .of_same rfl rfl rfl rfl
  rw [if_neg hbufs]
  by_cases hclient : maxJpegClientNum ≤ getIndexByHandler hdl
  · rw [if_pos hclient]
    exact .of_same rfl rfl rfl rfl
  rw [if_neg hclient]
  by_cases hhandles : (!o.mallocHandles) = true
  · rw [if_pos hhandles]
    exact .of_same rfl rfl rfl rfl
  rw [if_neg hhandles]
  by_cases houtBufs : (!o.mallocOutBufs) = true
  · rw [if_pos houtBufs]
    exact .of_same rfl rfl rfl rfl
  rw [if_neg houtBufs]
  dsimp only
  split
  · exact hgrown _
  · dsimp only
    refine hqueued _ _ _ ?_
    exact hgrown _

theorem startJob_work {count : Nat} {job : EncodeJob} (o : Start) (w : World)
    (hv : validIdx job.sessionId = true) :
    (startJob count job o w).1.work = (reserveWorkBufs count o.alloc job w.numSessions w.work).1 ∧
      ∀ t, ((startJob count job o w).1.session t).workBuffer =
        if t = slotOf job.sessionId then
          (reserveWorkBufs count o.alloc job w.numSessions w.work).2.1
        else (w.session t).workBuffer := by
  have hset : ∀ b buf t, ((setWorkBufs (slotOf job.sessionId) b buf w).session t).workBuffer =
      if t = slotOf job.sessionId then buf else (w.session t).workBuffer := by
    intro b buf t
    unfold setWorkBufs
    rw [session_onSession]
    split_ifs <;> rfl
  have hcount : ∀ (v : World) t, ((countJob (slotOf job.sessionId) v).session t).workBuffer =
      (v.session t).workBuffer := by
    intro v t
    unfold countJob
    rw [session_onSession]
    by_cases ht : t = slotOf job.sessionId
    · rw [if_pos ht, ht]
    · rw [if_neg ht]
  unfold startJob
  dsimp only
  rw [if_neg (by rw [hv]; decide)]
  split_ifs
  · exact ⟨rfl, hset _ _⟩
  · exact ⟨rfl, hset _ _⟩
  · exact ⟨rfl, hset _ _⟩
  · exact ⟨rfl, fun t => (hcount _ t).trans (hset _ _ t)⟩
  · exact ⟨rfl, fun t => (hcount _ t).trans (hset _ _ t)⟩

end Jpeg
