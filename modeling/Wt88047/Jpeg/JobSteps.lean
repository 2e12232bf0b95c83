import Wt88047.Jpeg.JobBindings

/-! The steps that keep the sessions and the ongoing jobs together, and what such a step can do. -/

namespace Jpeg

open World

/-- The job manager finds what it needs for the job it takes up, and OMX or the client do not
answer for a session that has no job. -/
def TakeUp.Serves (o : TakeUp) (w : World) : Prop :=
  maxConcurrentJobs ≤ w.ongoingJobQ.length ∨
    ∀ n ∈ w.jobQueue.head?, ∀ q ∈ (w.session (slotOf n.jobId)).queues,
      (w.queues q).handles ≠ [] → o.enqOngoing = true ∧ o.done.handle = true ∧
        (n.job.dstIndex < 0 → (w.queues q).outBufs.headD 0 ≠ 0)

/-- A job is accepted under the id of a chain with callbacks, and its own id is not in use. -/
def Start.Fits (job : EncodeJob) (w : World) : Prop :=
  job.sessionId ∈ w.issued ∧
    (∀ s ∈ chainOf w (slotOf job.sessionId), (w.session s).params.jpegCb = true) ∧
    packJob job.sessionId (w.session (slotOf job.sessionId)).jobHist ∉
      (w.jobQueue ++ w.ongoingJobQ).map (·.jobId)

def Call.Keeps (count : Nat) (w : World) : Call → Prop
  | .open _ => True
  | .close hdl => hdl = 0 ∨ w.opened = false ∨ LiveClient w hdl ∧
      ∀ i < maxSession, (w.session ⟨getIndexByHandler hdl, i⟩).active = false
  | .createSession hdl params o => hdl = 0 ∨ w.opened = false ∨
      LiveClient w hdl ∧ o.Stocks count params
  | .destroySession id _ => id = 0 ∨ w.opened = false ∨ validIdx id = false ∨
      ∃ j ∈ w.issued, slotOf j = slotOf id
  | .startJob none _ => True
  | .startJob (some job) o => w.opened = false ∨ ¬o.Accepts count job w ∨ Start.Fits job w
  | .abortJob id => id = 0 ∨ w.opened = false ∨ ∀ n ∈ w.ongoingJobQ, n.jobId ≠ id

/-- The step loses no session and no job, and none comes twice. -/
def Event.Keeps (count : Nat) (w : World) : Event → Prop
  | .call c => c.Keeps count w
  | .wake o => o.Serves w
  | .submit taken o => taken = true ∨ o.handle = true ∧ ∀ s ∈ w.inEncode, CheckedOut w s
  | .fillBufferDone s o => (w.session s).params.jpegCb = false ∨ (w.session s).abortState ≠ .none ∨
      o.handle = true ∧ CheckedOut w s
  | .omxEvent s (.error _) o => (w.session s).abortState = .init ∨
      (w.session s).encoding = false ∨ o.handle = true ∧ CheckedOut w s
  | .omxEvent _ .cmdComplete _ => True

instance (o : TakeUp) (w : World) : Decidable (o.Serves w) :=
  inferInstanceAs (Decidable (_ ∨ ∀ n ∈ w.jobQueue.head?, ∀ q ∈ (w.session (slotOf n.jobId)).queues,
    (w.queues q).handles ≠ [] → _ ∧ _ ∧ (n.job.dstIndex < 0 → (w.queues q).outBufs.headD 0 ≠ 0)))

instance (job : EncodeJob) (w : World) : Decidable (Start.Fits job w) :=
  inferInstanceAs (Decidable (job.sessionId ∈ w.issued ∧
    (∀ s ∈ chainOf w (slotOf job.sessionId), (w.session s).params.jpegCb = true) ∧
    packJob job.sessionId (w.session (slotOf job.sessionId)).jobHist ∉
      (w.jobQueue ++ w.ongoingJobQ).map (·.jobId)))

instance Event.decidableKeeps (count : Nat) (w : World) : ∀ e : Event, Decidable (e.Keeps count w)
  | .call (.open _) => isTrue trivial
  | .call (.close hdl) => inferInstanceAs (Decidable (hdl = 0 ∨ w.opened = false ∨
      (getIndexByHandler hdl < maxJpegClientNum ∧ (w.client (getIndexByHandler hdl)).isUsed = true ∧
        (w.client (getIndexByHandler hdl)).clientHandle = hdl) ∧
      ∀ i < maxSession, (w.session ⟨getIndexByHandler hdl, i⟩).active = false))
  | .call (.createSession hdl params o) => inferInstanceAs (Decidable (hdl = 0 ∨ w.opened = false ∨
      (getIndexByHandler hdl < maxJpegClientNum ∧ (w.client (getIndexByHandler hdl)).isUsed = true ∧
        (w.client (getIndexByHandler hdl)).clientHandle = hdl) ∧ o.Stocks count params))
  | .call (.destroySession id _) => inferInstanceAs (Decidable (id = 0 ∨ w.opened = false ∨
      validIdx id = false ∨ ∃ j ∈ w.issued, slotOf j = slotOf id))
  | .call (.startJob none _) => isTrue trivial
  | .call (.startJob (some job) o) => inferInstanceAs (Decidable (w.opened = false ∨
      ¬o.Accepts count job w ∨ Start.Fits job w))
  | .call (.abortJob id) => inferInstanceAs (Decidable (id = 0 ∨ w.opened = false ∨
      ∀ n ∈ w.ongoingJobQ, n.jobId ≠ id))
  | .wake o => inferInstanceAs (Decidable (o.Serves w))
  | .submit taken o => inferInstanceAs (Decidable (taken = true ∨ o.handle = true ∧
      ∀ s ∈ w.inEncode, CheckedOut w s))
  | .fillBufferDone s o => inferInstanceAs (Decidable ((w.session s).params.jpegCb = false ∨
      (w.session s).abortState ≠ .none ∨ o.handle = true ∧ CheckedOut w s))
  | .omxEvent s (.error _) o => inferInstanceAs (Decidable ((w.session s).abortState = .init ∨
      (w.session s).encoding = false ∨ o.handle = true ∧ CheckedOut w s))
  | .omxEvent _ .cmdComplete _ => isTrue trivial

/-- The allocations of `mm_jpegenc_job_done`, in the step that may come to it. -/
def Event.done : Event → Done
  | .wake o => o.done
  | .submit _ o | .fillBufferDone _ o | .omxEvent _ _ o => o
  | .call _ => {}

inductive JobStep (w : World) (e : Event) : World → Prop where
  | unmoved {w'} (h : Unmoved w w') : JobStep w e w'
  | woken (hsem : 0 < w.jobSem)
      (h : maxConcurrentJobs ≤ w.ongoingJobQ.length ∨ w.jobQueue = []) :
      JobStep w e { w with jobSem := w.jobSem - 1 }
  | unserved {n rest q o} (he : e = .wake o) (hn : w.jobQueue = n :: rest)
      (hq : (w.session (slotOf n.job.sessionId)).queues = some q) (h : (w.queues q).handles = []) :
      JobStep w e { w with
        jobSem := w.jobSem - 1, jobQueue := if o.enqHead then n :: rest else rest }
  | taken {w' n job s q auto} (hq : (w.session (slotOf n.job.sessionId)).queues = some q)
      (h : Taken w w' n job s q auto) (hwork : (w'.session s).AtWork) : JobStep w e w'
  | failed {u w' n job s q auto} (hq : (w.session (slotOf n.job.sessionId)).queues = some q)
      (h : Taken w u n job s q auto) (h' : Finished u w' s q e.done) : JobStep w e w'
  | finished {v w' s q} (h : Unmoved w v) (hs : CheckedOut v s) (hq : (v.session s).queues = some q)
      (h' : Finished v w' s q e.done) : JobStep w e w'
  | accepted {v job n} (h : Unmoved w v) (hfit : Start.Fits job w)
      (hjob : n.job = { job with serial := w.accepted })
      (hid : n.jobId = packJob job.sessionId (w.session (slotOf job.sessionId)).jobHist) :
      JobStep w e (enqJob n v)
  | dropped {n} (hn : n ∈ w.jobQueue) :
      JobStep w e { w with
        jobQueue := w.jobQueue.eraseP (·.jobId = n.jobId), aborted := w.aborted ++ [n.job.serial] }
  | destroyed {w' id o} (hid : id ∈ w.issued) (h : destroySession o (slotOf id) w = some w') :
      JobStep w e w'
  | extended {w'} (h : Extends w w') : JobStep w e w'

theorem Quiet.checkedOut {w w' : World} {s : Slot} (h : Quiet w w') (hs : CheckedOut w s) :
    CheckedOut w' s := by
  refine ⟨(h.frame.session s).active.trans hs.1, fun q hq => ?_⟩
  rw [(h.frame.session s).queues] at hq
  rw [h.queues]
  exact hs.2 q hq

theorem Bindings.finished {w w' : World} {s : Slot} {o : Done} {status : JobStatus}
    (hw : Bindings w) (hs : CheckedOut w s) (ho : o.handle = true)
    (h : jobDone o s (callback status s w) = some w') :
    ∃ q, (w.session s).queues = some q ∧ Finished w w' s q o := by
  obtain ⟨q, -, hq⟩ := hw.chains.queues_lt hs.1
  obtain ⟨id, -, -, hout, n, hn, hnid, -⟩ := hw.checkedOut hs hq
  have hcb := (hw.named n (List.mem_append_right _ hn)).answered s (by
    rw [hnid]
    exact (Pool.mem_out.mp hout).1)
  exact ⟨q, hq, Jpeg.finished hq hcb ho h⟩

theorem Taken.checkedOut {w w' : World} {n : JobNode} {job : EncodeJob} {s : Slot} {q : Nat}
    {auto : Bool} (h : Taken w w' n job s q auto) (hw : Bindings w)
    (hq : (w.session (slotOf n.job.sessionId)).queues = some q) :
    CheckedOut w' s ∧ (w'.session s).queues = some q := by
  have hnmem : n ∈ w.jobQueue := by
    rw [h.todo]
    exact List.mem_cons_self ..
  have hn := hw.named n (List.mem_append_left _ hnmem)
  have hc := hw.chain _ hn.issued q hq
  have hmem := hc.sub s (by
    rw [h.handles]
    exact List.mem_cons_self ..)
  obtain ⟨hact, hqueue⟩ := ((hw.chains.isHead hn.issued hq).mem_iff s).mp hmem
  have hqueue' : (w'.session s).queues = some q := (h.frame.session s).queues.trans hqueue
  refine ⟨⟨(h.frame.session s).active.trans hact, fun r hr => ?_⟩, hqueue'⟩
  obtain rfl : q = r := Option.some.inj (hqueue'.symm.trans hr)
  have hnodup := hc.nodup
  rw [h.handles] at hnodup
  exact (List.nodup_cons.mp hnodup).1

theorem wake_jobStep {o : TakeUp} {w w' : World} (hw : Bindings w) (ho : o.Serves w)
    (h : jobmgrWake o w = some w') : JobStep w (.wake o) w' := by
  unfold jobmgrWake at h
  by_cases hidle : w.jobSem = 0 ∨ w.inEncode ≠ none
  · rw [if_pos hidle] at h
    cases h
  rw [if_neg hidle] at h
  have hsem : 0 < w.jobSem := Nat.pos_of_ne_zero fun h0 => hidle (.inl h0)
  by_cases hfull : maxConcurrentJobs ≤ w.ongoingJobQ.length
  · rw [if_pos hfull] at h
    obtain rfl := Option.some.inj h
    exact .woken hsem (.inl hfull)
  rw [if_neg hfull] at h
  rcases hn : w.jobQueue with - | ⟨n, rest⟩
  · rw [hn] at h
    obtain rfl := Option.some.inj h
    have hstep : JobStep w (.wake o) { w with jobSem := w.jobSem - 1 } := .woken hsem (.inr hn)
    rw [hn] at hstep
    exact hstep
  rw [hn] at h
  have hnmem : n ∈ w.jobQueue := by
    rw [hn]
    exact List.mem_cons_self ..
  have hnamed := hw.named n (List.mem_append_left _ hnmem)
  have hact := (hw.chains.head_active hnamed.issued).1
  obtain ⟨q, -, hq⟩ := hw.chains.queues_lt hact
  obtain ⟨hclient, hidx⟩ := hw.chains.range _ hact
  have hslot : getSession n.jobId = some (slotOf n.jobId) := by
    have hvalid : validIdx n.jobId = true := by
      rw [← hnamed.slot] at hclient hidx
      exact Bool.and_eq_true_iff.mpr ⟨decide_eq_true hidx, decide_eq_true hclient⟩
    unfold getSession
    rw [if_pos hvalid]
  have hhead := hw.chains.isHead hnamed.issued hq
  have hc := hw.chain _ hnamed.issued q hq
  have hq' : (w.session (slotOf n.jobId)).queues = some q := by
    rw [hnamed.slot]
    exact hq
  have hserves := (ho.resolve_left hfull) n (by rw [hn]; rfl) q hq'
  rcases processEncodingJob_cases hn hslot hq'
    (fun s hs => ((hhead.mem_iff s).mp (hc.sub s hs)).2)
    (fun hne => ⟨(hserves hne).1, (hserves hne).2.2⟩) h with ⟨hnil, rfl⟩ | ⟨s, job, auto, u, ht, hu⟩
  · exact .unserved rfl hn hq hnil
  · have hne : (w.queues q).handles ≠ [] := by
      rw [ht.handles]
      simp
    rcases hu with ⟨rfl, hwork⟩ | hd
    · exact .taken hq ht hwork
    · obtain ⟨hs, hqs⟩ := ht.checkedOut hw hq
      obtain ⟨r, hr, hfin⟩ := (ht.bindings hw hq).finished hs (hserves hne).2.1 hd
      obtain rfl : q = r := Option.some.inj (hqs.symm.trans hr)
      exact .failed hq ht hfin

theorem call_jobStep {count : Nat} {c : Call} {w w' : World} {r : Reply} (hw : Bindings w)
    (hc : c.Keeps count w) (h : call count w c = some (w', r)) : JobStep w (.call c) w' := by
  cases call_effect h with
  | refused c => exact .unmoved (.refl w)
  | opened init => exact .extended (jpegOpen_extends hw.chains hw.clients init)
  | closed hdl =>
    refine .extended (intfClose_extends hw.chains hw.clients (fun hnil => ?_) hc)
    have hnone : w.jobQueue ++ w.ongoingJobQ = [] := by
      refine List.eq_nil_iff_forall_not_mem.mpr fun n hn => ?_
      have hissued := (hw.named n hn).issued
      rw [hnil] at hissued
      cases hissued
    exact List.append_eq_nil_iff.mp hnone
  | created params o hz ho =>
    obtain ⟨hlive, hstocks⟩ := (hc.resolve_left hz).resolve_left ho
    exact .extended (createSession_extends hw.chains hw.clients hlive hstocks)
  | destroyed hz ho hv hd =>
    obtain ⟨j, hj, hslot⟩ := ((hc.resolve_left hz).resolve_left ho).resolve_left fun h => by
      rw [h] at hv
      cases hv
    rw [← hslot] at hd
    exact .destroyed hj hd
  | started job o ho =>
    rcases startJob_cases count job o w with hm | ⟨hacc, n, hjob, hid, v, hv, he⟩
    · exact .unmoved hm
    · have hfit := (hc.resolve_left ho).resolve_left fun h => h hacc
      rw [he]
      exact .accepted hv hfit hjob hid
  | aborted hz ho =>
    have hno := (hc.resolve_left hz).resolve_left ho
    rcases abortJob_cases hno with he | ⟨n, hn, hid, he⟩
    · rw [he]
      exact .unmoved (.refl w)
    · rw [he, ← hid]
      exact .dropped hn

theorem step_jobStep {count : Nat} {w w' : World} {e : Event} (hw : Bindings w)
    (he : e.Keeps count w) (h : step count w e = some w') : JobStep w e w' := by
  cases e with
  | call c =>
    obtain ⟨⟨v, r⟩, hv, rfl⟩ := Option.map_eq_some_iff.mp h
    exact call_jobStep hw he hv
  | wake o => exact wake_jobStep hw he h
  | submit taken o =>
    obtain ⟨s, hs, hm, ⟨-, rfl⟩ | ⟨htaken, hd⟩⟩ := encodeSubmit_cases h
    · exact .unmoved hm
    · obtain ⟨ho, hout⟩ := he.resolve_left (by rw [htaken]; decide)
      have hout' := hm.toQuiet.checkedOut (hout s hs)
      obtain ⟨q, hq, hfin⟩ := (hm.bindings hw).finished hout' ho hd
      exact .finished hm hout' hq hfin
  | fillBufferDone s o =>
    rcases fbd_cases h with hm | ⟨hcb, habort, hd⟩
    · exact .unmoved hm
    · obtain ⟨ho, hout⟩ := (he.resolve_left (by rw [hcb]; decide)).resolve_left fun h => h habort
      obtain ⟨q, hq, hfin⟩ := hw.finished hout ho hd
      exact .finished (.refl w) hout hq hfin
  | omxEvent s ev o =>
    rcases eventHandler_cases h with hm | ⟨hinit, henc, ⟨c, rfl⟩, v, hm, hd⟩
    · exact .unmoved hm
    · obtain ⟨ho, hout⟩ := (he.resolve_left hinit).resolve_left (by rw [henc]; decide)
      have hout' := hm.toQuiet.checkedOut hout
      obtain ⟨q, hq, hfin⟩ := (hm.bindings hw).finished hout' ho hd
      exact .finished hm hout' hq hfin

theorem JobStep.bindings {w w' : World} {e : Event} (h : JobStep w e w') (hw : Bindings w) :
    Bindings w' := by
  cases h with
  | unmoved h => exact h.bindings hw
  | woken hsem h =>
    exact (quiet_jobs w w.work _ w.jobQueue w.inEncode w.accepted w.aborted).bindings hw hw.ids
      fun n hn => hw.named n (List.mem_append_left _ hn)
  | @unserved n rest q o he hn hq h =>
    have hsub : (if o.enqHead then n :: rest else rest).Sublist w.jobQueue := by
      rw [hn]
      split_ifs
      · exact .refl _
      · exact List.sublist_cons_self ..
    refine (quiet_jobs w w.work _ _ w.inEncode w.accepted w.aborted).bindings hw ?_ fun m hm =>
      hw.named m (List.mem_append_left _ (hsub.subset hm))
    exact hw.ids.sublist ((hsub.append (.refl _)).map _)
  | taken hq h hwork => exact h.bindings hw hq
  | failed hq h h' =>
    obtain ⟨hs, hqs⟩ := h.checkedOut hw hq
    exact h'.bindings (h.bindings hw hq) hs hqs
  | finished h hs hq h' => exact h'.bindings (h.bindings hw) hs hq
  | @accepted v job n h hfit hjob hid =>
    have hv := h.bindings hw
    have hnid : n.job.sessionId = job.sessionId := by rw [hjob]
    have hnamed : NamedJob w n := by
      refine ⟨by rw [hnid]; exact hfit.1, by rw [hnid, hid]; exact slotOf_packJob .., ?_⟩
      rw [hnid]
      exact hfit.2.1
    refine (quiet_jobs v v.work _ (v.jobQueue ++ [n]) v.inEncode _ v.aborted).bindings hv ?_ ?_
    · have hfresh : n.jobId ∉ (v.jobQueue ++ v.ongoingJobQ).map (·.jobId) := by
        rw [hid, h.todo, h.ongoing]
        exact hfit.2.2
      have hperm : (v.jobQueue ++ [n] ++ v.ongoingJobQ).Perm (n :: (v.jobQueue ++ v.ongoingJobQ)) := by
        rw [List.append_assoc]
        exact List.perm_middle
      exact (hperm.map (·.jobId)).nodup_iff.mpr (List.nodup_cons.mpr ⟨hfresh, hv.ids⟩)
    · intro m hm
      rcases List.mem_append.mp hm with hm | hm
      · exact hv.named m (List.mem_append_left _ hm)
      · rw [List.mem_singleton.mp hm]
        exact h.frame.named hnamed
  | @dropped n hn =>
    have hsub : (w.jobQueue.eraseP (·.jobId = n.jobId)).Sublist w.jobQueue := List.eraseP_sublist
    refine (quiet_jobs w w.work w.jobSem _ w.inEncode w.accepted _).bindings hw ?_ fun m hm =>
      hw.named m (List.mem_append_left _ (hsub.subset hm))
    exact hw.ids.sublist ((hsub.append (.refl _)).map _)
  | destroyed hid h => exact destroySession_bindings hw hid h
  | extended h => exact h.bindings hw

end Jpeg
