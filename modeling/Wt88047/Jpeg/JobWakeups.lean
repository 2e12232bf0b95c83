import Wt88047.Jpeg.JobConservation

/-! The semaphore of the job manager against the jobs that wait: while one is queued, either the
semaphore is up or an ongoing job will raise it. -/

namespace Jpeg

open World

def Posts (w : World) (s : Slot) : Prop :=
  ∀ o, (∃ w', fbd s o w = some w' ∧ 0 < w'.jobSem) ∧
    ∀ c, ∃ w', eventHandler s (.error c) o w = some w' ∧ 0 < w'.jobSem

def WokenUp (w : World) : Prop :=
  w.inEncode = none → w.jobSem = 0 → w.jobQueue ≠ [] →
    ∃ n ∈ w.ongoingJobQ, ∃ s, Bound w s n ∧ Posts w s

def Frees (w w' : World) : Prop :=
  w'.ongoingJobQ.length < w.ongoingJobQ.length ∨ ∃ s, CheckedOut w s ∧ ¬CheckedOut w' s

def Stirred (w : World) : Prop := w.jobQueue ≠ [] → 0 < w.jobSem ∨ w.ongoingJobQ ≠ []

structure Wakeful (w : World) : Prop where
  bindings : Bindings w
  stirred : Stirred w
  atWork : ∀ s, CheckedOut w s → (w.session s).AtWork
  owned : ∀ s, (w.session s).active = true → ∃ h, (w.session s).omxHandle = some h

variable {w w' : World}

theorem Quiet.checkedOut_iff (h : Quiet w w') (s : Slot) : CheckedOut w' s ↔ CheckedOut w s := by
  unfold CheckedOut
  rw [(h.frame.session s).active, (h.frame.session s).queues, h.queues]

variable {s : Slot} {q : Nat}

theorem Taken.checkedOut_iff {n : JobNode} {job : EncodeJob} {auto : Bool}
    (h : Taken w w' n job s q auto) {t : Slot} (ht : t ≠ s) : CheckedOut w' t ↔ CheckedOut w t := by
  have hsame : ∀ r, t ∉ (w'.queues r).handles ↔ t ∉ (w.queues r).handles := by
    intro r
    by_cases hr : r = q
    · rw [hr, h.handles, List.mem_cons, not_or]
      exact ⟨fun hn => ⟨ht, hn⟩, fun hn => hn.2⟩
    · rw [h.queues r hr]
  unfold CheckedOut
  rw [(h.frame.session t).active, (h.frame.session t).queues]
  exact and_congr_right fun _ => forall₂_congr fun r _ => hsame r

theorem Finished.checkedOut_iff {o : Done} (h : Finished w w' s q o) {t : Slot} (ht : t ≠ s) :
    CheckedOut w' t ↔ CheckedOut w t := by
  have hsame : ∀ r, t ∉ (w'.queues r).handles ↔ t ∉ (w.queues r).handles := by
    intro r
    by_cases hr : r = q
    · rw [hr, h.handles, List.mem_append, List.mem_singleton, not_or]
      exact ⟨fun hn => hn.1, fun hn => ⟨hn, ht⟩⟩
    · rw [h.queues r hr]
  unfold CheckedOut
  rw [(h.frame.session t).active, (h.frame.session t).queues]
  exact and_congr_right fun _ => forall₂_congr fun r _ => hsame r

theorem Finished.not_checkedOut {o : Done} (h : Finished w w' s q o)
    (hq : (w.session s).queues = some q) : ¬CheckedOut w' s := by
  intro hs
  refine hs.2 q ((h.frame.session s).queues.trans hq) ?_
  rw [h.handles]
  exact List.mem_append_right _ (List.mem_singleton_self s)

theorem Extends.checkedOut_iff (h : Extends w w') (hw : Bindings w) (s : Slot) :
    CheckedOut w' s ↔ CheckedOut w s := by
  have hold : ∀ t, (w.session t).active = true → (CheckedOut w' t ↔ CheckedOut w t) := by
    intro t ht
    obtain ⟨id, hid, hmem⟩ := hw.chains.member t ht
    obtain ⟨q, -, hq⟩ := hw.chains.head id hid
    have hself := ((hq.mem_iff _).mp (List.mem_cons_self ..)).2
    have hqt := ((hq.mem_iff t).mp hmem).2
    unfold CheckedOut
    rw [h.session t ht]
    refine and_congr_right fun _ => forall₂_congr fun r hr => ?_
    obtain rfl : q = r := Option.some.inj (hqt.symm.trans hr)
    rw [h.queues id hid q hself]
  refine ⟨fun hs => ?_, fun hs => (hold s hs.1).mpr hs⟩
  by_cases hact : (w.session s).active = true
  · exact (hold s hact).mp hs
  · exfalso
    obtain ⟨id, hid, hmem⟩ := h.chains.member s hs.1
    obtain ⟨q, -, hq⟩ := h.chains.head id hid
    have hself := ((hq.mem_iff _).mp (List.mem_cons_self ..)).2
    by_cases hidw : id ∈ w.issued
    · rw [(h.old_chain hw hidw).1] at hmem
      obtain ⟨r, -, hr⟩ := hw.chains.head id hidw
      exact hact ((hr.mem_iff s).mp hmem).1
    · rw [← h.stocked id hid hidw q hself] at hmem
      exact hs.2 q ((hq.mem_iff s).mp (by
        rw [← h.stocked id hid hidw q hself]
        exact hmem)).2 hmem

theorem destroySession_checkedOut {o : Slot → Teardown} {id : Nat} (hw : Bindings w)
    (hid : id ∈ w.issued) (h : destroySession o (slotOf id) w = some w')
    (hs : (w'.session s).active = true) :
    w'.session s = w.session s ∧ (CheckedOut w' s → CheckedOut w s) := by
  obtain ⟨q, hself, hd, hkeep⟩ := destroySession_keeps hw hid h
  have hw' := destroySession_bindings hw hid h
  obtain ⟨j, hj, hmem⟩ := hw'.chains.member s hs
  obtain ⟨hj', hne, hchain, hsame⟩ := hkeep j hj
  rw [hchain] at hmem
  have hss := hsame s hmem
  obtain ⟨r, -, hr⟩ := hw.chains.head j hj'
  have hqs := ((hr.mem_iff s).mp hmem).2
  have hrq : r ≠ q := fun he => hne (hw.chains.queue_unique hid hj' hself
    (he ▸ ((hr.mem_iff _).mp (List.mem_cons_self ..)).2))
  refine ⟨hss, fun hout => ⟨hss ▸ hs, fun p hp => ?_⟩⟩
  obtain rfl : r = p := Option.some.inj (hqs.symm.trans hp)
  have hnot := hout.2 r (by rw [hss]; exact hqs)
  rw [hd.queues r hrq] at hnot
  exact hnot

theorem Bindings.ongoing_of_empty (hw : Bindings w) {n : JobNode} (hn : n ∈ w.jobQueue)
    (hq : (w.session (slotOf n.job.sessionId)).queues = some q) (h : (w.queues q).handles = []) :
    w.ongoingJobQ ≠ [] := by
  intro hnil
  have hnamed := hw.named n (List.mem_append_left _ hn)
  have hmatched := (hw.chain _ hnamed.issued q hq).matched
  have hfree := hmatched.eq_nil (by rw [hnil]; rfl) _ (List.mem_cons_self ..)
  rw [h] at hfree
  cases hfree

variable {e : Event}

theorem JobStep.stirred (h : JobStep w e w') (hw : Bindings w) (hs : Stirred w) : Stirred w' := by
  cases h with
  | unmoved h =>
    unfold Stirred
    rw [h.todo, h.ongoing, h.jobSem]
    exact hs
  | woken hsem h =>
    rcases h with hfull | hnil
    · refine fun _ => .inr fun hno => ?_
      rw [hno] at hfull
      exact absurd hfull (by decide)
    · exact fun hne => absurd hnil hne
  | unserved he hn hq h =>
    refine fun _ => .inr (hw.ongoing_of_empty ?_ hq h)
    rw [hn]
    exact List.mem_cons_self ..
  | taken hq h hwork =>
    refine fun _ => .inr ?_
    rw [h.ongoing]
    simp
  | failed hq h h' => exact fun _ => .inl h'.posted
  | finished h hs hq h' => exact fun _ => .inl h'.posted
  | accepted h hfit hjob hid => exact fun _ => .inl (Nat.succ_pos _)
  | dropped hn =>
    intro hne
    refine hs fun hnil => hne ?_
    rw [hnil]
    rfl
  | destroyed hid h =>
    obtain ⟨q, -, hd⟩ := Jpeg.destroyed h
    exact fun _ => .inl hd.posted
  | extended h =>
    have htodo : w'.jobQueue = w.jobQueue := congrArg (·.1) h.jobs
    have hongoing : w'.ongoingJobQ = w.ongoingJobQ := congrArg (·.2.1) h.jobs
    intro hne
    rw [htodo] at hne
    rw [hongoing, h.jobSem hne]
    exact hs hne

theorem JobStep.atWork (h : JobStep w e w') (hw : Bindings w)
    (hs : ∀ s, CheckedOut w s → (w.session s).AtWork) :
    ∀ s, CheckedOut w' s → (w'.session s).AtWork := by
  intro t ht
  cases h with
  | unmoved h => exact h.atWork t (hs t ((h.toQuiet.checkedOut_iff t).mp ht))
  | woken hsem h => exact hs t ht
  | unserved he hn hq h => exact hs t ht
  | @taken w' n job s q auto hq h hwork =>
    by_cases hts : t = s
    · rw [hts]
      exact hwork
    · rw [h.other t hts]
      exact hs t ((h.checkedOut_iff hts).mp ht)
  | @failed u w' n job s q auto hq h h' =>
    have hts : t ≠ s := fun he => h'.not_checkedOut (h.checkedOut hw hq).2 (he ▸ ht)
    rw [h'.other t hts, h.other t hts]
    exact hs t ((h.checkedOut_iff hts).mp ((h'.checkedOut_iff hts).mp ht))
  | @finished v w' s q h hs' hq h' =>
    have hts : t ≠ s := fun he => h'.not_checkedOut hq (he ▸ ht)
    rw [h'.other t hts]
    exact h.atWork t (hs t ((h.toQuiet.checkedOut_iff t).mp ((h'.checkedOut_iff hts).mp ht)))
  | accepted h hfit hjob hid => exact h.atWork t (hs t ((h.toQuiet.checkedOut_iff t).mp ht))
  | dropped hn => exact hs t ht
  | destroyed hid h =>
    obtain ⟨hsame, hout⟩ := destroySession_checkedOut hw hid h ht.1
    rw [hsame]
    exact hs t (hout ht)
  | extended h =>
    have ht' := (h.checkedOut_iff hw t).mp ht
    rw [h.session t ht'.1]
    exact hs t ht'

theorem JobFrame.owned (h : JobFrame w w')
    (hw : ∀ s, (w.session s).active = true → ∃ k, (w.session s).omxHandle = some k) :
    ∀ s, (w'.session s).active = true → ∃ k, (w'.session s).omxHandle = some k := by
  intro s hs
  rw [(h.session s).active] at hs
  rw [(h.session s).omxHandle]
  exact hw s hs

theorem JobStep.owned (h : JobStep w e w') (hw : Bindings w)
    (hs : ∀ s, (w.session s).active = true → ∃ k, (w.session s).omxHandle = some k) :
    ∀ s, (w'.session s).active = true → ∃ k, (w'.session s).omxHandle = some k := by
  cases h with
  | unmoved h => exact h.frame.owned hs
  | woken hsem h => exact hs
  | unserved he hn hq h => exact hs
  | taken hq h hwork => exact h.frame.owned hs
  | failed hq h h' => exact h'.frame.owned (h.frame.owned hs)
  | finished h hs' hq h' => exact h'.frame.owned (h.frame.owned hs)
  | accepted h hfit hjob hid => exact h.frame.owned hs
  | dropped hn => exact hs
  | destroyed hid h =>
    intro s hact
    obtain ⟨hsame, -⟩ := destroySession_checkedOut hw hid h hact
    rw [hsame] at hact ⊢
    exact hs s hact
  | extended h =>
    intro s hact
    rcases h.owned s hact with hold | hnew
    · rw [h.session s hold]
      exact hs s hold
    · exact hnew

theorem wakeful_init : Wakeful {} :=
  ⟨bindings_init, fun h => absurd rfl h, fun _ h => (by cases h.1), fun _ h => (by cases h)⟩

theorem step_wakeful {count : Nat} (hw : Wakeful w) (he : e.Keeps count w)
    (h : step count w e = some w') : Wakeful w' := by
  have hstep := step_jobStep hw.bindings he h
  exact ⟨hstep.bindings hw.bindings, hstep.stirred hw.bindings hw.stirred,
    hstep.atWork hw.bindings hw.atWork, hstep.owned hw.bindings hw.owned⟩

theorem JobStep.frees (h : JobStep w e w') (hw : Bindings w) (hf : Frees w w') : 0 < w'.jobSem := by
  have hnone : w'.ongoingJobQ.length = w.ongoingJobQ.length →
      (∀ s, CheckedOut w' s ↔ CheckedOut w s) → 0 < w'.jobSem := by
    intro hlen hsame
    rcases hf with hlt | ⟨s, hs, hs'⟩
    · omega
    · exact absurd ((hsame s).mpr hs) hs'
  cases h with
  | unmoved h => exact hnone (by rw [h.ongoing]) h.toQuiet.checkedOut_iff
  | woken hsem h => exact hnone rfl fun _ => Iff.rfl
  | unserved he hn hq h => exact hnone rfl fun _ => Iff.rfl
  | @taken w' n job s q auto hq h hwork =>
    rcases hf with hlt | ⟨t, ht, ht'⟩
    · rw [h.ongoing, List.length_append] at hlt
      omega
    · by_cases hts : t = s
      · exact absurd (hts ▸ (h.checkedOut hw hq).1) ht'
      · exact absurd ((h.checkedOut_iff hts).mpr ht) ht'
  | failed hq h h' => exact h'.posted
  | finished h hs hq h' => exact h'.posted
  | accepted h hfit hjob hid => exact Nat.succ_pos _
  | dropped hn => exact hnone rfl fun _ => Iff.rfl
  | destroyed hid h =>
    obtain ⟨q, -, hd⟩ := Jpeg.destroyed h
    exact hd.posted
  | extended h =>
    have hongoing : w'.ongoingJobQ = w.ongoingJobQ := congrArg (·.2.1) h.jobs
    exact hnone (by rw [hongoing]) (h.checkedOut_iff hw)

theorem jobDone_posts {o : Done} (hq : (w.session s).queues = some q) :
    ∃ w', jobDone o s w = some w' ∧ 0 < w'.jobSem := by
  unfold jobDone
  dsimp only
  rw [hq]
  exact ⟨_, rfl, Nat.succ_pos _⟩

theorem callback_session (status : JobStatus) (s : Slot) (w : World) :
    (callback status s w).session = w.session := by
  unfold callback
  dsimp only
  split_ifs <;> rfl

theorem Wakeful.posts (hw : Wakeful w) {n : JobNode} (hn : n ∈ w.ongoingJobQ) (hs : Bound w s n) :
    Posts w s := by
  obtain ⟨q, -, hq⟩ := hw.bindings.chains.queues_lt hs.1.1
  obtain ⟨k, hk⟩ := hw.owned s hs.1.1
  obtain ⟨henc, habort⟩ := hw.atWork s hs.1
  obtain ⟨-, hout, -⟩ := (hw.bindings.bound_iff hq hn).mp hs
  have hcb := (hw.bindings.named n (List.mem_append_right _ hn)).answered s (Pool.mem_out.mp hout).1
  intro o
  refine ⟨?_, fun c => ?_⟩
  · unfold fbd
    dsimp only
    rw [if_neg (by rw [hk]; simp), if_neg (by rw [habort]; simp), if_pos hcb]
    exact jobDone_posts (by rw [callback_session]; exact hq)
  · unfold eventHandler
    dsimp only
    rw [if_neg (by rw [hk]; simp), if_neg (by rw [habort]; simp), if_pos henc]
    refine jobDone_posts (q := q) ?_
    rw [callback_session, session_onSession, if_pos rfl]
    exact hq

theorem Wakeful.wokenUp (hw : Wakeful w) : WokenUp w := by
  intro _ hsem hne
  have hongoing := (hw.stirred hne).resolve_left (by omega)
  obtain ⟨n, rest, hcons⟩ := List.exists_cons_of_ne_nil hongoing
  have hn : n ∈ w.ongoingJobQ := by
    rw [hcons]
    exact List.mem_cons_self ..
  obtain ⟨s, hs, -⟩ := hw.bindings.bound hn
  exact ⟨n, hn, s, hs, hw.posts hn hs⟩

/-- As long as no step loses a session, the job manager is woken for every queued job, and whatever
frees a slot or a session wakes it. -/
theorem jobs_never_stall {count : Nat} {es : List Event} {w : World}
    (hkeeps : Runs.Along (step count) (fun v e => e.Keeps count v) {} es)
    (h : Runs.play (step count) {} es = some w) :
    WokenUp w ∧ ∀ pre e post u v, es = pre ++ e :: post → Runs.play (step count) {} pre = some u →
      step count u e = some v → Frees u v → 0 < v.jobSem := by
  have hinv : ∀ {fs : List Event} {u : World},
      Runs.Along (step count) (fun v e => e.Keeps count v) {} fs →
        Runs.play (step count) {} fs = some u → Wakeful u := fun hfs hu =>
    Runs.play_invariant (P := fun v e => e.Keeps count v)
      (fun _ _ _ hv he hs => step_wakeful hv he hs) wakeful_init hfs hu
  refine ⟨(hinv hkeeps h).wokenUp, ?_⟩
  rintro pre e post u v rfl hu hv hfrees
  have hw := hinv hkeeps.append_left hu
  exact (step_jobStep hw.bindings (hkeeps.append_right hu).head hv).frees hw.bindings hfrees

/-- Two jobs on one session: the second waits for the first. -/
theorem jobs_never_stall_run :
    ∃ w, Runs.play (step 1) {} [.call (.open true),
        .call (.createSession 256 { numSrcBufs := 1, numDstBufs := 1, jpegCb := true } {}),
        .call (.startJob (some { sessionId := packSession ⟨0, 0⟩, dstIndex := -1 }) {}),
        .call (.startJob (some { sessionId := packSession ⟨0, 0⟩, dstIndex := -1 }) {}),
        .wake {}, .submit true {}, .wake {}] = some w ∧ WokenUp w ∧ w.jobSem = 0 ∧
      w.jobQueue ≠ [] := by
  refine ⟨_, rfl, (@jobs_never_stall 1 [.call (.open true),
    .call (.createSession 256 { numSrcBufs := 1, numDstBufs := 1, jpegCb := true } {}),
    .call (.startJob (some { sessionId := packSession ⟨0, 0⟩, dstIndex := -1 }) {}),
    .call (.startJob (some { sessionId := packSession ⟨0, 0⟩, dstIndex := -1 }) {}),
    .wake {}, .submit true {}, .wake {}] _ (by decide) rfl).1, by decide, by decide⟩

/-- The abort of the only ongoing job leaves the next one waiting for nothing. -/
theorem stalled_by_abort :
    ¬∀ (count : Nat) (es : List Event) (w : World), Runs.play (step count) {} es = some w →
      WokenUp w ∧ ∀ pre e post u v, es = pre ++ e :: post →
        Runs.play (step count) {} pre = some u → step count u e = some v → Frees u v →
          0 < v.jobSem := by
  intro hall
  obtain ⟨hafter, -⟩ := hall 1 [.call (.open true),
    .call (.createSession 256 { numSrcBufs := 1, numDstBufs := 1, jpegCb := true } {}),
    .call (.startJob (some { sessionId := packSession ⟨0, 0⟩, dstIndex := -1 }) {}),
    .call (.startJob (some { sessionId := packSession ⟨0, 0⟩, dstIndex := -1 }) {}),
    .wake {}, .submit true {}, .wake {}, .call (.abortJob (packJob (packSession ⟨0, 0⟩) 0))] _ rfl
  obtain ⟨n, hn, -⟩ := hafter (by decide) (by decide) (by decide)
  have hnil : n ∉ ([] : List JobNode) := List.not_mem_nil
  exact hnil hn

end Jpeg
