import Wt88047.Lib.Pool
import Wt88047.Jpeg.ChainStock

/-! The sessions of a chain and its ongoing jobs: a session off its queue stands for one ongoing job
and the job for it, as long as no step loses or invents one of them. -/

namespace Jpeg

open World

def CheckedOut (w : World) (s : Slot) : Prop :=
  (w.session s).active = true ∧ ∀ q ∈ (w.session s).queues, s ∉ (w.queues q).handles

instance (w : World) (s : Slot) : Decidable (CheckedOut w s) :=
  inferInstanceAs (Decidable (_ ∧ ∀ q ∈ (w.session s).queues, s ∉ (w.queues q).handles))

structure ChainBinding (w : World) (id q : Nat) : Prop where
  sub : ∀ s ∈ (w.queues q).handles, s ∈ chainOf w (slotOf id)
  nodup : (w.queues q).handles.Nodup
  matched : Pool.Matched (chainOf w (slotOf id)) (w.queues q).handles
    (fun s => (w.session s).binding)
    ((w.ongoingJobQ.filter (·.job.sessionId = id)).map JobNode.binding)

structure NamedJob (w : World) (n : JobNode) : Prop where
  issued : n.job.sessionId ∈ w.issued
  slot : slotOf n.jobId = slotOf n.job.sessionId
  answered : ∀ s ∈ chainOf w (slotOf n.job.sessionId), (w.session s).params.jpegCb = true

structure Bindings (w : World) : Prop where
  chains : ChainShape w
  clients : w.numClients = usedClients w
  chain : ∀ id ∈ w.issued, ∀ q, (w.session (slotOf id)).queues = some q → ChainBinding w id q
  ids : ((w.jobQueue ++ w.ongoingJobQ).map (·.jobId)).Nodup
  named : ∀ n ∈ w.jobQueue ++ w.ongoingJobQ, NamedJob w n

theorem bindings_init : Bindings {} :=
  ⟨⟨fun _ h => (by cases h), fun _ h => (by cases h), fun _ h => (by cases h), fun _ h => (by cases h),
    fun _ h => (by cases h), fun _ h => (by cases h)⟩, rfl, fun _ h => (by cases h), List.nodup_nil,
    fun _ h => (by cases h)⟩

variable {id : Nat}

theorem ChainShape.isHead {w : World} {q : Nat} (hw : ChainShape w) (hid : id ∈ w.issued)
    (hq : (w.session (slotOf id)).queues = some q) : IsHead w id q := by
  obtain ⟨r, -, hr⟩ := hw.head id hid
  have hself := ((hr.mem_iff _).mp (List.mem_cons_self ..)).2
  obtain rfl : q = r := Option.some.inj (hq.symm.trans hself)
  exact hr

theorem ChainShape.queue_unique {w : World} {j q : Nat} (hw : ChainShape w) (hid : id ∈ w.issued)
    (hj : j ∈ w.issued) (hq : (w.session (slotOf id)).queues = some q)
    (hq' : (w.session (slotOf j)).queues = some q) : j = id :=
  hw.own id hid j hj (((hw.isHead hid hq).mem_iff _).mpr ⟨(hw.head_active hj).1, hq'⟩)

theorem JobFrame.chainOf {w w' : World} (h : JobFrame w w') (s : Slot) :
    chainOf w' s = chainOf w s := by
  unfold Jpeg.chainOf
  rw [(h.session s).nextSession]

theorem JobFrame.counted {w w' : World} (h : JobFrame w w') (hc : w.numClients = usedClients w) :
    w'.numClients = usedClients w' := by
  unfold usedClients
  rw [h.numClients, h.client]
  exact hc

variable {n : JobNode}

theorem JobFrame.named {w w' : World} (h : JobFrame w w') (hn : NamedJob w n) : NamedJob w' n := by
  refine ⟨by rw [h.issued]; exact hn.issued, hn.slot, fun s hs => ?_⟩
  rw [h.chainOf] at hs
  rw [(h.session s).params]
  exact hn.answered s hs

namespace Bindings

variable {w w' : World} {s : Slot} {q : Nat}

theorem checkedOut (hw : Bindings w) (hs : CheckedOut w s) (hq : (w.session s).queues = some q) :
    ∃ id ∈ w.issued, (w.session (slotOf id)).queues = some q ∧
      s ∈ Pool.out (chainOf w (slotOf id)) (w.queues q).handles ∧
      ∃ n ∈ w.ongoingJobQ, n.job.sessionId = id ∧ n.binding = (w.session s).binding := by
  obtain ⟨id, hid, hmem⟩ := hw.chains.member s hs.1
  obtain ⟨r, -, hr⟩ := hw.chains.head id hid
  obtain rfl : q = r := Option.some.inj (hq.symm.trans ((hr.mem_iff s).mp hmem).2)
  have hself := ((hr.mem_iff _).mp (List.mem_cons_self ..)).2
  have hout := Pool.mem_out.mpr ⟨hmem, hs.2 q hq⟩
  obtain ⟨n, hn, he⟩ := List.mem_map.mp ((hw.chain id hid q hself).matched.mem_loans hout)
  obtain ⟨hn, hid'⟩ := List.mem_filter.mp hn
  exact ⟨id, hid, hself, hout, n, hn, by simpa using hid', he⟩

theorem ongoing_unique (hw : Bindings w) {m : JobNode} (hn : n ∈ w.ongoingJobQ)
    (hm : m ∈ w.ongoingJobQ) (h : m.jobId = n.jobId) : m = n := by
  have hids := hw.ids
  rw [List.map_append] at hids
  exact List.inj_on_of_nodup_map hids.of_append_right hm hn h

theorem todo_unique (hw : Bindings w) {m : JobNode} (hn : n ∈ w.jobQueue) (hm : m ∈ w.jobQueue)
    (h : m.jobId = n.jobId) : m = n := by
  have hids := hw.ids
  rw [List.map_append] at hids
  exact List.inj_on_of_nodup_map hids.of_append_left hm hn h

end Bindings

theorem Quiet.bindings {w w' : World} (h : Quiet w w') (hw : Bindings w)
    (hids : ((w'.jobQueue ++ w'.ongoingJobQ).map (·.jobId)).Nodup)
    (hnamed : ∀ n ∈ w'.jobQueue, NamedJob w n) : Bindings w' := by
  refine ⟨h.frame.chains hw.chains, h.frame.counted hw.clients, fun id hid q hq => ?_, hids, fun n hn => h.frame.named ?_⟩
  · rw [h.frame.issued] at hid
    rw [(h.frame.session _).queues] at hq
    have hc := hw.chain id hid q hq
    refine ⟨?_, ?_, ?_⟩
    · rw [h.queues, h.frame.chainOf]
      exact hc.sub
    · rw [h.queues]
      exact hc.nodup
    · rw [h.queues, h.frame.chainOf, h.ongoing]
      exact hc.matched.congr fun s _ => (h.session s).binding
  · rcases List.mem_append.mp hn with hn | hn
    · exact hnamed n hn
    · rw [h.ongoing] at hn
      exact hw.named n (List.mem_append_right _ hn)

theorem Unmoved.bindings {w w' : World} (h : Unmoved w w') (hw : Bindings w) : Bindings w' := by
  refine h.toQuiet.bindings hw ?_ fun n hn => ?_
  · rw [h.todo, h.ongoing]
    exact hw.ids
  · rw [h.todo] at hn
    exact hw.named n (List.mem_append_left _ hn)

theorem Taken.bindings {w w' : World} {job : EncodeJob} {s : Slot} {q : Nat} {auto : Bool}
    (h : Taken w w' n job s q auto) (hw : Bindings w)
    (hq : (w.session (slotOf n.job.sessionId)).queues = some q) : Bindings w' := by
  have hnmem : n ∈ w.jobQueue := by
    rw [h.todo]
    exact List.mem_cons_self ..
  have hn := hw.named n (List.mem_append_left _ hnmem)
  have hmine := hw.chain _ hn.issued q hq
  have hhead := hw.chains.isHead hn.issued hq
  have hcons := hmine.nodup
  rw [h.handles] at hcons
  obtain ⟨hs, hnodup⟩ := List.nodup_cons.mp hcons
  have hschain : s ∈ chainOf w (slotOf n.job.sessionId) := hmine.sub s (by
    rw [h.handles]
    exact List.mem_cons_self ..)
  refine ⟨h.frame.chains hw.chains, h.frame.counted hw.clients, fun id hid r hr => ?_, ?_, fun m hm => h.frame.named ?_⟩
  · rw [h.frame.issued] at hid
    rw [(h.frame.session _).queues] at hr
    have hc := hw.chain id hid r hr
    by_cases hid' : id = n.job.sessionId
    · subst hid'
      obtain rfl : q = r := Option.some.inj (hq.symm.trans hr)
      refine ⟨fun t ht => ?_, hnodup, ?_⟩
      · rw [h.frame.chainOf]
        exact hmine.sub t (by rw [h.handles]; exact List.mem_cons_of_mem _ ht)
      · rw [h.frame.chainOf, h.ongoing, List.filter_append, List.map_append]
        have hmatched := hmine.matched
        rw [h.handles] at hmatched
        have htake := hmatched.take (g := fun t => (w'.session t).binding) hhead.nodup hschain hs
          fun t ht => by
            have hts : t ≠ s := fun he => (Pool.mem_out.mp ht).2 (he ▸ List.mem_cons_self ..)
            rw [h.other t hts]
        rw [h.self.1] at htake
        have hsame : List.filter (fun m : JobNode => m.job.sessionId = n.job.sessionId)
            [{ n with job := job }] = [{ n with job := job }] := by
          simp [h.origin.1]
        rw [hsame]
        exact htake
    · have hrq : r ≠ q := fun he =>
        hid' (hw.chains.queue_unique hn.issued hid hq (he ▸ hr))
      have hnot : s ∉ chainOf w (slotOf id) := fun hmem =>
        hid' (hw.chains.head_unique hn.issued hid hschain hmem)
      have hrest : List.filter (fun m : JobNode => m.job.sessionId = id)
          [{ n with job := job }] = [] := by
        have hne : n.job.sessionId ≠ id := fun he => hid' he.symm
        simp [h.origin.1, hne]
      refine ⟨?_, ?_, ?_⟩
      · rw [h.queues r hrq, h.frame.chainOf]
        exact hc.sub
      · rw [h.queues r hrq]
        exact hc.nodup
      · rw [h.queues r hrq, h.frame.chainOf, h.ongoing, List.filter_append, hrest, List.append_nil]
        refine hc.matched.congr fun t ht => ?_
        have hts : t ≠ s := fun he => hnot (he ▸ (Pool.mem_out.mp ht).1)
        rw [h.other t hts]
  · have hids := hw.ids
    rw [h.todo] at hids
    rw [h.ongoing]
    refine (List.Perm.nodup_iff ?_).mp hids
    rw [← List.append_assoc]
    exact ((List.perm_append_singleton { n with job := job } _).map (·.jobId)).symm
  · rw [h.ongoing, List.mem_append, List.mem_append, List.mem_singleton] at hm
    rcases hm with hm | hm | rfl
    · exact hw.named m (List.mem_append_left _ (by rw [h.todo]; exact List.mem_cons_of_mem _ hm))
    · exact hw.named m (List.mem_append_right _ hm)
    · exact ⟨by rw [h.origin.1]; exact hn.issued, by rw [h.origin.1]; exact hn.slot,
        by rw [h.origin.1]; exact hn.answered⟩

theorem Finished.erased {w w' : World} {s : Slot} {q : Nat} {o : Done} (h : Finished w w' s q o)
    (hw : Bindings w) (hn : n ∈ w.ongoingJobQ) (hbound : n.binding = (w.session s).binding) :
    w.ongoingJobQ.Perm (n :: w'.ongoingJobQ) := by
  have hid : n.jobId = (w.session s).jobId := congrArg Prod.fst hbound
  rw [h.ongoing]
  refine Pool.perm_cons_eraseP hn (by simpa using hid) fun m hm hp => ?_
  exact hw.ongoing_unique hn hm ((of_decide_eq_true hp).trans hid.symm)

theorem Finished.bindings {w w' : World} {s : Slot} {q : Nat} {o : Done} (h : Finished w w' s q o)
    (hw : Bindings w) (hs : CheckedOut w s) (hq : (w.session s).queues = some q) : Bindings w' := by
  obtain ⟨id, hid, hself, hout, n, hn, hnid, hbound⟩ := hw.checkedOut hs hq
  have herased := h.erased hw hn hbound
  have hsub : w'.ongoingJobQ.Sublist w.ongoingJobQ := by
    rw [h.ongoing]
    exact List.eraseP_sublist
  have hbinding : ∀ t, (w'.session t).binding = (w.session t).binding := by
    intro t
    by_cases hts : t = s
    · rw [hts]
      exact h.self.binding
    · rw [h.other t hts]
  have hmine := hw.chain id hid q hself
  refine ⟨h.frame.chains hw.chains, h.frame.counted hw.clients, fun j hj r hr => ?_, ?_, fun m hm => h.frame.named ?_⟩
  · rw [h.frame.issued] at hj
    rw [(h.frame.session _).queues] at hr
    have hfilter := (herased.filter (·.job.sessionId = j)).map JobNode.binding
    by_cases hjid : j = id
    · subst hjid
      obtain rfl : q = r := Option.some.inj (hself.symm.trans hr)
      rw [List.filter_cons_of_pos (by simpa using hnid), List.map_cons, hbound] at hfilter
      refine ⟨fun t ht => ?_, ?_, ?_⟩
      · rw [h.frame.chainOf]
        rw [h.handles, List.mem_append, List.mem_singleton] at ht
        rcases ht with ht | rfl
        · exact hmine.sub t ht
        · exact (Pool.mem_out.mp hout).1
      · rw [h.handles]
        exact (List.perm_append_singleton _ _).nodup_iff.mpr
          (List.nodup_cons.mpr ⟨(Pool.mem_out.mp hout).2, hmine.nodup⟩)
      · rw [h.handles, h.frame.chainOf]
        exact (hmine.matched.give (hw.chains.isHead hj hself).nodup hout hfilter).congr
          fun t _ => hbinding t
    · have hrq : r ≠ q := fun he => hjid (hw.chains.queue_unique hid hj hself (he ▸ hr))
      have hc := hw.chain j hj r hr
      rw [List.filter_cons_of_neg (by
        have hne : n.job.sessionId ≠ j := fun he => hjid (he.symm.trans hnid)
        simpa using hne)] at hfilter
      refine ⟨?_, ?_, ?_⟩
      · rw [h.queues r hrq, h.frame.chainOf]
        exact hc.sub
      · rw [h.queues r hrq]
        exact hc.nodup
      · rw [h.queues r hrq, h.frame.chainOf]
        exact (hc.matched.congr fun t _ => hbinding t).trans hfilter
  · rw [h.todo]
    exact hw.ids.sublist (((List.Sublist.refl _).append hsub).map _)
  · rw [h.todo] at hm
    rcases List.mem_append.mp hm with hm | hm
    · exact hw.named m (List.mem_append_left _ hm)
    · exact hw.named m (List.mem_append_right _ (hsub.subset hm))

variable {o : Slot → Teardown}

theorem destroySession_numClients {s : Slot} {w w' : World} (h : destroySession o s w = some w') :
    w'.numClients = w.numClients := by
  have hremove : ∀ (l : List Slot) (v : World),
      (l.foldl (fun w t => removeSessionIdx w (w.session t).sessionId) v).numClients =
        v.numClients := by
    intro l
    induction l with
    | nil => exact fun v => rfl
    | cons t l ih => exact fun v => ih _
  have hchain : (destroyChain o s w).numClients = w.numClients := by
    have hjobs := (removeJobs_frame w (w.session s).sessionId).numClients
    have habort := (sessionAbort_frame (chainOf w s)
      (removeJobs w (w.session s).sessionId)).numClients
    obtain ⟨-, -, -, -, -, hdestroy⟩ := sessionDestroy_rest o (chainOf w s)
      (sessionAbort (chainOf w s) (removeJobs w (w.session s).sessionId))
    rw [destroyChain, hremove, hdestroy, habort, hjobs]
  have hqueues : ∀ q id v, (destroyQueues s q id v).numClients = v.numClients := fun _ _ _ => rfl
  unfold destroySession at h
  split at h
  · cases h
  · obtain rfl := Option.some.inj h
    rw [hqueues, hchain]

theorem destroySession_keeps {w w' : World} (hw : Bindings w) (hid : id ∈ w.issued)
    (h : destroySession o (slotOf id) w = some w') :
    ∃ q, (w.session (slotOf id)).queues = some q ∧ Destroyed w w' id q ∧
      ∀ j ∈ w'.issued, j ∈ w.issued ∧ j ≠ id ∧ chainOf w' (slotOf j) = chainOf w (slotOf j) ∧
        ∀ t ∈ chainOf w (slotOf j), w'.session t = w.session t := by
  obtain ⟨hother, -, hissued, -, -⟩ := destroySession_session hw.chains hid h
  obtain ⟨q, hqueue, hd⟩ := destroyed h
  rw [(hw.chains.head_active hid).2] at hd
  obtain ⟨r, -, hhead⟩ := hw.chains.head id hid
  have hact : ∀ t ∈ chainOf w (slotOf id), (w.session t).active = true := fun t ht =>
    ((hhead.mem_iff t).mp ht).1
  have hself : (w.session (slotOf id)).queues = some q :=
    ((destroyChain_session hw.chains hact).2 _ (List.mem_cons_self ..)).2.symm.trans hqueue
  refine ⟨q, hself, hd, fun j hj => ?_⟩
  rw [hissued] at hj
  obtain ⟨hj, hne⟩ := List.mem_filter.mp hj
  have hne' : j ≠ id := by simpa using hne
  have hsame : ∀ t ∈ chainOf w (slotOf j), w'.session t = w.session t := fun t ht =>
    hother t fun ht' => hne' (hw.chains.head_unique hid hj ht' ht)
  refine ⟨hj, hne', ?_, hsame⟩
  unfold chainOf
  rw [hsame _ (List.mem_cons_self ..)]

theorem destroySession_bindings {w w' : World} (hw : Bindings w) (hid : id ∈ w.issued)
    (h : destroySession o (slotOf id) w = some w') : Bindings w' := by
  obtain ⟨-, -, hissued, hclient, -⟩ := destroySession_session hw.chains hid h
  obtain ⟨q, hself, hd, hkeep⟩ := destroySession_keeps hw hid h
  refine ⟨destroySession_chains hw.chains hid h, ?_, fun j hj r hr => ?_, ?_, fun n hn => ?_⟩
  · unfold usedClients
    rw [destroySession_numClients h, hclient]
    exact hw.clients
  · obtain ⟨hj', hne, hchain, hsame⟩ := hkeep j hj
    rw [hsame _ (List.mem_cons_self ..)] at hr
    have hc := hw.chain j hj' r hr
    have hrq : r ≠ q := fun he => hne (hw.chains.queue_unique hid hj' hself (he ▸ hr))
    refine ⟨?_, ?_, ?_⟩
    · rw [hd.queues r hrq, hchain]
      exact hc.sub
    · rw [hd.queues r hrq]
      exact hc.nodup
    · have hfilter : w'.ongoingJobQ.filter (·.job.sessionId = j) =
          w.ongoingJobQ.filter (·.job.sessionId = j) := by
        rw [hd.ongoing, List.filter_filter]
        refine List.filter_congr fun n _ => ?_
        by_cases hnj : n.job.sessionId = j
        · simp [hnj, hne]
        · simp [hnj]
      rw [hd.queues r hrq, hchain, hfilter]
      refine hc.matched.congr fun t ht => ?_
      rw [hsame t (Pool.mem_out.mp ht).1]
  · rw [hd.todo, hd.ongoing]
    exact hw.ids.sublist ((List.filter_sublist.append List.filter_sublist).map _)
  · rw [hd.todo, hd.ongoing, ← List.filter_append] at hn
    obtain ⟨hn, hne⟩ := List.mem_filter.mp hn
    have hnamed := hw.named n hn
    have hissued' : n.job.sessionId ∈ w'.issued := by
      rw [hissued]
      exact List.mem_filter.mpr ⟨hnamed.issued, hne⟩
    obtain ⟨-, -, hchain, hsame⟩ := hkeep _ hissued'
    refine ⟨hissued', hnamed.slot, fun s hs => ?_⟩
    rw [hchain] at hs
    rw [hsame s hs]
    exact hnamed.answered s hs

theorem Extends.old_chain {w w' : World} (h : Extends w w') (hw : Bindings w) (hid : id ∈ w.issued) :
    chainOf w' (slotOf id) = chainOf w (slotOf id) ∧
      ∀ t ∈ chainOf w (slotOf id), w'.session t = w.session t := by
  obtain ⟨q, -, hq⟩ := hw.chains.head id hid
  have hsame : ∀ t ∈ chainOf w (slotOf id), w'.session t = w.session t := fun t ht =>
    h.session t ((hq.mem_iff t).mp ht).1
  refine ⟨?_, hsame⟩
  unfold chainOf
  rw [hsame _ (List.mem_cons_self ..)]

theorem Extends.new_out {w w' : World} (h : Extends w w') {q : Nat} (hid : id ∈ w'.issued)
    (hnew : id ∉ w.issued) (hq : (w'.session (slotOf id)).queues = some q) :
    Pool.out (chainOf w' (slotOf id)) (w'.queues q).handles = [] := by
  rw [h.stocked id hid hnew q hq]
  exact List.filter_eq_nil_iff.mpr fun t ht => by simpa using ht

theorem Extends.bindings {w w' : World} (h : Extends w w') (hw : Bindings w) : Bindings w' := by
  have htodo : w'.jobQueue = w.jobQueue := congrArg (·.1) h.jobs
  have hongoing : w'.ongoingJobQ = w.ongoingJobQ := congrArg (·.2.1) h.jobs
  refine ⟨h.chains, h.clients, fun id hid q hq => ?_, ?_, fun n hn => ?_⟩
  · by_cases hold : id ∈ w.issued
    · obtain ⟨hmine, hsame⟩ := h.old_chain hw hold
      rw [hsame _ (List.mem_cons_self ..)] at hq
      have hc := hw.chain id hold q hq
      refine ⟨?_, ?_, ?_⟩
      · rw [h.queues id hold q hq, hmine]
        exact hc.sub
      · rw [h.queues id hold q hq]
        exact hc.nodup
      · rw [h.queues id hold q hq, hmine, hongoing]
        exact hc.matched.congr fun t ht => by rw [hsame t (Pool.mem_out.mp ht).1]
    · -- a new chain: all its sessions are on the queue, and no job names it
      have hstock := h.stocked id hid hold q hq
      have hnone : w'.ongoingJobQ.filter (·.job.sessionId = id) = [] := by
        rw [hongoing, List.filter_eq_nil_iff]
        intro n hn he
        rw [← of_decide_eq_true he] at hold
        exact hold (hw.named n (List.mem_append_right _ hn)).issued
      refine ⟨fun s hs => by rw [hstock] at hs; exact hs, ?_, ?_⟩
      · rw [hstock]
        exact (h.chains.isHead hid hq).nodup
      · unfold Pool.Matched
        rw [hnone, h.new_out hid hold hq]
        exact List.Perm.nil
  · rw [htodo, hongoing]
    exact hw.ids
  · rw [htodo, hongoing] at hn
    have hnamed := hw.named n hn
    obtain ⟨hmine, hsame⟩ := h.old_chain hw hnamed.issued
    refine ⟨h.issued _ hnamed.issued, hnamed.slot, fun s hs => ?_⟩
    rw [hmine] at hs
    rw [hsame s hs]
    exact hnamed.answered s hs

end Jpeg
