import Wt88047.Jpeg.JobSteps

/-! Every accepted job is answered once, and the sessions and output buffers of a chain come back:
the account of the jobs over whole runs, and the steps that break it. -/

namespace Jpeg

open World

def Bound (w : World) (s : Slot) (n : JobNode) : Prop :=
  CheckedOut w s ∧ (w.session s).jobId = n.jobId ∧ (w.session s).encodeJob = n.job

def Holds (w : World) (q i : Nat) (n : JobNode) : Prop :=
  ∃ s, Bound w s n ∧ (w.session s).queues = some q ∧ (w.session s).autoOutBuf = true ∧
    (w.session s).encodeJob.dstIndex = i

structure Conserved (w : World) : Prop where
  jobs : ∀ k < w.accepted, (w.jobQueue.map (·.job.serial)).count k +
    (w.ongoingJobQ.map (·.job.serial)).count k + (w.answers.map (·.serial)).count k +
      w.aborted.count k = 1
  bound : ∀ n ∈ w.ongoingJobQ, ∃! s, Bound w s n
  sessions : ∀ s, (w.session s).active = true → ∀ q, (w.session s).queues = some q →
    (w.queues q).handles.count s = 1 ∧ (∀ n ∈ w.ongoingJobQ, ¬Bound w s n) ∨
      (w.queues q).handles.count s = 0 ∧ ∃! n, n ∈ w.ongoingJobQ ∧ Bound w s n
  outBufs : ∀ id ∈ w.issued, ∀ q, (w.session (slotOf id)).queues = some q →
    ∀ i < (w.session (slotOf id)).params.numDstBufs,
      (w.queues q).outBufs.count (i + 1) = 1 ∧ (∀ n ∈ w.ongoingJobQ, ¬Holds w q i n) ∨
        (w.queues q).outBufs.count (i + 1) = 0 ∧ ∃! n, n ∈ w.ongoingJobQ ∧ Holds w q i n

/-- The step keeps sessions and jobs together, drops no job and no index of an output buffer, and a
chain that it hands out has all its indices on `out_buf_q`. -/
def Event.Regular (count : Nat) (w : World) (e : Event) : Prop :=
  e.Keeps count w ∧ e.done.outBuf = true ∧ (∀ o, e = .wake o → o.enqHead = true) ∧
    ∀ w' ∈ step count w e, ∀ id ∈ w'.issued, id ∉ w.issued →
      ∀ q ∈ (w'.session (slotOf id)).queues, (w'.queues q).outBufs =
        (List.range (w'.session (slotOf id)).params.numDstBufs).map (· + 1)

instance (count : Nat) (w : World) (e : Event) : Decidable (e.Regular count w) :=
  have : Decidable (∀ o, e = .wake o → o.enqHead = true) :=
    match e with
    | .wake o => decidable_of_iff (o.enqHead = true)
        ⟨fun h p hp => by cases hp; exact h, fun h => h o rfl⟩
    | .call _ | .submit .. | .fillBufferDone .. | .omxEvent .. => isTrue fun _ h => by cases h
  inferInstanceAs (Decidable (_ ∧ _ ∧ _ ∧ ∀ w' ∈ step count w e, ∀ id ∈ w'.issued, id ∉ w.issued →
    ∀ q ∈ (w'.session (slotOf id)).queues, (w'.queues q).outBufs =
      (List.range (w'.session (slotOf id)).params.numDstBufs).map (· + 1)))

def record (w : World) : List Nat :=
  w.jobQueue.map (·.job.serial) ++ w.ongoingJobQ.map (·.job.serial) ++
    w.answers.map (·.serial) ++ w.aborted

def Recorded (w : World) : Prop := (record w).Perm (List.range w.accepted)

variable {w : World}

theorem Recorded.count (hw : Recorded w) {k : Nat} (hk : k < w.accepted) :
    (w.jobQueue.map (·.job.serial)).count k + (w.ongoingJobQ.map (·.job.serial)).count k +
      (w.answers.map (·.serial)).count k + w.aborted.count k = 1 := by
  have hcount := hw.count_eq k
  rw [List.count_eq_one_of_mem List.nodup_range (List.mem_range.mpr hk)] at hcount
  rw [← hcount]
  simp only [record, List.count_append]

variable {w' : World} {n : JobNode} {s : Slot} {q : Nat}

theorem Taken.recorded {job : EncodeJob} {auto : Bool} (h : Taken w w' n job s q auto)
    (hw : Recorded w) : Recorded w' := by
  unfold Recorded
  rw [h.accepted]
  refine List.Perm.trans (List.perm_iff_count.mpr fun k => ?_) hw
  simp only [record, h.todo, h.ongoing, h.answers, h.aborted, h.origin.2, List.map_append,
    List.map_cons, List.map_nil, List.count_append, List.count_cons, List.count_nil]
  omega

theorem Finished.recorded {o : Done} (h : Finished w w' s q o) (hw : Bindings w)
    (hs : CheckedOut w s) (hq : (w.session s).queues = some q) (hr : Recorded w) : Recorded w' := by
  obtain ⟨id, -, -, -, n, hn, -, hbound⟩ := hw.checkedOut hs hq
  have herased := (h.erased hw hn hbound).map (·.job.serial)
  have hserial : (w.session s).encodeJob.serial = n.job.serial :=
    congrArg (fun b => b.2.serial) hbound.symm
  unfold Recorded
  rw [h.accepted]
  refine List.Perm.trans (List.perm_iff_count.mpr fun k => ?_) hr
  have hcount := herased.count_eq k
  rw [List.map_cons, List.count_cons] at hcount
  simp only [record, h.todo, h.answers, h.aborted, hserial, List.count_append, List.count_cons,
    List.count_nil]
  omega

theorem JobStep.recorded {e : Event} (h : JobStep w e w') (hw : Bindings w)
    (he : ∀ o, e = .wake o → o.enqHead = true) (hr : Recorded w) : Recorded w' := by
  cases h with
  | unmoved h =>
    unfold Recorded record
    rw [h.todo, h.ongoing, h.answers, h.aborted, h.accepted]
    exact hr
  | woken hsem h => exact hr
  | @unserved n rest q o hev hn hq h =>
    unfold Recorded record
    rw [if_pos (he o hev), ← hn]
    exact hr
  | taken hq h hwork => exact h.recorded hr
  | failed hq h h' =>
    obtain ⟨hs, hqs⟩ := h.checkedOut hw hq
    exact h'.recorded (h.bindings hw hq) hs hqs (h.recorded hr)
  | finished h hs hq h' =>
    refine h'.recorded (h.bindings hw) hs hq ?_
    unfold Recorded record
    rw [h.todo, h.ongoing, h.answers, h.aborted, h.accepted]
    exact hr
  | @accepted v job n h hfit hjob hid =>
    have hv : Recorded v := by
      unfold Recorded record
      rw [h.todo, h.ongoing, h.answers, h.aborted, h.accepted]
      exact hr
    have hserial : n.job.serial = v.accepted := by rw [hjob, h.accepted]
    unfold Recorded
    change (record (enqJob n v)).Perm (List.range (v.accepted + 1))
    rw [List.range_succ]
    refine List.Perm.trans (List.perm_iff_count.mpr fun k => ?_) (hv.append_right [v.accepted])
    simp only [record, enqJob, hserial, List.map_append, List.map_cons, List.map_nil,
      List.count_append, List.count_cons, List.count_nil]
    omega
  | @dropped n hn =>
    have herased := (Pool.perm_cons_eraseP (p := fun m => m.jobId = n.jobId) hn (by simp)
      fun m hm hp => hw.todo_unique hn hm (of_decide_eq_true hp)).map (·.job.serial)
    refine List.Perm.trans (List.perm_iff_count.mpr fun k => ?_) hr
    have hcount := herased.count_eq k
    rw [List.map_cons, List.count_cons] at hcount
    simp only [record, List.count_append, List.count_cons, List.count_nil]
    omega
  | @destroyed w' id o hid h =>
    obtain ⟨q, -, hd⟩ := Jpeg.destroyed h
    rw [(hw.chains.head_active hid).2] at hd
    have hsplit := (List.filter_append_perm (fun n : JobNode => n.job.sessionId = id)
      (w.jobQueue ++ w.ongoingJobQ)).map (·.job.serial)
    unfold Recorded
    rw [hd.accepted]
    refine List.Perm.trans (List.perm_iff_count.mpr fun k => ?_) hr
    have hcount := hsplit.count_eq k
    simp only [List.filter_append, List.map_append, List.count_append] at hcount
    simp only [record, hd.todo, hd.ongoing, hd.answers, hd.aborted, List.filter_append,
      List.map_append, List.count_append, ne_eq, decide_not]
    omega
  | extended h =>
    have hjobs := h.jobs
    have h1 : w'.jobQueue = w.jobQueue := congrArg (·.1) hjobs
    have h2 : w'.ongoingJobQ = w.ongoingJobQ := congrArg (·.2.1) hjobs
    have h3 : w'.accepted = w.accepted := congrArg (·.2.2.1) hjobs
    have h4 : w'.answers = w.answers := congrArg (·.2.2.2.1) hjobs
    have h5 : w'.aborted = w.aborted := congrArg (·.2.2.2.2.1) hjobs
    unfold Recorded record
    rw [h1, h2, h3, h4, h5]
    exact hr

def Session.heldBufs (p : Session) : List Nat :=
  if p.autoOutBuf then [(p.encodeJob.dstIndex + 1).toNat] else []

def ChainStocked (w : World) (id q : Nat) : Prop :=
  Pool.Stocked (chainOf w (slotOf id)) (w.queues q).handles (fun s => (w.session s).heldBufs)
    (w.queues q).outBufs ((List.range (w.session (slotOf id)).params.numDstBufs).map (· + 1))

def BufsStocked (w : World) : Prop :=
  ∀ id ∈ w.issued, ∀ q, (w.session (slotOf id)).queues = some q → ChainStocked w id q

theorem Session.SameJob.heldBufs {p p' : Session} (h : p.SameJob p') : p'.heldBufs = p.heldBufs := by
  have hjob : p'.encodeJob = p.encodeJob := congrArg Prod.snd h.binding
  unfold Session.heldBufs
  rw [h.autoOutBuf, hjob]

theorem Quiet.stocked (h : Quiet w w') (hw : BufsStocked w) : BufsStocked w' := by
  intro id hid q hq
  rw [h.frame.issued] at hid
  rw [(h.frame.session _).queues] at hq
  unfold ChainStocked
  rw [h.frame.chainOf, h.queues, (h.frame.session _).params]
  exact (hw id hid q hq).congr fun s _ => (h.session s).heldBufs

theorem Taken.stocked {job : EncodeJob} {auto : Bool} (h : Taken w w' n job s q auto)
    (hw : Bindings w) (hb : BufsStocked w)
    (hq : (w.session (slotOf n.job.sessionId)).queues = some q) : BufsStocked w' := by
  intro id hid r hr
  rw [h.frame.issued] at hid
  rw [(h.frame.session _).queues] at hr
  have hnmem : n ∈ w.jobQueue := by
    rw [h.todo]
    exact List.mem_cons_self ..
  have hn := hw.named n (List.mem_append_left _ hnmem)
  have hmine := hw.chain _ hn.issued q hq
  have hstock := hb id hid r hr
  unfold ChainStocked at hstock ⊢
  rw [h.frame.chainOf, (h.frame.session _).params]
  by_cases hid' : id = n.job.sessionId
  · subst hid'
    obtain rfl : q = r := Option.some.inj (hq.symm.trans hr)
    have hnodup := hmine.nodup
    have hmem := hmine.sub s
    rw [h.handles] at hstock hnodup hmem
    have hheld : (w'.session s).heldBufs =
        if auto then [(job.dstIndex + 1).toNat] else [] := by
      have hjob : (w'.session s).encodeJob = job := congrArg Prod.snd h.self.1
      unfold Session.heldBufs
      rw [h.self.2, hjob]
    rw [h.outBufs, ← hheld] at hstock
    refine hstock.take (hw.chains.isHead hid hr).nodup (hmem (List.mem_cons_self ..))
      (List.nodup_cons.mp hnodup).1 fun t ht => ?_
    have hts : t ≠ s := fun he => (Pool.mem_out.mp ht).2 (he ▸ List.mem_cons_self ..)
    rw [h.other t hts]
  · have hrq : r ≠ q := fun he => hid' (hw.chains.queue_unique hn.issued hid hq (he ▸ hr))
    have hschain : s ∈ chainOf w (slotOf n.job.sessionId) := hmine.sub s (by
      rw [h.handles]
      exact List.mem_cons_self ..)
    rw [h.queues r hrq]
    refine hstock.congr fun t ht => ?_
    have hts : t ≠ s := fun he => hid' (hw.chains.head_unique hn.issued hid hschain
      (he ▸ (Pool.mem_out.mp ht).1))
    rw [h.other t hts]

theorem Finished.stocked {o : Done} (h : Finished w w' s q o) (hw : Bindings w)
    (hs : CheckedOut w s) (hq : (w.session s).queues = some q) (ho : o.outBuf = true)
    (hb : BufsStocked w) : BufsStocked w' := by
  obtain ⟨id, hid, hself, hout, -⟩ := hw.checkedOut hs hq
  have hheld : ∀ t, (w'.session t).heldBufs = (w.session t).heldBufs := by
    intro t
    by_cases hts : t = s
    · rw [hts]
      exact h.self.heldBufs
    · rw [h.other t hts]
  intro j hj r hr
  rw [h.frame.issued] at hj
  rw [(h.frame.session _).queues] at hr
  have hstock := hb j hj r hr
  unfold ChainStocked at hstock ⊢
  rw [h.frame.chainOf, (h.frame.session _).params]
  by_cases hjid : j = id
  · subst hjid
    obtain rfl : q = r := Option.some.inj (hself.symm.trans hr)
    rw [h.handles, h.outBufs ho]
    exact (hstock.give (hw.chains.isHead hj hself).nodup hout).congr fun t _ => hheld t
  · have hrq : r ≠ q := fun he => hjid (hw.chains.queue_unique hid hj hself (he ▸ hr))
    rw [h.queues r hrq]
    exact hstock.congr fun t _ => hheld t

theorem destroySession_stocked {o : Slot → Teardown} {id : Nat} (hw : Bindings w)
    (hid : id ∈ w.issued) (h : destroySession o (slotOf id) w = some w') (hb : BufsStocked w) :
    BufsStocked w' := by
  obtain ⟨q, hself, hd, hkeep⟩ := destroySession_keeps hw hid h
  intro j hj r hr
  obtain ⟨hj', hne, hchain, hsame⟩ := hkeep j hj
  rw [hsame _ (List.mem_cons_self ..)] at hr
  have hrq : r ≠ q := fun he => hne (hw.chains.queue_unique hid hj' hself (he ▸ hr))
  have hstock := hb j hj' r hr
  unfold ChainStocked at hstock ⊢
  rw [hchain, hd.queues r hrq, hsame _ (List.mem_cons_self ..)]
  refine hstock.congr fun t ht => ?_
  rw [hsame t (Pool.mem_out.mp ht).1]

theorem Extends.bufsStocked (h : Extends w w') (hw : Bindings w)
    (hfill : ∀ id ∈ w'.issued, id ∉ w.issued → ∀ q ∈ (w'.session (slotOf id)).queues, (w'.queues q).outBufs = (List.range (w'.session (slotOf id)).params.numDstBufs).map (· + 1))
    (hb : BufsStocked w) : BufsStocked w' := by
  intro id hid q hq
  unfold ChainStocked
  by_cases hold : id ∈ w.issued
  · obtain ⟨hmine, hsame⟩ := h.old_chain hw hold
    rw [hsame _ (List.mem_cons_self ..)] at hq ⊢
    rw [hmine, h.queues id hold q hq]
    refine (hb id hold q hq).congr fun t ht => ?_
    rw [hsame t (Pool.mem_out.mp ht).1]
  · unfold Pool.Stocked
    rw [h.new_out hid hold hq, hfill id hid hold q hq, List.flatMap_nil, List.append_nil]

theorem JobStep.stocked {e : Event} (h : JobStep w e w') (hw : Bindings w)
    (ho : e.done.outBuf = true)
    (hfill : ∀ id ∈ w'.issued, id ∉ w.issued → ∀ q ∈ (w'.session (slotOf id)).queues, (w'.queues q).outBufs = (List.range (w'.session (slotOf id)).params.numDstBufs).map (· + 1))
    (hb : BufsStocked w) : BufsStocked w' := by
  cases h with
  | unmoved h => exact h.toQuiet.stocked hb
  | woken hsem h => exact hb
  | unserved he hn hq h => exact hb
  | taken hq h hwork => exact h.stocked hw hb hq
  | failed hq h h' =>
    obtain ⟨hs, hqs⟩ := h.checkedOut hw hq
    exact h'.stocked (h.bindings hw hq) hs hqs ho (h.stocked hw hb hq)
  | finished h hs hq h' => exact h'.stocked (h.bindings hw) hs hq ho (h.toQuiet.stocked hb)
  | accepted h hfit hjob hid => exact h.toQuiet.stocked hb
  | dropped hn => exact hb
  | destroyed hid h => exact destroySession_stocked hw hid h hb
  | extended h => exact h.bufsStocked hw hfill hb

structure Accounted (w : World) : Prop where
  bindings : Bindings w
  recorded : Recorded w
  stocked : BufsStocked w

theorem accounted_init : Accounted {} :=
  ⟨bindings_init, List.Perm.refl _, fun _ h => (by cases h)⟩

theorem step_accounted {count : Nat} {e : Event} (hw : Accounted w) (he : e.Regular count w)
    (h : step count w e = some w') : Accounted w' := by
  obtain ⟨hkeeps, hout, hhead, hfill⟩ := he
  have hstep := step_jobStep hw.bindings hkeeps h
  exact ⟨hstep.bindings hw.bindings, hstep.recorded hw.bindings hhead hw.recorded,
    hstep.stocked hw.bindings hout (hfill w' h) hw.stocked⟩

theorem Bindings.bound_iff (hw : Bindings w) (hq : (w.session s).queues = some q)
    (hn : n ∈ w.ongoingJobQ) :
    Bound w s n ↔ (w.session (slotOf n.job.sessionId)).queues = some q ∧
      s ∈ Pool.out (chainOf w (slotOf n.job.sessionId)) (w.queues q).handles ∧
      (w.session s).binding = n.binding := by
  have hnamed := hw.named n (List.mem_append_right _ hn)
  constructor
  · rintro ⟨hs, hid, hjob⟩
    obtain ⟨id, hidm, hself, hout, m, hm, hmid, hbound⟩ := hw.checkedOut hs hq
    obtain rfl := hw.ongoing_unique hn hm ((congrArg Prod.fst hbound).trans hid)
    subst hmid
    exact ⟨hself, hout, hbound.symm⟩
  · rintro ⟨hself, hout, hbound⟩
    have hmem := Pool.mem_out.mp hout
    have hact := (((hw.chains.isHead hnamed.issued hself).mem_iff s).mp hmem.1).1
    refine ⟨⟨hact, fun r hr => ?_⟩, congrArg Prod.fst hbound, congrArg Prod.snd hbound⟩
    obtain rfl : q = r := Option.some.inj (hq.symm.trans hr)
    exact hmem.2

theorem Bindings.bound (hb : Bindings w) (hn : n ∈ w.ongoingJobQ) : ∃! s, Bound w s n := by
  have hnamed := hb.named n (List.mem_append_right _ hn)
  obtain ⟨q, -, hq⟩ := hb.chains.queues_lt (hb.chains.head_active hnamed.issued).1
  have hhead := hb.chains.isHead hnamed.issued hq
  have hloans : ((w.ongoingJobQ.filter (·.job.sessionId = n.job.sessionId)).map
      JobNode.binding).Nodup := by
    have hids := hb.ids
    rw [List.map_append] at hids
    refine List.Nodup.of_map Prod.fst ?_
    rw [List.map_map]
    exact hids.of_append_right.sublist (List.filter_sublist.map _)
  obtain ⟨s, ⟨hout, hbound⟩, huniq⟩ := (hb.chain _ hnamed.issued q hq).matched.existsUnique hloans
    (List.mem_map_of_mem (List.mem_filter.mpr ⟨hn, by simp⟩))
  have hqueue : ∀ t ∈ Pool.out (chainOf w (slotOf n.job.sessionId)) (w.queues q).handles,
      (w.session t).queues = some q := fun t ht =>
    ((hhead.mem_iff t).mp (Pool.mem_out.mp ht).1).2
  refine ⟨s, (hb.bound_iff (hqueue s hout) hn).mpr ⟨hq, hout, hbound⟩, fun t ht => ?_⟩
  obtain ⟨r, -, hr⟩ := hb.chains.queues_lt ht.1.1
  obtain ⟨hself, hout', hbound'⟩ := (hb.bound_iff hr hn).mp ht
  obtain rfl : q = r := Option.some.inj (hq.symm.trans hself)
  exact huniq t ⟨hout', hbound'⟩

theorem Accounted.conserved (hw : Accounted w) : Conserved w := by
  have hb := hw.bindings
  refine ⟨fun k hk => hw.recorded.count hk, fun n hn => hb.bound hn, fun s hs q hq => ?_,
    fun id hid q hq i hi => ?_⟩
  · by_cases hmem : s ∈ (w.queues q).handles
    · obtain ⟨id, hid, hchain⟩ := hb.chains.member s hs
      obtain ⟨r, -, hr⟩ := hb.chains.head id hid
      obtain rfl : q = r := Option.some.inj (hq.symm.trans ((hr.mem_iff s).mp hchain).2)
      have hself := ((hr.mem_iff _).mp (List.mem_cons_self ..)).2
      refine .inl ⟨List.count_eq_one_of_mem (hb.chain id hid q hself).nodup hmem, fun n _ hn => ?_⟩
      exact hn.1.2 q hq hmem
    · refine .inr ⟨List.count_eq_zero_of_not_mem hmem, ?_⟩
      have hs' : CheckedOut w s := ⟨hs, fun r hr => by
        obtain rfl : q = r := Option.some.inj (hq.symm.trans hr)
        exact hmem⟩
      obtain ⟨id, hid, hself, hout, n, hn, hnid, hbound⟩ := hb.checkedOut hs' hq
      refine ⟨n, ⟨hn, hs', (congrArg Prod.fst hbound).symm, (congrArg Prod.snd hbound).symm⟩, ?_⟩
      rintro m ⟨hm, hm'⟩
      exact hb.ongoing_unique hn hm (hm'.2.1.symm.trans (congrArg Prod.fst hbound).symm)
  · have hall : ((List.range (w.session (slotOf id)).params.numDstBufs).map (· + 1)).Nodup :=
      List.nodup_range.map fun a b h => Nat.succ.inj h
    have hhead := hb.chains.isHead hid hq
    have hheld : ∀ s, i + 1 ∈ (w.session s).heldBufs ↔ (w.session s).autoOutBuf = true ∧
        (w.session s).encodeJob.dstIndex = i := by
      intro s
      unfold Session.heldBufs
      cases (w.session s).autoOutBuf
      · simp
      · simp only [if_true, List.mem_singleton, true_and]
        omega
    have hholds : ∀ n, Holds w q i n → ∃ s, Bound w s n ∧
        s ∈ Pool.out (chainOf w (slotOf id)) (w.queues q).handles ∧ i + 1 ∈ (w.session s).heldBufs := by
      rintro n ⟨s, hs, hqs, hauto⟩
      refine ⟨s, hs, Pool.mem_out.mpr ⟨(hhead.mem_iff s).mpr ⟨hs.1.1, hqs⟩, hs.1.2 q hqs⟩,
        (hheld s).mpr hauto⟩
    rcases (hw.stocked id hid q hq).left_or_held hall
      (List.mem_map_of_mem (List.mem_range.mpr hi)) with ⟨hleft, hno⟩ | ⟨hleft, s, hs, huniq⟩
    · have hnodup := (List.nodup_append.mp ((hw.stocked id hid q hq).nodup_iff.mpr hall)).1
      refine .inl ⟨List.count_eq_one_of_mem hnodup hleft, fun n _ hn => ?_⟩
      obtain ⟨s, -, hout, hi'⟩ := hholds n hn
      exact hno s hout hi'
    · refine .inr ⟨List.count_eq_zero_of_not_mem hleft, ?_⟩
      obtain ⟨hact, hqs⟩ := (hhead.mem_iff s).mp (Pool.mem_out.mp hs.1).1
      have hs' : CheckedOut w s := ⟨hact, fun r hr => by
        obtain rfl : q = r := Option.some.inj (hqs.symm.trans hr)
        exact (Pool.mem_out.mp hs.1).2⟩
      obtain ⟨-, -, -, -, n, hn, -, hbound⟩ := hb.checkedOut hs' hqs
      have hbs : Bound w s n :=
        ⟨hs', (congrArg Prod.fst hbound).symm, (congrArg Prod.snd hbound).symm⟩
      refine ⟨n, ⟨hn, s, hbs, hqs, (hheld s).mp hs.2⟩, ?_⟩
      rintro m ⟨hm, hm'⟩
      obtain ⟨t, ht, hout, hi'⟩ := hholds m hm'
      obtain rfl := huniq t ⟨hout, hi'⟩
      exact hb.ongoing_unique hn hm (ht.2.1.symm.trans hbs.2.1)

/-- As long as no step loses a session, a buffer or a job, every accepted job is in one place, and
so is every session and every output buffer. -/
theorem jobs_conserved {count : Nat} {es : List Event} {w : World}
    (hregular : Runs.Along (step count) (fun v e => e.Regular count v) {} es)
    (h : Runs.play (step count) {} es = some w) : Conserved w :=
  (Runs.play_invariant (P := fun v e => e.Regular count v)
    (fun _ _ _ hv he hs => step_accounted hv he hs) accounted_init hregular h).conserved

/-- Two jobs of one session, the second ended by an error event. -/
theorem jobs_conserved_run :
    ∃ w, Runs.play (step 1) {} [.call (.open true),
        .call (.createSession 256 { numSrcBufs := 1, numDstBufs := 1, jpegCb := true } {}),
        .call (.startJob (some { sessionId := packSession ⟨0, 0⟩, dstIndex := -1 }) {}),
        .call (.startJob (some { sessionId := packSession ⟨0, 0⟩, dstIndex := -1 }) {}),
        .wake {}, .submit true {}, .wake {}, .fillBufferDone ⟨0, 0⟩ {}, .wake {}, .submit true {},
        .omxEvent ⟨0, 0⟩ (.error .overflow) {}] = some w ∧ Conserved w :=
  ⟨_, rfl, @jobs_conserved 1 [.call (.open true),
    .call (.createSession 256 { numSrcBufs := 1, numDstBufs := 1, jpegCb := true } {}),
    .call (.startJob (some { sessionId := packSession ⟨0, 0⟩, dstIndex := -1 }) {}),
    .call (.startJob (some { sessionId := packSession ⟨0, 0⟩, dstIndex := -1 }) {}),
    .wake {}, .submit true {}, .wake {}, .fillBufferDone ⟨0, 0⟩ {}, .wake {}, .submit true {},
    .omxEvent ⟨0, 0⟩ (.error .overflow) {}] _ (by decide) rfl⟩

/-- The abort of an ongoing job takes its session out of use. -/
theorem session_lost_by_abort :
    ¬∀ (count : Nat) (es : List Event) (w : World),
      Runs.play (step count) {} es = some w → Conserved w := by
  intro hall
  have hafter := hall 1 [.call (.open true),
    .call (.createSession 256 { numSrcBufs := 1, numDstBufs := 1, jpegCb := true } {}),
    .call (.startJob (some { sessionId := packSession ⟨0, 0⟩, dstIndex := -1 }) {}),
    .wake {}, .submit true {}, .call (.abortJob (packJob (packSession ⟨0, 0⟩) 0))] _ rfl
  rcases hafter.sessions ⟨0, 0⟩ (by decide) 0 (by decide) with ⟨hin, -⟩ | ⟨-, n, ⟨hn, -⟩, -⟩
  · exact absurd hin (by decide)
  · have hnil : n ∉ ([] : List JobNode) := List.not_mem_nil
    exact hnil hn

end Jpeg
