import Wt88047.QCamera.PostProc

/-! Every frame that was accepted is in one place until it is released and freed, once. -/

namespace Wt88047.PostProc

namespace Ledger

def settled (g : Ledger) (f : Nat) : Nat :=
  g.bufDone.count f + g.absent.count f + g.withheld.count f

/-- From `g` to `h` the frames `fs` were settled and freed; only those in `offline` were withheld. -/
structure Disposes (offline fs : List Nat) (g h : Ledger) : Prop where
  freed : ∀ f, h.freed.count f = g.freed.count f + fs.count f
  settled : ∀ f, h.settled f = g.settled f + fs.count f
  withheld : ∀ f ∈ h.withheld, f ∈ g.withheld ∨ f ∈ offline

variable {offline fs gs : List Nat} {g h k : Ledger} {found : Nat → Bool} {f : SuperBuf}

theorem Disposes.refl (offline : List Nat) (g : Ledger) : Disposes offline [] g g :=
  ⟨fun _ => rfl, fun _ => rfl, fun _ hf => Or.inl hf⟩

theorem Disposes.trans (hgh : Disposes offline fs g h) (hhk : Disposes offline gs h k) :
    Disposes offline (fs ++ gs) g k := by
  refine ⟨fun f => ?_, fun f => ?_, fun f hf => ?_⟩
  · rw [hhk.freed, hgh.freed, List.count_append]
    omega
  · rw [hhk.settled, hgh.settled, List.count_append]
    omega
  · rcases hhk.withheld f hf with hf | hf
    · exact hgh.withheld f hf
    · exact Or.inr hf

theorem settled_releaseSuperBuf (x : Nat) :
    (g.releaseSuperBuf found f).settled x = g.settled x + [f.id].count x := by
  unfold releaseSuperBuf settled
  split
  · simp only [List.count_cons, List.count_nil]
    omega
  · simp only [List.count_cons, List.count_nil]
    omega

theorem releaseSuperBuf_kept :
    (g.releaseSuperBuf found f).freed = g.freed ∧
      (g.releaseSuperBuf found f).withheld = g.withheld := by
  unfold releaseSuperBuf
  split <;> exact ⟨rfl, rfl⟩

theorem giveBack_disposes (offline : List Nat) (found : Nat → Bool) (f : SuperBuf) (g : Ledger) :
    Disposes offline [f.id] g (g.giveBack found f) := by
  obtain ⟨hfreed, hwithheld⟩ := @releaseSuperBuf_kept g found f
  refine ⟨fun x => ?_, fun x => ?_, fun x hx => ?_⟩
  · simp only [giveBack, free, hfreed, List.count_cons, List.count_nil]
    omega
  · exact settled_releaseSuperBuf x
  · rw [← hwithheld]
    exact Or.inl hx

theorem releaseSource_disposes {keep : Bool} (hk : keep = true → f.id ∈ offline) :
    Disposes offline [f.id] g (g.releaseSource found keep f) := by
  cases keep with
  | false => exact giveBack_disposes offline found f g
  | true =>
    refine ⟨fun x => ?_, fun x => ?_, fun x hx => ?_⟩
    · simp only [releaseSource, free, List.count_cons, List.count_nil, if_true]
      omega
    · simp only [releaseSource, settled, free, List.count_cons, List.count_nil, if_true]
      omega
    · rcases List.mem_cons.mp hx with rfl | hx
      · exact Or.inr (hk rfl)
      · exact Or.inl hx

end Ledger

open Ledger

def JpegJob.frames (j : JpegJob) : List Nat := (j.srcReprocFrame.map (·.id)).toList ++ [j.srcFrame.id]

def JpegJob.Marked (offline : List Nat) (j : JpegJob) : Prop :=
  j.reprocFrameRelease = true → ∀ f ∈ j.srcReprocFrame, f.id ∈ offline

def PPJob.Marked (offline : List Nat) (j : PPJob) : Prop :=
  j.reprocFrameRelease = true → j.srcFrame.id ∈ offline

theorem releaseJpegJobData_disposes {offline : List Nat} {j : JpegJob} (h : j.Marked offline)
    (found : Nat → Bool) (g : Ledger) :
    Disposes offline j.frames g (g.releaseJpegJobData found j) := by
  unfold releaseJpegJobData JpegJob.frames
  cases hf : j.srcReprocFrame with
  | none => exact giveBack_disposes offline found j.srcFrame g
  | some f =>
    exact (releaseSource_disposes fun hk => h hk f hf).trans
      (giveBack_disposes offline found j.srcFrame _)

theorem foldl_disposes {α : Type} {offline : List Nat} {release : Ledger → α → Ledger}
    {frames : α → List Nat} {l : List α}
    (h : ∀ a ∈ l, ∀ g, Disposes offline (frames a) g (release g a)) (g : Ledger) :
    Disposes offline (l.flatMap frames) g (l.foldl release g) := by
  induction l generalizing g with
  | nil => exact Disposes.refl offline g
  | cons a l ih =>
    rw [List.flatMap_cons, List.foldl_cons]
    exact (h a (List.mem_cons_self ..) g).trans
      (ih (fun b hb => h b (List.mem_cons_of_mem a hb)) _)

namespace World

def held (w : World) : List Nat :=
  w.inputPPQ.map (·.id) ++ w.inputRawQ.map (·.id) ++ w.inputJpegQ.flatMap JpegJob.frames ++
    w.ongoingJpegQ.flatMap JpegJob.frames ++ w.ongoingPPQ.map (·.srcFrame.id) ++ w.dataQ.map (·.id)

theorem count_held (w : World) (f : Nat) :
    w.held.count f = (w.inputPPQ.map (·.id)).count f + (w.inputRawQ.map (·.id)).count f +
      (w.inputJpegQ.flatMap JpegJob.frames).count f +
      (w.ongoingJpegQ.flatMap JpegJob.frames).count f +
      (w.ongoingPPQ.map (·.srcFrame.id)).count f + (w.dataQ.map (·.id)).count f := by
  simp only [held, List.count_append]

end World

/-- What is true of the jobs in the queues. The job that is being encoded is the last of the ongoing
ones and has no id yet. -/
structure Jobs (w : World) : Prop where
  ongoingPP : ∀ j ∈ w.ongoingPPQ, j.Marked w.offline
  inputJpeg : ∀ j ∈ w.inputJpegQ, j.Marked w.offline
  ongoingJpeg : ∀ j ∈ w.ongoingJpegQ, j.Marked w.offline
  encoding : ∀ job, w.pc = .encoding job → job.jobId = 0 ∧ w.ongoingJpegQ.getLast? = some job
  fresh : ∀ j ∈ w.inputJpegQ, j.jobId = 0
  saved : 0 ∉ w.inputSaveQ

structure Inv (w : World) : Prop extends Jobs w where
  once : ∀ f, w.held.count f + w.ledger.freed.count f = if f < w.accepted then 1 else 0
  settled : ∀ f, w.ledger.settled f = w.ledger.freed.count f
  withheld : ∀ f ∈ w.ledger.withheld, f ∈ w.offline

variable {w v : World} {fs : List Nat}

theorem Inv.move (h : Inv w) (hj : Jobs v) (ha : v.accepted = w.accepted)
    (hoff : w.offline ⊆ v.offline) (hd : Disposes v.offline fs w.ledger v.ledger)
    (hh : ∀ f, v.held.count f + fs.count f = w.held.count f) : Inv v := by
  refine { hj with once := fun f => ?_, settled := fun f => ?_, withheld := fun f hf => ?_ }
  · have honce := h.once f
    have hheld := hh f
    have hfreed := hd.freed f
    rw [ha, ← honce]
    omega
  · rw [hd.settled, hd.freed, h.settled]
  · rcases hd.withheld f hf with hf | hf
    · exact hoff (h.withheld f hf)
    · exact hf

theorem Inv.take (h : Inv w) (hj : Jobs v) (ha : v.accepted = w.accepted + 1)
    (hoff : v.offline = w.offline) (hl : v.ledger = w.ledger)
    (hh : ∀ f, v.held.count f = w.held.count f + [w.accepted].count f) : Inv v := by
  refine { hj with once := fun f => ?_, settled := fun f => ?_, withheld := ?_ }
  · have honce := h.once f
    have hheld := hh f
    rw [ha, hl]
    by_cases hf : f = w.accepted
    · subst hf
      rw [List.count_singleton_self] at hheld
      rw [if_neg (by omega)] at honce
      rw [if_pos (by omega)]
      omega
    · rw [List.count_singleton, if_neg (by simpa using fun he => hf he.symm)] at hheld
      split at honce
      · rw [if_pos (by omega)]
        omega
      · rw [if_neg (by omega)]
        omega
  · rw [hl]
    exact h.settled f
  · rw [hl, hoff]
    exact h.withheld

theorem inv_init : Inv {} where
  ongoingPP := nofun
  inputJpeg := nofun
  ongoingJpeg := nofun
  encoding := nofun
  fresh := nofun
  saved := List.not_mem_nil
  once := fun f => by simp [World.held]
  settled := fun _ => rfl
  withheld := nofun

/-- An image that gets as far as the callbacks is held by a notification or not, as its status tells:
no success leaves it with nobody, and no failed notification has released it already. -/
def RawInput.Handed (o : RawInput) (f : SuperBuf) (w : World) : Prop :=
  (w.channels.contains f.chId || w.reproc.any (·.handle == f.chId)) = true →
    o.snapshot = true → o.memInfo = true → o.memory = true →
    o.compressed = true ∧
      if o.zslMode && w.channels.contains f.chId then o.notify = .queued ∨ o.notify = .noArgm
      else o.notify ≠ .queued

instance (o : RawInput) (f : SuperBuf) (w : World) : Decidable (o.Handed f w) := by
  unfold RawInput.Handed
  infer_instance

/-- The step takes none of the branches that drop a frame or release it twice: a queue node that
cannot be allocated, a reprocessed frame without a job after the pending one was taken, a raw image
that is left or released twice, an event for no job, and a reprocess that fails after its result. -/
def Sound (w : World) : Event → Prop
  | .processData _ d => d.node = true
  | .processRawData _ node => node = true
  | .processPPData _ p =>
    p.node = true ∧
      (p.malloc = true ∨ w.ongoingPPQ = [] ∨ (!p.thumbFromMain && p.nvFormat) = true)
  | .jpegEvt e => e.jobId ≠ 0
  | .nextJpeg node => node = true
  | .nextRaw o => w.active = true → ∀ f ∈ w.inputRawQ.head?, o.Handed f w
  | .nextPP o => o.node = true
  | .reprocessed ok => ok = true ∨ w.ongoingPPQ.getLast?.map .reprocessing = some w.pc
  | _ => True

instance (w : World) : DecidablePred (Sound w) := fun e => by
  cases e <;> unfold Sound <;> infer_instance

@[simp] theorem enqueue_true {α : Type} (a : α) (q : List α) : enqueue true a q = q ++ [a] := rfl

theorem count_flatMap_filter {α : Type} (p : α → Bool) (frames : α → List Nat) (l : List α) (f : Nat) :
    ((l.filter p).flatMap frames).count f + ((l.filter (fun a => !p a)).flatMap frames).count f =
      (l.flatMap frames).count f := by
  induction l with
  | nil => rfl
  | cons a l ih =>
    cases hp : p a with
    | true =>
      rw [List.filter_cons_of_pos hp, List.filter_cons_of_neg (by simp [hp]), List.flatMap_cons,
        List.flatMap_cons, List.count_append, List.count_append]
      omega
    | false =>
      rw [List.filter_cons_of_neg (by simp [hp]), List.filter_cons_of_pos (by simp [hp]),
        List.flatMap_cons, List.flatMap_cons, List.count_append, List.count_append]
      omega

theorem flushJob_jobs {jobId : Nat} (h : Jobs w) (hid : jobId ≠ 0) : Jobs (flushJob jobId w) := by
  refine { h with ongoingJpeg := ?_, encoding := fun job hpc => ?_ }
  · exact fun j hj => h.ongoingJpeg j (List.mem_filter.mp hj).1
  · obtain ⟨hzero, hlast⟩ := h.encoding job hpc
    obtain ⟨pre, hpre⟩ := List.getLast?_eq_some_iff.mp hlast
    have hkept : [job].filter (·.jobId != jobId) = [job] := by
      apply List.filter_eq_self.mpr
      intro j hj
      rw [List.mem_singleton.mp hj, hzero]
      simpa using fun he => hid he.symm
    refine ⟨hzero, List.getLast?_eq_some_iff.mpr ⟨pre.filter (·.jobId != jobId), ?_⟩⟩
    show w.ongoingJpegQ.filter (·.jobId != jobId) = _
    rw [hpre, List.filter_append, hkept]

theorem flushJob_inv {jobId : Nat} (h : Inv w) (hid : jobId ≠ 0) : Inv (flushJob jobId w) := by
  have hd : Disposes w.offline ((w.ongoingJpegQ.filter (·.jobId == jobId)).flatMap JpegJob.frames)
      w.ledger (flushJob jobId w).ledger := by
    apply foldl_disposes
    intro j hj g
    exact releaseJpegJobData_disposes (h.ongoingJpeg j (List.mem_filter.mp hj).1) w.found g
  apply h.move (flushJob_jobs h.toJobs hid) rfl (List.Subset.refl _) hd
  intro f
  have hsplit := count_flatMap_filter (·.jobId == jobId) JpegJob.frames w.ongoingJpegQ f
  rw [World.count_held, World.count_held]
  simp only [flushJob, bne]
  omega

theorem processRawData_inv {chId : Nat} (h : Inv w) : Inv (processRawData chId true w).1 := by
  unfold processRawData
  split
  · exact h
  · refine h.take { h.toJobs with } rfl rfl rfl fun f => ?_
    rw [World.count_held, World.count_held]
    simp only [World.accept, World.newFrame, enqueue_true, List.map_append, List.map_cons, List.map_nil,
      List.count_append]
    omega

theorem queueJpeg_inv {job : JpegJob} {rest : List PPJob} (h : Inv w)
    (hrest : ∀ j ∈ rest, j ∈ w.ongoingPPQ) (hid : job.jobId = 0) (hmarked : job.Marked w.offline)
    (hframes : ∀ f, (rest.map (·.srcFrame.id)).count f + job.frames.count f =
      (w.ongoingPPQ.map (·.srcFrame.id)).count f + [w.accepted].count f) :
    Inv { w.accept with ongoingPPQ := rest, inputJpegQ := w.inputJpegQ ++ [job] } := by
  refine h.take { h.toJobs with ongoingPP := ?_, inputJpeg := ?_, fresh := ?_ } rfl rfl rfl
    fun f => ?_
  · exact fun j hj => h.ongoingPP j (hrest j hj)
  · intro j hj
    rcases List.mem_append.mp hj with hj | hj
    · exact h.inputJpeg j hj
    · rw [List.mem_singleton.mp hj]
      exact hmarked
  · intro j hj
    rcases List.mem_append.mp hj with hj | hj
    · exact h.fresh j hj
    · rw [List.mem_singleton.mp hj]
      exact hid
  · have hf := hframes f
    rw [World.count_held, World.count_held]
    simp only [World.accept, List.flatMap_append, List.flatMap_cons, List.flatMap_nil,
      List.count_append, List.append_nil]
    omega

theorem processData_inv {chId : Nat} {d : DataInput} (h : Inv w) (hn : d.node = true) :
    Inv (processData chId d w).1 := by
  unfold processData
  rw [hn]
  split
  · exact h
  split
  · refine h.take { h.toJobs with } rfl rfl rfl fun f => ?_
    rw [World.count_held, World.count_held]
    simp only [World.accept, World.newFrame, enqueue_true, List.map_append, List.map_cons, List.map_nil,
      List.count_append]
    omega
  split
  · exact processRawData_inv h
  split
  · exact h
  · exact queueJpeg_inv h (fun _ hj => hj) rfl (fun hk => nomatch hk) fun f => rfl

theorem queueReprocessed_inv {chId : Nat} {p : PPInput} {job : PPJob} {rest : List PPJob}
    (h : Inv w) (hn : p.node = true) (hm : p.malloc = true) (hq : w.ongoingPPQ = job :: rest) :
    Inv (queueReprocessed chId p (some job) { w with ongoingPPQ := rest }).1 := by
  unfold queueReprocessed
  rw [hn, hm]
  have hjob : job.Marked w.offline := h.ongoingPP job (by rw [hq]; exact List.mem_cons_self ..)
  apply queueJpeg_inv h
  · exact fun j hj => by rw [hq]; exact List.mem_cons_of_mem job hj
  · rfl
  · intro hk f hf
    obtain rfl := Option.some.inj hf
    exact hjob hk
  · intro f
    show (rest.map (·.srcFrame.id)).count f + _ = _
    rw [hq]
    simp only [JpegJob.frames, World.newFrame, Option.map_some, Option.toList_some, List.map_cons,
      List.cons_append, List.nil_append, List.count_cons, List.count_nil]
    omega

theorem dropJob_inv {job : PPJob} {rest : List PPJob} (h : Inv w) (hq : w.ongoingPPQ = job :: rest) :
    Inv (World.onLedger (fun found g => g.giveBack found job.srcFrame)
      { w with ongoingPPQ := rest }) := by
  have hd := giveBack_disposes w.offline w.found job.srcFrame w.ledger
  refine h.move { h.toJobs with ongoingPP := ?_ } rfl (List.Subset.refl _) hd fun f => ?_
  · exact fun j hj => h.ongoingPP j (by rw [hq]; exact List.mem_cons_of_mem job hj)
  · rw [World.count_held, World.count_held, hq]
    simp only [World.onLedger, List.map_cons, List.count_cons, List.count_nil]
    omega

theorem processPPData_inv {chId : Nat} {p : PPInput} (h : Inv w)
    (hs : Sound w (.processPPData chId p)) : Inv (processPPData chId p w).1 := by
  obtain ⟨hn, hm⟩ := hs
  unfold processPPData
  split
  · exact h
  split
  · next hq =>
    split
    · unfold queueReprocessed
      rw [hn]
      split
      · exact h
      · exact @queueJpeg_inv w { srcFrame := w.newFrame chId } w.ongoingPPQ h (fun _ hj => hj) rfl
          (fun hk => nomatch hk) fun f => rfl
    · exact h
  · next job rest hq =>
    split
    · rw [hn]
      exact processRawData_inv (dropJob_inv h hq)
    · next hnot =>
      apply queueReprocessed_inv h hn _ hq
      rcases hm with hm | hm | hm
      · exact hm
      · rw [hq] at hm
        cases hm
      · exact absurd hm hnot

theorem processJpegEvt_inv {e : JpegEvt} (h : Inv w) (hid : e.jobId ≠ 0) :
    Inv (processJpegEvt e w) := by
  unfold processJpegEvt
  split
  · exact h
  split
  · split
    · refine h.move { h.toJobs with saved := ?_ } rfl (List.Subset.refl _) (Disposes.refl _ _)
        fun _ => rfl
      unfold enqueue
      split
      · rw [List.mem_append, List.mem_singleton]
        exact fun hz => hz.elim h.saved fun hz => hid hz.symm
      · exact h.saved
    · exact h
  · exact flushJob_inv h hid

theorem saveNext_inv (h : Inv w) : Inv (saveNext w) := by
  unfold saveNext
  split
  · exact h
  · next jobId rest hq =>
    have hid : jobId ≠ 0 := fun hz => h.saved (by rw [hq, hz]; exact List.mem_cons_self ..)
    have hrest : Inv { w with inputSaveQ := rest } := by
      refine h.move { h.toJobs with saved := ?_ } rfl (List.Subset.refl _) (Disposes.refl _ _)
        fun _ => rfl
      exact fun hz => h.saved (by rw [hq]; exact List.mem_cons_of_mem jobId hz)
    exact flushJob_inv hrest hid

end Wt88047.PostProc
