import Wt88047.Jpeg.WorkFrame

/-! The work buffers over whole runs: what the object accounts for, and what two jobs have. -/

namespace Jpeg

open World Allocation

def World.pending (w : World) : List Handed :=
  (w.jobQueue.filter fun n => (w.session (slotOf n.jobId)).active).map fun n =>
    ⟨slotOf n.jobId, n.job, (w.session (slotOf n.jobId)).workBuffer⟩

namespace Stock

def held (s : Stock) : List Handed := s.handed ++ s.world.pending

def Serves (s : Stock) (job : EncodeJob) (buf : WorkBuffer) : Prop :=
  job.workSize ≤ buf.size ∧ (buf.addr ∈ s.heap.live ∨ buf ∈ s.hal)

def Spare (s : Stock) (t : Slot) (buf : WorkBuffer) : Prop :=
  ∀ x ∈ s.held, x.slot ≠ t → x.buf.addr ≠ buf.addr

instance (s : Stock) (job : EncodeJob) (buf : WorkBuffer) : Decidable (s.Serves job buf) :=
  inferInstanceAs (Decidable (_ ∧ _))

instance (s : Stock) (t : Slot) (buf : WorkBuffer) : Decidable (s.Spare t buf) :=
  inferInstanceAs (Decidable (∀ x ∈ s.held, _))

variable {count : Nat} {s t : Stock} {job : EncodeJob} {o : Start} {x : Handed}

/-- The jobs that will be encoded with what the session has once `job` is started. -/
def uses (count : Nat) (s : Stock) (job : EncodeJob) (o : Start) : List EncodeJob :=
  (s.world.pending.filter (·.slot = slotOf job.sessionId)).map (·.job) ++
    if o.Accepts count job s.world then [job] else []

structure Supplies (count : Nat) (s : Stock) (job : EncodeJob) (o : Start) : Prop where
  obtains : Obtains count o.alloc job s.world.numSessions s.world.work s.heap
  foreign : ∀ j < workBufsNeed count job s.world.numSessions,
    Fills count job s.world.numSessions s.world.work j → ∀ b ∈ s.hal, b.addr ≠ (o.alloc j).1
  idle : Changes count job s.world.numSessions s.world.work →
    (∀ x ∈ s.handed, x.buf ∈ s.hal) ∧
      ∀ x ∈ s.world.pending, x.slot ≠ slotOf job.sessionId → x.buf ∈ s.hal
  kept : ∀ b ∈ keptBuf count job s.world.numSessions s.world.work, ∀ u ∈ s.uses count job o,
    u.workSize ≤ b.size ∧ s.Spare (slotOf job.sessionId) b
  fresh : keptBuf count job s.world.numSessions s.world.work = none →
    ∀ u ∈ s.uses count job o, u.workSize ≤ ceiling32 job.workSize

instance (s : Stock) (job : EncodeJob) (o : Start) : Decidable (s.Supplies count job o) :=
  have : ∀ j, Decidable (Fills count job s.world.numSessions s.world.work j →
      ∀ b ∈ s.hal, b.addr ≠ (o.alloc j).1) := fun _ => inferInstance
  decidable_of_iff (_ ∧ (∀ j < workBufsNeed count job s.world.numSessions, _) ∧ _ ∧
      (∀ b ∈ keptBuf count job s.world.numSessions s.world.work, ∀ u ∈ s.uses count job o, _) ∧ _)
    ⟨fun ⟨ho, hf, hi, hk, hn⟩ => ⟨ho, hf, hi, hk, hn⟩,
      fun h => ⟨h.obtains, h.foreign, h.idle, h.kept, h.fresh⟩⟩

def Sound (count : Nat) (s : Stock) : Event → Prop
  | .call (.createSession hdl _ _) => ∀ n ∈ s.world.jobQueue,
    (slotOf n.jobId).client = getIndexByHandler hdl →
      (s.world.session (slotOf n.jobId)).active = true
  | .call (.startJob (some job) o) =>
    s.world.opened = true → validIdx job.sessionId = true → s.Supplies count job o
  | .wake _ => ∀ n ∈ s.world.jobQueue.head?, ∀ q ∈ (s.world.session (slotOf n.jobId)).queues,
    ∀ t ∈ (s.world.queues q).handles.head?,
      t = slotOf n.jobId ∧ (s.world.session t).active = true ∨
        s.Serves n.job (s.world.session t).workBuffer ∧ s.Spare t (s.world.session t).workBuffer
  | _ => True

instance Sound.decidable (count : Nat) (s : Stock) : ∀ e : Event, Decidable (s.Sound count e)
  | .call (.open _) => isTrue trivial
  | .call (.close _) => isTrue trivial
  | .call (.createSession hdl _ _) => inferInstanceAs (Decidable (∀ n ∈ s.world.jobQueue,
      (slotOf n.jobId).client = getIndexByHandler hdl →
        (s.world.session (slotOf n.jobId)).active = true))
  | .call (.destroySession ..) => isTrue trivial
  | .call (.startJob none _) => isTrue trivial
  | .call (.startJob (some job) o) => inferInstanceAs (Decidable (s.world.opened = true →
      validIdx job.sessionId = true → s.Supplies count job o))
  | .call (.abortJob _) => isTrue trivial
  | .wake _ => inferInstanceAs (Decidable (∀ n ∈ s.world.jobQueue.head?,
      ∀ q ∈ (s.world.session (slotOf n.jobId)).queues, ∀ t ∈ (s.world.queues q).handles.head?,
        t = slotOf n.jobId ∧ (s.world.session t).active = true ∨
          s.Serves n.job (s.world.session t).workBuffer ∧
            s.Spare t (s.world.session t).workBuffer))
  | .submit .. => isTrue trivial
  | .fillBufferDone .. => isTrue trivial
  | .omxEvent .. => isTrue trivial

/-- The entries of the object are the buffers that are out, and each job that is being encoded has
one of them, or one of the HAL's, that is large enough and not another's. -/
structure Proper (s : Stock) : Prop where
  exactly : s.heap.Exactly s.world.work.addrs
  serves : ∀ x ∈ s.handed, s.Serves x.job x.buf
  apart : s.handed.Pairwise fun x y => x.buf.addr ≠ y.buf.addr

structure Stocked (s : Stock) : Prop where
  exactly : s.heap.Exactly s.world.work.addrs
  closed : s.world.opened = false → s.world.work.addrs = []
  serves : ∀ x ∈ s.held, s.Serves x.job x.buf
  apart : ∀ x ∈ s.held, ∀ y ∈ s.held, x.slot ≠ y.slot → x.buf.addr ≠ y.buf.addr
  slots : (s.handed.map (·.slot)).Nodup

theorem mem_pending {w : World} : x ∈ w.pending ↔ ∃ n ∈ w.jobQueue,
    (w.session (slotOf n.jobId)).active = true ∧
      x = ⟨slotOf n.jobId, n.job, (w.session (slotOf n.jobId)).workBuffer⟩ := by
  unfold World.pending
  rw [List.mem_map]
  constructor
  · rintro ⟨n, hn, rfl⟩
    obtain ⟨hmem, hact⟩ := List.mem_filter.mp hn
    exact ⟨n, hmem, hact, rfl⟩
  · rintro ⟨n, hmem, hact, rfl⟩
    exact ⟨n, List.mem_filter.mpr ⟨hmem, hact⟩, rfl⟩

variable {w' : World}

theorem pending_of_frame {w : World} (h : WorkFrame w w') : w'.pending ⊆ w.pending := by
  intro x hx
  obtain ⟨n, hn, hact, rfl⟩ := mem_pending.mp hx
  obtain ⟨hact, hbuf⟩ := h.session _ hact
  rw [hbuf]
  exact mem_pending.mpr ⟨n, h.queue hn, hact, rfl⟩

theorem pending_of_grown {c : Nat} {w : World} (h : Grown c w w')
    (hq : ∀ n ∈ w.jobQueue, (slotOf n.jobId).client = c → (w.session (slotOf n.jobId)).active = true) :
    w'.pending ⊆ w.pending := by
  intro x hx
  obtain ⟨n, hn, hact, rfl⟩ := mem_pending.mp hx
  rw [h.queue] at hn
  have hbefore := (h.client _ hact).elim id (hq n hn)
  rw [(h.kept _ hbefore).2]
  exact mem_pending.mpr ⟨n, hn, hbefore, rfl⟩

variable {l : List Handed}

namespace Stocked

theorem proper (hs : Stocked s) : Proper s where
  exactly := hs.exactly
  serves x hx := hs.serves x (List.mem_append_left _ hx)
  apart := by
    have hslots := List.pairwise_map.mp hs.slots
    rw [List.pairwise_iff_forall_sublist] at hslots ⊢
    intro x y hxy
    have hmem := hxy.subset
    exact hs.apart x (List.mem_append_left _ (hmem (List.mem_cons_self ..))) y
      (List.mem_append_left _ (hmem (by simp))) (hslots hxy)

theorem shrink (hs : Stocked s) (hheap : t.heap = s.heap) (hwork : t.world.work = s.world.work)
    (ho : t.world.opened = false → s.world.opened = false) (hhal : s.hal ⊆ t.hal)
    (hhanded : t.handed.Sublist s.handed) (hpending : t.world.pending ⊆ s.world.pending) :
    Stocked t := by
  have hheld : t.held ⊆ s.held := by
    intro x hx
    rcases List.mem_append.mp hx with hx | hx
    · exact List.mem_append_left _ (hhanded.subset hx)
    · exact List.mem_append_right _ (hpending hx)
  refine ⟨?_, fun hc => ?_, fun x hx => ?_, fun x hx y hy => ?_, ?_⟩
  · rw [hheap, hwork]
    exact hs.exactly
  · rw [hwork]
    exact hs.closed (ho hc)
  · obtain ⟨hsize, hthere⟩ := hs.serves x (hheld hx)
    rw [← hheap] at hthere
    exact ⟨hsize, hthere.imp_right fun h => hhal h⟩
  · exact hs.apart x (hheld hx) y (hheld hy)
  · exact hs.slots.sublist (hhanded.map _)

theorem emptied (hwork : t.world.work.addrs = []) (hheap : t.heap.Exactly [])
    (hhanded : t.handed = []) (hqueue : t.world.jobQueue = []) : Stocked t := by
  have hheld : t.held = [] := by
    unfold held World.pending
    rw [hhanded, hqueue]
    rfl
  refine ⟨?_, fun _ => hwork, fun x hx => ?_, fun x hx => ?_, ?_⟩
  · rw [hwork]
    exact hheap
  · rw [hheld] at hx
    cases hx
  · rw [hheld] at hx
    cases hx
  · rw [hhanded]
    exact List.nodup_nil

theorem take (hs : Stocked s) {u : Slot} {buf : WorkBuffer} (hheap : t.heap = s.heap)
    (hwork : t.world.work = s.world.work) (ho : t.world.opened = s.world.opened)
    (hhal : t.hal = s.hal) (hpending : t.world.pending ⊆ s.world.pending) (hl : l.Sublist s.handed)
    (hother : ∀ x ∈ l, x.slot ≠ u) (hhanded : t.handed = l ++ [⟨u, job, buf⟩])
    (hserves : s.Serves job buf) (hspare : s.Spare u buf) : Stocked t := by
  have hheld : ∀ x ∈ t.held, x ∈ s.held ∨ x = ⟨u, job, buf⟩ := by
    intro x hx
    rcases List.mem_append.mp hx with hx | hx
    · rw [hhanded] at hx
      rcases List.mem_append.mp hx with hx | hx
      · exact .inl (List.mem_append_left _ (hl.subset hx))
      · exact .inr (List.mem_singleton.mp hx)
    · exact .inl (List.mem_append_right _ (hpending hx))
  have hkeep : ∀ job buf, s.Serves job buf → t.Serves job buf := by
    intro job buf hb
    unfold Serves
    rw [hheap, hhal]
    exact hb
  refine ⟨?_, fun hc => ?_, fun x hx => ?_, fun x hx y hy hxy => ?_, ?_⟩
  · rw [hheap, hwork]
    exact hs.exactly
  · rw [hwork]
    exact hs.closed (ho.symm.trans hc)
  · rcases hheld x hx with hx | rfl
    · exact hkeep _ _ (hs.serves x hx)
    · exact hkeep _ _ hserves
  · rcases hheld x hx with hx | rfl
    · rcases hheld y hy with hy | rfl
      · exact hs.apart x hx y hy hxy
      · exact hspare x hx hxy
    · rcases hheld y hy with hy | rfl
      · exact (hspare y hy (Ne.symm hxy)).symm
      · exact absurd rfl hxy
  · rw [hhanded, List.map_append, List.nodup_append]
    refine ⟨hs.slots.sublist (hl.map _), List.nodup_singleton _, fun a ha b hb => ?_⟩
    obtain ⟨x, hx, rfl⟩ := List.mem_map.mp ha
    rw [List.mem_singleton.mp hb]
    exact hother x hx

end Stocked

def started (count : Nat) (s : Stock) (job : EncodeJob) (o : Start) (l : List Handed) : Stock where
  world := (startJob count job o s.world).1
  heap := reserveHeap count o.alloc job s.world.numSessions s.world.work s.heap
  hal := if job.workBuf.addr = 0 then s.hal else job.workBuf :: s.hal
  handed := l

def granted (count : Nat) (s : Stock) (job : EncodeJob) (o : Start) : WorkBuffer :=
  (reserveWorkBufs count o.alloc job s.world.numSessions s.world.work).2.1

theorem held_started (hv : validIdx job.sessionId = true) (hl : l.Sublist s.handed)
    (hx : x ∈ (s.started count job o l).held) :
    (x ∈ s.held ∧ (x ∈ s.handed ∨ x ∈ s.world.pending ∧ x.slot ≠ slotOf job.sessionId)) ∨
      x.slot = slotOf job.sessionId ∧ x.buf = s.granted count job o ∧
        ∃ u ∈ s.uses count job o, x.job.workSize = u.workSize := by
  rcases List.mem_append.mp hx with hx | hx
  · exact .inl ⟨List.mem_append_left _ (hl.subset hx), .inl (hl.subset hx)⟩
  obtain ⟨n, hn, hact, rfl⟩ := mem_pending.mp hx
  obtain ⟨-, hbuf⟩ := @startJob_work count job o s.world hv
  have hframe := startJob_frame count job o s.world
  change n ∈ (startJob count job o s.world).1.jobQueue at hn
  change ((startJob count job o s.world).1.session (slotOf n.jobId)).active = true at hact
  rw [(hframe.session _).active] at hact
  -- a job that was queued before keeps its buffer unless its session is the one named
  have hold : n ∈ s.world.jobQueue →
      (Handed.mk (slotOf n.jobId) n.job (s.world.session (slotOf n.jobId)).workBuffer) ∈
        s.world.pending := fun hmem => mem_pending.mpr ⟨n, hmem, hact, rfl⟩
  have hqueued : n ∈ s.world.jobQueue ∨ o.Accepts count job s.world ∧
      slotOf n.jobId = slotOf job.sessionId ∧ n.job.workSize = job.workSize := by
    rcases startJob_cases count job o s.world with hsame | ⟨ha, m, hjob, hid, v, hsame, heq⟩
    · rw [hsame.todo] at hn
      exact .inl hn
    · rw [heq] at hn
      rcases List.mem_append.mp hn with hn | hn
      · rw [hsame.todo] at hn
        exact .inl hn
      · obtain rfl := List.mem_singleton.mp hn
        refine .inr ⟨ha, ?_, ?_⟩
        · rw [hid, slotOf_packJob]
        · rw [hjob]
          rfl
  by_cases hslot : slotOf n.jobId = slotOf job.sessionId
  · right
    refine ⟨hslot, ?_, ?_⟩
    · refine (hbuf _).trans ?_
      rw [if_pos hslot]
      rfl
    · rcases hqueued with hmem | ⟨ha, -, hsize⟩
      · refine ⟨n.job, List.mem_append_left _ ?_, rfl⟩
        exact List.mem_map.mpr ⟨_, List.mem_filter.mpr ⟨hold hmem, by simpa using hslot⟩, rfl⟩
      · refine ⟨job, List.mem_append_right _ ?_, hsize⟩
        rw [if_pos ha]
        exact List.mem_singleton_self job
  · left
    have hmem := hqueued.resolve_right fun h => hslot h.2.1
    have hsame : ((s.started count job o l).world.session (slotOf n.jobId)).workBuffer =
        (s.world.session (slotOf n.jobId)).workBuffer := by
      refine (hbuf _).trans ?_
      rw [if_neg hslot]
    rw [hsame]
    exact ⟨List.mem_append_right _ (hold hmem), .inr ⟨hold hmem, hslot⟩⟩

theorem Supplies.granted (h : s.Supplies count job o) (hs : Stocked s)
    (hr : Reserved count o.alloc job s.world.numSessions s.world.work s.heap (s.started count job o l).world.work (s.granted count job o) (s.started count job o l).heap)
    :
    ∀ u ∈ s.uses count job o, (s.started count job o l).Serves u (s.granted count job o) ∧
      ∀ x ∈ s.held, x ∈ s.handed ∨ x ∈ s.world.pending ∧ x.slot ≠ slotOf job.sessionId →
        x.slot ≠ slotOf job.sessionId → x.buf.addr ≠ (s.granted count job o).addr := by
  intro u hu
  rcases hk : keptBuf count job s.world.numSessions s.world.work with - | b
  · obtain ⟨hsize, hlive, j, hj, hfills, haddr⟩ := hr.fresh hk
    refine ⟨⟨?_, .inl hlive⟩, fun x hx hwhere hslot => ?_⟩
    · rw [hsize]
      exact h.fresh hk u hu
    rw [haddr]
    obtain ⟨-, hnew, -⟩ := h.obtains j hj hfills
    by_cases hc : Changes count job s.world.numSessions s.world.work
    · have hhal : x.buf ∈ s.hal := hwhere.elim ((h.idle hc).1 x) fun hp => (h.idle hc).2 x hp.1 hp.2
      exact h.foreign j hj hfills _ hhal
    · rcases (hs.serves x hx).2 with hlive | hhal
      · rintro heq
        rw [heq] at hlive
        exact hnew.elim hc fun hn => hn hlive
      · exact h.foreign j hj hfills _ hhal
  · obtain ⟨hbuf, hlive⟩ := hr.kept b hk
    obtain ⟨hsize, hspare⟩ := h.kept b hk u hu
    rw [hbuf]
    refine ⟨⟨hsize, ?_⟩, fun x hx _ hslot => hspare x hx hslot⟩
    by_cases hj : job.workBuf.addr = 0
    · exact .inl (hlive hj)
    · right
      obtain ⟨-, hb⟩ := Option.ite_none_right_eq_some.mp hk
      rw [if_pos hj] at hb
      obtain rfl := Option.some.inj hb
      change job.workBuf ∈ if job.workBuf.addr = 0 then s.hal else job.workBuf :: s.hal
      rw [if_neg hj]
      exact List.mem_cons_self ..

theorem Stocked.start (hs : Stocked s) (hcount : 0 < count) (hopen : s.world.opened = true)
    (hv : validIdx job.sessionId = true) (h : s.Supplies count job o) (hl : l.Sublist s.handed) :
    Stocked (s.started count job o l) := by
  obtain ⟨hwork, -⟩ := @startJob_work count job o s.world hv
  have hr : Reserved count o.alloc job s.world.numSessions s.world.work s.heap
      (s.started count job o l).world.work (s.granted count job o)
      (s.started count job o l).heap := by
    change Reserved _ _ _ _ _ _ (startJob count job o s.world).1.work _ _
    rw [hwork]
    exact reserve_spec hcount hs.exactly h.obtains
  have hhal : ∀ b ∈ s.hal, b ∈ (s.started count job o l).hal := by
    intro b hb
    change b ∈ if job.workBuf.addr = 0 then s.hal else job.workBuf :: s.hal
    split_ifs
    · exact hb
    · exact List.mem_cons_of_mem _ hb
  have hkeep : ∀ x ∈ s.held, x ∈ s.handed ∨ x ∈ s.world.pending ∧ x.slot ≠ slotOf job.sessionId →
      (s.started count job o l).Serves x.job x.buf := by
    intro x hx hwhere
    refine ⟨(hs.serves x hx).1, ?_⟩
    by_cases hc : Changes count job s.world.numSessions s.world.work
    · right
      exact hhal _ (hwhere.elim ((h.idle hc).1 x) fun hp => (h.idle hc).2 x hp.1 hp.2)
    · exact (hs.serves x hx).2.imp (fun hlive => hr.live hc hlive) (hhal _)
  have hgranted := h.granted hs hr
  refine ⟨hr.exactly, fun hc => ?_, fun x hx => ?_, fun x hx y hy hxy => ?_, ?_⟩
  · have hopened := (startJob_frame count job o s.world).opened
    change (startJob count job o s.world).1.opened = false at hc
    rw [hopened, hopen] at hc
    cases hc
  · rcases held_started hv hl hx with ⟨hx, hwhere⟩ | ⟨-, hbuf, u, hu, hsize⟩
    · exact hkeep x hx hwhere
    · obtain ⟨⟨hroom, hthere⟩, -⟩ := hgranted u hu
      rw [hbuf]
      exact ⟨by rw [hsize]; exact hroom, hthere⟩
  · rcases held_started hv hl hx with ⟨hx, hwhere⟩ | ⟨hslot, hbuf, u, hu, -⟩
    · rcases held_started hv hl hy with ⟨hy, -⟩ | ⟨hslot, hbuf, u, hu, -⟩
      · exact hs.apart x hx y hy hxy
      · rw [hbuf]
        exact (hgranted u hu).2 x hx hwhere (by rw [← hslot]; exact hxy)
    · rcases held_started hv hl hy with ⟨hy, hwhere⟩ | ⟨hslot', -, -⟩
      · rw [hbuf]
        exact ((hgranted u hu).2 y hy hwhere (by rw [← hslot]; exact Ne.symm hxy)).symm
      · exact absurd (hslot.trans hslot'.symm) hxy
  · exact hs.slots.sublist (hl.map _)

def Settled (w v : World) : Prop :=
  (∃ u, v = deinit u) ∨ ∃ b, (w.opened = true → b = true) ∧ WorkFrame { w with opened := b } v

theorem jpegOpen_settled (init : Bool) (w : World) : Settled w (jpegOpen init w).1 := by
  have hnew := newClient_work { w with opened := true }
  unfold jpegOpen
  split_ifs
  · exact .inr ⟨w.opened, id, .refl w⟩
  dsimp only
  split_ifs
  · exact .inl ⟨_, rfl⟩
  · exact .inr ⟨true, fun _ => rfl, hnew⟩

theorem intfClose_settled (hdl : Nat) (w : World) : Settled w (intfClose hdl w).1 := by
  have hclose : WorkFrame w { (Jpeg.close hdl w).1 with
      numClients := (Jpeg.close hdl w).1.numClients - 1 } :=
    (close_work hdl w).trans (.of_jobs rfl rfl (List.Subset.refl _) rfl)
  unfold intfClose
  split_ifs
  · exact .inr ⟨w.opened, id, .refl w⟩
  · exact .inr ⟨w.opened, id, .refl w⟩
  dsimp only
  split_ifs
  · exact .inl ⟨_, rfl⟩
  · exact .inr ⟨w.opened, id, hclose⟩

variable {e : Event}

theorem handedAfter_sublist (h : e.takes w' = none) : (s.handedAfter e w').Sublist s.handed := by
  unfold handedAfter
  rw [h]
  exact (List.append_nil _).symm ▸ List.filter_sublist

theorem Stocked.frame (hs : Stocked s) (ht : e.takes w' = none)
    (hheap : s.heapAfter count e w' = s.heap) (hhal : s.halAfter e = s.hal)
    (hf : WorkFrame s.world w') :
    Stocked { world := w', heap := s.heapAfter count e w', hal := s.halAfter e
              handed := s.handedAfter e w' } := by
  refine hs.shrink hheap hf.work (fun hc => hf.opened.symm.trans hc) ?_ (handedAfter_sublist ht)
    (pending_of_frame hf)
  change s.hal ⊆ s.halAfter e
  rw [hhal]
  exact List.Subset.refl _

theorem Stocked.settle (hs : Stocked s) (ht : e.takes w' = none)
    (hheap : s.heapAfter count e w' = if s.world.opened && !w'.opened then s.heap.freeAll s.world.work.addrs else s.heap)
    (hhal : s.halAfter e = s.hal) (hw : Settled s.world w') :
    Stocked { world := w', heap := s.heapAfter count e w', hal := s.halAfter e
              handed := s.handedAfter e w' } := by
  rcases hw with ⟨u, rfl⟩ | ⟨b, hb, hf⟩
  · refine emptied rfl ?_ ?_ rfl
    · change Heap.Exactly (s.heapAfter count e (deinit u)) []
      rw [hheap]
      by_cases ho : s.world.opened = true
      · rw [if_pos (by rw [ho]; rfl)]
        exact hs.exactly.freeAll
      · rw [if_neg (by simp [ho])]
        have hclosed := hs.closed (by simpa using ho)
        rw [← hclosed]
        exact hs.exactly
    · change s.handedAfter e (deinit u) = []
      unfold handedAfter
      rw [ht]
      refine (List.append_nil _).trans ?_
      rw [List.filter_eq_nil_iff]
      intro x _ hx
      have hencoding : Encoding (deinit u) x.slot = false := rfl
      rw [hencoding] at hx
      cases hx
  · have hkeep : s.heapAfter count e w' = s.heap := by
      rw [hheap, if_neg]
      rw [hf.opened]
      change ¬(s.world.opened && !b) = true
      cases ho : s.world.opened with
      | false => exact Bool.false_ne_true
      | true =>
        rw [hb ho]
        exact Bool.false_ne_true
    have hpending : w'.pending ⊆ ({ s.world with opened := b } : World).pending :=
      pending_of_frame hf
    refine hs.shrink hkeep hf.work (fun hc => ?_) ?_ (handedAfter_sublist ht) hpending
    · have hclosed : b = false := hf.opened.symm.trans hc
      cases ho : s.world.opened with
      | false => rfl
      | true => exact (hb ho).symm.trans hclosed
    · change s.hal ⊆ s.halAfter e
      rw [hhal]
      exact List.Subset.refl _

theorem Stocked.wake {o : TakeUp} (hs : Stocked s) (hp : s.Sound count (.wake o))
    (h : jobmgrWake o s.world = some w') :
    Stocked { world := w', heap := s.heap, hal := s.hal, handed := s.handedAfter (.wake o) w' } := by
  obtain ⟨hf, hin⟩ := jobmgrWake_work h
  cases ht : w'.inEncode with
  | none =>
    have htakes : Event.takes (.wake o) w' = none := ht
    have hsub := handedAfter_sublist (s := s) htakes
    exact hs.shrink rfl hf.work (fun hc => hf.opened.symm.trans hc) (List.Subset.refl _) hsub
      (pending_of_frame hf)
  | some t =>
    obtain ⟨n, q, hn, hq, hhead, hbuf, hsize⟩ := hin t ht
    have hgood : s.Serves n.job (s.world.session t).workBuffer ∧
        s.Spare t (s.world.session t).workBuffer := by
      rcases hp n hn q hq t hhead with ⟨rfl, hact⟩ | hgood
      · -- the job was pending for this session
        have hmem : Handed.mk (slotOf n.jobId) n.job
            (s.world.session (slotOf n.jobId)).workBuffer ∈ s.held :=
          List.mem_append_right _
            (mem_pending.mpr ⟨n, List.mem_of_mem_head? hn, hact, rfl⟩)
        have hserves := hs.serves _ hmem
        have hapart := fun x hx => hs.apart x hx _ hmem
        exact ⟨hserves, hapart⟩
      · exact hgood
    obtain ⟨⟨hroom, hthere⟩, hspare⟩ := hgood
    have hhanded : s.handedAfter (.wake o) w' =
        s.handed.filter (fun x => Encoding w' x.slot && (some t : Option Slot) ≠ some x.slot) ++
          [⟨t, (w'.session t).encodeJob, (w'.session t).workBuffer⟩] := by
      unfold handedAfter
      have htakes : Event.takes (.wake o) w' = some t := ht
      rw [htakes]
      rfl
    refine hs.take rfl hf.work hf.opened rfl (pending_of_frame hf) List.filter_sublist
      (fun x hx => ?_) hhanded ⟨?_, ?_⟩ ?_
    · have hne := (Bool.and_eq_true_iff.mp (List.mem_filter.mp hx).2).2
      intro heq
      exact of_decide_eq_true hne (by rw [heq])
    · rw [hbuf, hsize]
      exact hroom
    · rw [hbuf]
      exact hthere
    · rw [hbuf]
      exact hspare

theorem Stocked.startJob (hs : Stocked s) (hcount : 0 < count)
    (hp : s.Sound count (.call (.startJob (some job) o))) :
    let w' := (intfStartJob count (some job) o s.world).1
    Stocked { world := w', heap := s.heapAfter count (.call (.startJob (some job) o)) w'
              hal := s.halAfter (.call (.startJob (some job) o))
              handed := s.handedAfter (.call (.startJob (some job) o)) w' } := by
  intro w'
  have hhal : s.hal ⊆ s.halAfter (.call (.startJob (some job) o)) := by
    change s.hal ⊆ if job.workBuf.addr = 0 then s.hal else job.workBuf :: s.hal
    split_ifs
    · exact List.Subset.refl _
    · exact List.subset_cons_self ..
  have hheap : s.heapAfter count (.call (.startJob (some job) o)) w' =
      if s.world.opened && validIdx job.sessionId then
        reserveHeap count o.alloc job s.world.numSessions s.world.work s.heap
      else s.heap := rfl
  have hturned : w' = s.world → (s.world.opened && validIdx job.sessionId) = false →
      Stocked { world := w', heap := s.heapAfter count (.call (.startJob (some job) o)) w'
                hal := s.halAfter (.call (.startJob (some job) o))
                handed := s.handedAfter (.call (.startJob (some job) o)) w' } := by
    intro hw hno
    rw [hheap, hno, if_neg Bool.false_ne_true]
    exact hs.shrink rfl (by rw [hw]) (fun hc => by rw [← hw]; exact hc) hhal
      (handedAfter_sublist rfl) (by rw [hw]; exact List.Subset.refl _)
  by_cases ho : s.world.opened = true
  · have hw : w' = (Jpeg.startJob count job o s.world).1 := by
      change (intfStartJob count (some job) o s.world).1 = _
      unfold intfStartJob
      dsimp only
      rw [if_neg (by rw [ho]; decide)]
    by_cases hv : validIdx job.sessionId = true
    · rw [hheap, ho, hv, hw]
      exact hs.start hcount ho hv (hp ho hv) (handedAfter_sublist rfl)
    · refine hturned ?_ (by simp [hv])
      rw [hw]
      unfold Jpeg.startJob
      rw [if_pos (by simpa using hv)]
  · refine hturned ?_ (by simp [ho])
    change (intfStartJob count (some job) o s.world).1 = _
    unfold intfStartJob
    dsimp only
    rw [if_pos (by simpa using ho)]

theorem Stocked.call {c : Call} (hs : Stocked s) (hcount : 0 < count) (hp : s.Sound count (.call c))
    (h : (Jpeg.call count s.world c).map Prod.fst = some w') :
    Stocked { world := w', heap := s.heapAfter count (.call c) w', hal := s.halAfter (.call c)
              handed := s.handedAfter (.call c) w' } := by
  obtain ⟨⟨v, r⟩, hcall, rfl⟩ := Option.map_eq_some_iff.mp h
  unfold Jpeg.call at hcall
  split at hcall
  · cases hcall
  cases c with
  | «open» init =>
    obtain rfl := congrArg Prod.fst (Option.some.inj hcall)
    exact hs.settle rfl rfl rfl (jpegOpen_settled init s.world)
  | close hdl =>
    obtain rfl := congrArg Prod.fst (Option.some.inj hcall)
    exact hs.settle rfl rfl rfl (intfClose_settled hdl s.world)
  | createSession hdl params o =>
    obtain rfl := congrArg Prod.fst (Option.some.inj hcall)
    unfold intfCreateSession
    split_ifs
    · exact hs.frame rfl rfl rfl (.refl _)
    · exact hs.frame rfl rfl rfl (.refl _)
    · have hg := createSession_grown count hdl params o s.world
      exact hs.shrink rfl hg.work (fun hc => hg.opened.symm.trans hc) (List.Subset.refl _)
        (handedAfter_sublist rfl) (pending_of_grown hg hp)
  | destroySession id o =>
    have hf : WorkFrame s.world v := by
      dsimp only at hcall
      unfold intfDestroySession at hcall
      split_ifs at hcall
      · obtain rfl := congrArg Prod.fst (Option.some.inj hcall)
        exact .refl _
      · obtain rfl := congrArg Prod.fst (Option.some.inj hcall)
        exact .refl _
      split at hcall
      · obtain rfl := congrArg Prod.fst (Option.some.inj hcall)
        exact .refl _
      · obtain ⟨u, hu, heq⟩ := Option.map_eq_some_iff.mp hcall
        obtain rfl := congrArg Prod.fst heq
        exact destroySession_work hu
    exact hs.frame rfl rfl rfl hf
  | startJob job o =>
    obtain rfl := congrArg Prod.fst (Option.some.inj hcall)
    cases job with
    | none => exact hs.frame rfl rfl rfl (.refl _)
    | some job => exact hs.startJob hcount hp
  | abortJob id =>
    have hf : WorkFrame s.world v := by
      obtain rfl := congrArg Prod.fst (Option.some.inj hcall)
      unfold intfAbortJob
      split_ifs
      · exact .refl _
      · exact .refl _
      · exact (abortJob_steady id s.world).workFrame
    exact hs.frame rfl rfl rfl hf

theorem Stocked.step (hs : Stocked s) (hcount : 0 < count) (hp : s.Sound count e)
    (h : s.step count e = some t) : Stocked t := by
  obtain ⟨w', hw, rfl⟩ := Option.map_eq_some_iff.mp h
  cases e with
  | call c => exact hs.call hcount hp hw
  | wake o => exact hs.wake hp hw
  | submit taken o => exact hs.frame rfl rfl rfl (encodeSubmit_steady hw).workFrame
  | fillBufferDone u o => exact hs.frame rfl rfl rfl (fbd_steady hw).workFrame
  | omxEvent u e o => exact hs.frame rfl rfl rfl (eventHandler_steady hw).workFrame

theorem stocked_init : Stocked {} := .emptied rfl Heap.exactly_nil rfl rfl

end Stock

end Jpeg
