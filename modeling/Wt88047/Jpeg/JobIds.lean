import Wt88047.Jpeg.ChainCreation

/-! The ids of sessions and jobs: how their fields decode, what the calls put into the ids that they
hand out, and what the other steps do to the ids of the outstanding jobs. -/

namespace Jpeg

open World

def getJobIdx (x : Nat) : Nat := x / 65536 % 256

def Slot.Valid (s : Slot) : Prop := s.client < maxJpegClientNum ∧ s.idx < maxSession

theorem packSession_fields {s : Slot} (hs : s.Valid) :
    packSession s / 65536 = 256 ∧ packSession s % 65536 = s.idx * 256 + s.client := by
  have hall : ∀ c < maxJpegClientNum, ∀ i < maxSession, packSession ⟨c, i⟩ / 65536 = 256 ∧
      packSession ⟨c, i⟩ % 65536 = i * 256 + c := by decide
  exact hall s.client hs.1 s.idx hs.2

theorem packJob_high {s : Slot} (hs : s.Valid) (h : Nat) :
    packJob (packSession s) h / 65536 = 256 ||| h % jobHistMax := by
  have hshift : (h % jobHistMax) <<< 16 / 2 ^ 16 = h % jobHistMax := by
    rw [Nat.shiftLeft_eq, Nat.mul_div_cancel _ (by decide)]
  change (packSession s ||| (h % jobHistMax) <<< 16) / 2 ^ 16 = _
  rw [Nat.or_div_two_pow, hshift]
  exact congrArg (· ||| h % jobHistMax) (packSession_fields hs).1

theorem packJob_low {s : Slot} (hs : s.Valid) (h : Nat) :
    packJob (packSession s) h % 65536 = s.idx * 256 + s.client := by
  have hshift : (h % jobHistMax) <<< 16 % 2 ^ 16 = 0 := by
    rw [Nat.shiftLeft_eq, Nat.mul_mod_left]
  change (packSession s ||| (h % jobHistMax) <<< 16) % 2 ^ 16 = _
  rw [Nat.or_mod_two_pow, hshift, Nat.or_zero]
  exact (packSession_fields hs).2

theorem getJobIdx_packJob {s : Slot} (hs : s.Valid) (h : Nat) :
    getJobIdx (packJob (packSession s) h) = h % jobHistMax % 256 := by
  have hor : (256 ||| h % jobHistMax) % 2 ^ 8 = h % jobHistMax % 2 ^ 8 := by
    rw [Nat.or_mod_two_pow]
    exact Nat.zero_or _
  rw [getJobIdx, packJob_high hs]
  exact hor

theorem slotOf_packJob_packSession {s : Slot} (hs : s.Valid) (h : Nat) :
    slotOf (packJob (packSession s) h) = s := by
  have hlow := packJob_low hs h
  have hclient : s.client < 8 := hs.1
  have hidx : s.idx < 10 := hs.2
  generalize packJob (packSession s) h = id at hlow
  have hc : id % 256 = s.client := by omega
  have hi : id / 256 % 256 = s.idx := by omega
  exact congrArg₂ Slot.mk hc hi

theorem packJob_eq_iff {s t : Slot} (hs : s.Valid) (ht : t.Valid) (h k : Nat) :
    packJob (packSession s) h = packJob (packSession t) k ↔
      s = t ∧ 256 ||| h % jobHistMax = 256 ||| k % jobHistMax := by
  constructor
  · intro he
    refine ⟨?_, ?_⟩
    · rw [← slotOf_packJob_packSession hs h, he, slotOf_packJob_packSession ht k]
    · rw [← packJob_high hs h, he, packJob_high ht k]
  · rintro ⟨rfl, he⟩
    rw [← Nat.div_add_mod (packJob (packSession s) h) 65536, packJob_high hs, packJob_low hs, he,
      ← packJob_high hs, ← packJob_low hs k, Nat.div_add_mod]

structure TicketFrame (l : List (Nat × Nat)) (w w' : World) : Prop where
  tickets : (tickets w').Subperm l
  hist : ∀ s, (w'.session s).jobHist = (w.session s).jobHist
  session : ∀ s, (w'.session s).active = true →
    (w.session s).active = true ∧ (w'.session s).sessionId = (w.session s).sessionId

namespace TicketFrame

variable {l : List (Nat × Nat)} {w w' w'' : World} {s : Slot}

theorem append_trans (m : List (Nat × Nat)) (h : TicketFrame l w w')
    (h' : TicketFrame (m ++ Jpeg.tickets w') w' w'') : TicketFrame (m ++ l) w w'' where
  tickets := h'.tickets.trans ((List.subperm_append_left m).mpr h.tickets)
  hist s := (h'.hist s).trans (h.hist s)
  session s hs := by
    obtain ⟨hs', hid'⟩ := h'.session s hs
    obtain ⟨hs, hid⟩ := h.session s hs'
    exact ⟨hs, hid'.trans hid⟩

theorem trans (h : TicketFrame l w w') (h' : TicketFrame (Jpeg.tickets w') w' w'') :
    TicketFrame l w w'' := append_trans [] h h'

theorem weaken {k : List (Nat × Nat)} (h : TicketFrame l w w') (hk : l.Subperm k) :
    TicketFrame k w w' := ⟨h.tickets.trans hk, h.hist, h.session⟩

theorem of_jobs (ht : (Jpeg.tickets w').Subperm l) (hs : w'.session = w.session) :
    TicketFrame l w w' :=
  ⟨ht, fun s => by rw [hs], fun s h => by rw [hs] at h ⊢; exact ⟨h, rfl⟩⟩

theorem refl (w : World) : TicketFrame (Jpeg.tickets w) w w := of_jobs (List.Subperm.refl _) rfl

theorem of_sublist (hq : w'.jobQueue.Sublist w.jobQueue) (ho : w'.ongoingJobQ.Sublist w.ongoingJobQ)
    (hs : w'.session = w.session) : TicketFrame (Jpeg.tickets w) w w' :=
  of_jobs ((hq.append ho).map _).subperm hs

theorem setSession {p : Session} (hh : p.jobHist = (w.session s).jobHist) (h : p.active = true →
    (w.session s).active = true ∧ p.sessionId = (w.session s).sessionId) :
    TicketFrame (Jpeg.tickets w) w (w.setSession s p) := by
  refine ⟨List.Subperm.refl _, fun t => ?_, fun t ht => ?_⟩
  · rw [session_setSession]
    by_cases hts : t = s
    · rw [if_pos hts, hts]
      exact hh
    · rw [if_neg hts]
  · rw [session_setSession] at ht ⊢
    by_cases hts : t = s
    · rw [if_pos hts] at ht ⊢
      rw [hts]
      exact h ht
    · rw [if_neg hts] at ht ⊢
      exact ⟨ht, rfl⟩

theorem onSession {f : Session → Session} (h : ∀ p : Session, (f p).jobHist = p.jobHist ∧
    ((f p).active = true → p.active = true ∧ (f p).sessionId = p.sessionId)) :
    TicketFrame (Jpeg.tickets w) w (w.onSession s f) := setSession (h _).1 (h _).2

end TicketFrame

variable {w w' : World}

theorem Steady.ticketFrame (h : Steady w w') : TicketFrame (Jpeg.tickets w) w w' :=
  ⟨h.tickets, fun s => (h.own s).1,
    fun s hs => ⟨(h.session s).active.symm.trans hs, (h.session s).sessionId⟩⟩

theorem startEncode_tickets {o : TakeUp} {n : JobNode} {s : Slot} (h : startEncode o n s w = some w') :
    TicketFrame ((n.job.sessionId, n.jobId) :: tickets w) w w' := by
  have hbound : TicketFrame ((n.job.sessionId, n.jobId) :: tickets w) w (bindJob n s w) := by
    have hqueued : TicketFrame ((n.job.sessionId, n.jobId) :: tickets w) w
        { w with ongoingJobQ := w.ongoingJobQ ++ [n] } := by
      refine .of_jobs ?_ rfl
      rw [tickets, ← List.append_assoc, List.map_append]
      exact (List.perm_append_singleton _ _).subperm
    exact hqueued.trans (.onSession fun _ => ⟨rfl, fun hp => ⟨hp, rfl⟩⟩)
  unfold startEncode at h
  dsimp only at h
  have hframe := hbound.trans (beginEncode_steady o s _).ticketFrame
  split_ifs at h
  · exact (jobDone_steady h).ticketFrame.weaken List.Subperm.cons_self
  · obtain rfl := Option.some.inj h
    refine hframe.trans (TicketFrame.trans (.onSession (s := s)
      (f := fun p => { p with encoding := true }) fun _ => ⟨rfl, fun hp => ⟨hp, rfl⟩⟩)
      (.of_jobs (List.Subperm.refl _) rfl))
  · exact (hframe.trans (callback_steady ..).ticketFrame).trans (jobDone_steady h).ticketFrame

theorem processEncodingJob_tickets {o : TakeUp} {n : JobNode} (h : processEncodingJob o n w = some w') :
    TicketFrame ((n.job.sessionId, n.jobId) :: tickets w) w w' := by
  have hauto : ∀ (v : World) (s : Slot) (b : Bool),
      TicketFrame (tickets v) v (v.onSession s fun p => { p with autoOutBuf := b }) :=
    fun v s b => .onSession fun _ => ⟨rfl, fun hp => ⟨hp, rfl⟩⟩
  have hout : ∀ (v : World) (q : Nat), TicketFrame (tickets v) v (v.deqOutBuf q) :=
    fun v q => .of_jobs (List.Subperm.refl _) rfl
  unfold processEncodingJob at h
  dsimp only at h
  split at h
  · obtain rfl := Option.some.inj h
    exact (TicketFrame.refl w).weaken List.Subperm.cons_self
  split at h
  · cases h
  split at h
  · obtain rfl := Option.some.inj h
    split_ifs
    · exact .of_jobs (List.Subperm.refl _) rfl
    · exact (TicketFrame.refl w).weaken List.Subperm.cons_self
  rename_i q _ _ s _ _
  have hfree : TicketFrame (tickets w) w
      ((w.deqHandle q).onSession s fun p => { p with autoOutBuf := false }) := by
    have hdeq : TicketFrame (tickets w) w (w.deqHandle q) := .of_jobs (List.Subperm.refl _) rfl
    exact hdeq.trans (hauto ..)
  have hstart : ∀ {v : World} {m : JobNode} {p : TakeUp}, TicketFrame (tickets w) w v →
      m.job.sessionId = n.job.sessionId → m.jobId = n.jobId → startEncode p m s v = some w' →
      TicketFrame ((n.job.sessionId, n.jobId) :: tickets w) w w' := by
    intro v m p hv hid hjob hs
    have hstarted := startEncode_tickets hs
    rw [hid, hjob] at hstarted
    exact hv.append_trans [_] hstarted
  split_ifs at h
  · exact hstart hfree rfl rfl h
  split at h
  · cases h
  split at h
  · obtain rfl := Option.some.inj h
    exact (hfree.trans (hout ..)).weaken List.Subperm.cons_self
  · refine hstart ?_ ?_ ?_ h
    · exact (hfree.trans (hout ..)).trans (hauto _ _ true)
    · rfl
    · rfl

theorem jobmgrWake_tickets {o : TakeUp} (h : jobmgrWake o w = some w') :
    TicketFrame (tickets w) w w' := by
  unfold jobmgrWake at h
  dsimp only at h
  split_ifs at h
  · obtain rfl := Option.some.inj h
    exact .of_jobs (List.Subperm.refl _) rfl
  split at h
  · obtain rfl := Option.some.inj h
    exact .of_jobs (List.Subperm.refl _) rfl
  next n rest hn =>
  have hframe := processEncodingJob_tickets h
  have hhead : tickets w = (n.job.sessionId, n.jobId) :: (rest ++ w.ongoingJobQ).map
      fun n => (n.job.sessionId, n.jobId) := by
    rw [tickets, hn]
    rfl
  rw [hhead]
  exact ⟨hframe.tickets, hframe.hist, hframe.session⟩

theorem removeJobs_tickets (w : World) (id : Nat) : TicketFrame (tickets w) w (removeJobs w id) :=
  .of_sublist List.filter_sublist List.filter_sublist rfl

theorem removeSessionIdx_tickets (w : World) (id : Nat) :
    TicketFrame (tickets w) w (removeSessionIdx w id) :=
  .onSession fun _ => ⟨rfl, fun hp => absurd hp Bool.false_ne_true⟩

theorem sessionDestroy_tickets (o : Slot → Teardown) (chain : List Slot) (w : World) :
    TicketFrame (tickets w) w (sessionDestroy o chain w) := by
  have hteardown : ∀ (s : Slot) (h : Nat) (v : World),
      TicketFrame (tickets v) v (teardownSession (o s) s h v) := by
    intro s h v
    obtain ⟨p, f, hs⟩ := sessionTeardown_session (o s) (v.session s) (v.component h)
    have hset : TicketFrame (tickets v) v
        (v.setSession s (sessionTeardown (o s) (v.session s) (v.component h)).1) := by
      rw [hs]
      exact .setSession rfl fun hp => ⟨hp, rfl⟩
    exact hset.trans (.of_jobs (List.Subperm.refl _) rfl)
  induction chain generalizing w with
  | nil => exact .refl _
  | cons s rest ih =>
    rw [sessionDestroy]
    split
    · exact .refl _
    · exact (hteardown ..).trans (ih _)

theorem destroySession_tickets {o : Slot → Teardown} {s : Slot} (h : destroySession o s w = some w') :
    TicketFrame (tickets w) w w' := by
  have hfold : ∀ (l : List Slot) (v : World), TicketFrame (tickets v) v
      (l.foldl (fun w t => removeSessionIdx w (w.session t).sessionId) v) := by
    intro l
    induction l with
    | nil => exact fun v => .refl v
    | cons t l ih => exact fun v => (removeSessionIdx_tickets ..).trans (ih _)
  have hchain : TicketFrame (tickets w) w (destroyChain o s w) := by
    unfold destroyChain
    dsimp only
    exact (((removeJobs_tickets ..).trans (sessionAbort_steady ..).ticketFrame).trans
      (sessionDestroy_tickets ..)).trans (hfold _ _)
  have hqueues : ∀ (v : World) (q id : Nat), TicketFrame (tickets v) v (destroyQueues s q id v) := by
    intro v q id
    have hset : TicketFrame (tickets v) v (v.onSession s fun p => { p with queues := none }) :=
      .onSession fun _ => ⟨rfl, fun hp => ⟨hp, rfl⟩⟩
    exact ⟨hset.tickets, hset.hist, hset.session⟩
  unfold destroySession at h
  split at h
  · cases h
  · obtain rfl := Option.some.inj h
    exact hchain.trans (hqueues ..)

theorem destroySessionUnlocked_tickets (w : World) (s : Slot) :
    TicketFrame (tickets w) w (destroySessionUnlocked w s) :=
  (((removeJobs_tickets ..).trans (sessionAbort_steady ..).ticketFrame).trans (removeSessionIdx_tickets ..)).trans
    (.of_jobs (List.Subperm.refl _) rfl)

end Jpeg
