import Mathlib.Data.List.Nodup
import Wt88047.Jpeg.ClientHandles
import Wt88047.Jpeg.JobIdCreation

/-! The ids of the outstanding jobs over the runs of the JPEG interface. -/

namespace Jpeg

open World

def Start.Builds (o : Start) (count : Nat) (job : EncodeJob) (w : World) : Prop :=
  validIdx job.sessionId = true ∧
    (reserveWorkBufs count o.alloc job w.numSessions w.work).2.2.2 = true ∧
    (w.session (slotOf job.sessionId)).active = true ∧
    job.srcIndex < (w.session (slotOf job.sessionId)).params.numSrcBufs ∧
    job.dstIndex < (w.session (slotOf job.sessionId)).params.numDstBufs ∧
    o.mallocNode = true

def Distinct (w : World) : Prop := ((w.jobQueue ++ w.ongoingJobQ).map (·.jobId)).Nodup

def Event.Decodes (count : Nat) (w : World) : Event → Prop
  | .call (.createSession hdl params o) =>
    let id := (intfCreateSession count hdl params o w).2.value
    id ≠ 0 → ∃ s ∈ newSessionIdx w (getIndexByHandler hdl),
      getClientIdx id = s.client ∧ getSessionIdx id = s.idx
  | .call (.startJob (some job) o) => w.opened = true → o.Builds count job w →
    let id := (intfStartJob count (some job) o w).2.value
    slotOf id = slotOf job.sessionId ∧
      getJobIdx id = (w.session (slotOf job.sessionId)).jobHist % jobHistMax
  | _ => True

def Event.OwnId (count : Nat) (w : World) : Event → Prop
  | .call (.startJob (some job) o) => w.opened = true → o.Builds count job w →
    job.sessionId = (w.session (slotOf job.sessionId)).sessionId
  | _ => True

/-- The history number of a started job fits into what `GET_JOB_IDX` reads. -/
def Event.Recent (count : Nat) (w : World) : Event → Prop
  | .call (.startJob (some job) o) => w.opened = true → o.Builds count job w →
    (w.session (slotOf job.sessionId)).jobHist % jobHistMax < 256
  | _ => True

/-- When the sessions of a client are cleared, no job of them is left behind: at `open` the
outstanding jobs are those of clients in use, and at `close` their sessions are active. -/
def Event.Settled (w : World) : Event → Prop
  | .call (.open _) => ∀ n ∈ w.jobQueue ++ w.ongoingJobQ,
    (w.client (getClientIdx n.jobId)).isUsed = true
  | .call (.close hdl) => ∀ n ∈ w.jobQueue ++ w.ongoingJobQ,
    getClientIdx n.jobId = getIndexByHandler hdl → (w.session (slotOf n.jobId)).active = true
  | _ => True

theorem destroySessionUnlocked_active (w : World) (s t : Slot) (ht : t ≠ slotOf (w.session s).sessionId) :
    ((destroySessionUnlocked w s).session t).active = (w.session t).active := by
  have hkept := ((removeJobs_frame w (w.session s).sessionId).trans
    (sessionAbort_frame (chainOf w s) _)).session t
  change ((removeSessionIdx _ _).session t).active = _
  rw [removeSessionIdx, session_onSession, if_neg ht]
  exact hkept.active

theorem destroySessionUnlocked_gone {w : World} {s : Slot} {t : Nat × Nat}
    (ht : t ∈ tickets (destroySessionUnlocked w s)) : t.1 ≠ (w.session s).sessionId := by
  have hmem : t ∈ tickets (removeJobs w (w.session s).sessionId) := by
    have hframe : TicketFrame (tickets (removeJobs w (w.session s).sessionId))
        (removeJobs w (w.session s).sessionId) (destroySessionUnlocked w s) :=
      ((sessionAbort_steady ..).ticketFrame.trans (removeSessionIdx_tickets ..)).trans
        (.of_jobs (List.Subperm.refl _) rfl)
    exact hframe.tickets.subset ht
  obtain ⟨n, hn, rfl⟩ := List.mem_map.mp hmem
  rcases List.mem_append.mp hn with hn | hn
  · exact of_decide_eq_true (List.mem_filter.mp hn).2
  · exact of_decide_eq_true (List.mem_filter.mp hn).2

theorem closeSessions_tickets {c : Nat} (l : List Nat) {w : World} (hw : OwnIds w) :
    let w' := l.foldl (fun w i =>
      if (w.session ⟨c, i⟩).active then destroySessionUnlocked w ⟨c, i⟩ else w) w
    TicketFrame (tickets w) w w' ∧
      ∀ i ∈ l, (w.session ⟨c, i⟩).active = true → ∀ t ∈ tickets w', t.1 ≠ packSession ⟨c, i⟩ := by
  induction l generalizing w with
  | nil => exact ⟨.refl w, fun i hi => absurd hi List.not_mem_nil⟩
  | cons i l ih =>
    rw [List.foldl_cons]
    by_cases hi : (w.session ⟨c, i⟩).active = true
    · rw [if_pos hi]
      obtain ⟨hvalid, hid⟩ := hw _ hi
      have hframe := destroySessionUnlocked_tickets w ⟨c, i⟩
      obtain ⟨hrest, hgone⟩ := ih (hw.frame hframe)
      refine ⟨hframe.trans hrest, fun j hj hact t ht => ?_⟩
      by_cases hji : j = i
      · rw [hji, ← hid]
        exact destroySessionUnlocked_gone (hrest.tickets.subset ht)
      · have hother : (⟨c, j⟩ : Slot) ≠ slotOf (w.session ⟨c, i⟩).sessionId := by
          rw [hid, (slotOf_packSession hvalid.1 hvalid.2).1]
          exact fun he => hji (congrArg Slot.idx he)
        refine hgone j ((List.mem_cons.mp hj).resolve_left hji) ?_ t ht
        rw [destroySessionUnlocked_active w _ _ hother]
        exact hact
    · rw [if_neg hi]
      obtain ⟨hrest, hgone⟩ := ih hw
      refine ⟨hrest, fun j hj hact t ht => ?_⟩
      rcases List.mem_cons.mp hj with rfl | hj
      · exact absurd hact hi
      · exact hgone j hj hact t ht

theorem startJob_ids (count : Nat) (job : EncodeJob) (o : Start) (w : World) :
    let s := slotOf job.sessionId
    let r := startJob count job o w
    (¬o.Builds count job w → TicketFrame (tickets w) w r.1) ∧
    (o.Builds count job w → r.2.2 = packJob job.sessionId (w.session s).jobHist ∧
      (tickets r.1).Subperm ((job.sessionId, r.2.2) :: tickets w) ∧
      (∀ t, (r.1.session t).jobHist =
        if t = s then ((w.session s).jobHist + 1) % 2 ^ 32 else (w.session t).jobHist) ∧
      (∀ t, (r.1.session t).active = (w.session t).active ∧
        (r.1.session t).sessionId = (w.session t).sessionId) ∧
      (o.enq = true →
        r.1.jobQueue.map (·.jobId) = w.jobQueue.map (·.jobId) ++ [r.2.2])) := by
  dsimp only
  unfold startJob
  dsimp only
  by_cases hv : (!validIdx job.sessionId) = true
  · rw [if_pos hv]
    exact ⟨fun _ => .refl w, fun hb => absurd hb.1 (by simpa using hv)⟩
  rw [if_neg hv]
  have hbuilds : o.Builds count job w ↔
      (reserveWorkBufs count o.alloc job w.numSessions w.work).2.2.2 = true ∧
      (w.session (slotOf job.sessionId)).active = true ∧
      job.srcIndex < (w.session (slotOf job.sessionId)).params.numSrcBufs ∧
      job.dstIndex < (w.session (slotOf job.sessionId)).params.numDstBufs ∧ o.mallocNode = true :=
    and_iff_right (by simpa using hv)
  rw [hbuilds]
  generalize reserveWorkBufs count o.alloc job w.numSessions w.work = r
  have hbufs : TicketFrame (tickets w) w (setWorkBufs (slotOf job.sessionId) r.1 r.2.1 w) := by
    have hset : TicketFrame (tickets w) w
        (w.onSession (slotOf job.sessionId) fun p => { p with workBuffer := r.2.1 }) :=
      .onSession fun _ => ⟨rfl, fun hp => ⟨hp, rfl⟩⟩
    exact ⟨hset.tickets, hset.hist, hset.session⟩
  have hself : (setWorkBufs (slotOf job.sessionId) r.1 r.2.1 w).session (slotOf job.sessionId) =
      { w.session (slotOf job.sessionId) with workBuffer := r.2.1 } := by
    change (if slotOf job.sessionId = slotOf job.sessionId then _ else _) = _
    rw [if_pos rfl]
  rw [hself]
  dsimp only
  by_cases hp : (!r.2.2.2) = true ∨ (!(w.session (slotOf job.sessionId)).active) = true
  · rw [if_pos hp]
    refine ⟨fun _ => hbufs, fun hb => ?_⟩
    rw [hb.1, hb.2.1] at hp
    exact absurd hp (by decide)
  rw [if_neg hp]
  by_cases hb : ((w.session (slotOf job.sessionId)).params.numSrcBufs : Int) ≤ job.srcIndex ∨
      ((w.session (slotOf job.sessionId)).params.numDstBufs : Int) ≤ job.dstIndex
  · rw [if_pos hb]
    exact ⟨fun _ => hbufs, fun h => by omega⟩
  rw [if_neg hb]
  by_cases hm : (!o.mallocNode) = true
  · rw [if_pos hm]
    refine ⟨fun _ => hbufs, fun h => ?_⟩
    rw [h.2.2.2.2] at hm
    cases hm
  rw [if_neg hm]
  have hall : r.2.2.2 = true ∧ (w.session (slotOf job.sessionId)).active = true ∧
      job.srcIndex < (w.session (slotOf job.sessionId)).params.numSrcBufs ∧
      job.dstIndex < (w.session (slotOf job.sessionId)).params.numDstBufs ∧ o.mallocNode = true := by
    obtain ⟨hres, hact⟩ := not_or.mp hp
    exact ⟨by simpa using hres, by simpa using hact, by omega, by omega, by simpa using hm⟩
  refine ⟨fun hn => absurd hall hn, fun _ => ?_⟩
  -- the job is counted before it is queued
  let v := countJob (slotOf job.sessionId) (setWorkBufs (slotOf job.sessionId) r.1 r.2.1 w)
  have hv : v.session = (w.onSession (slotOf job.sessionId) fun p =>
      { p with workBuffer := r.2.1, jobHist := (p.jobHist + 1) % 2 ^ 32 }).session := by
    funext t
    change (if t = _ then _ else if t = _ then _ else _) = if t = _ then _ else _
    by_cases ht : t = slotOf job.sessionId
    · rw [if_pos ht, if_pos ht, hself]
    · rw [if_neg ht, if_neg ht, if_neg ht]
  have hhist : ∀ t, (v.session t).jobHist = if t = slotOf job.sessionId then
      ((w.session (slotOf job.sessionId)).jobHist + 1) % 2 ^ 32 else (w.session t).jobHist := by
    intro t
    rw [hv, session_onSession]
    split_ifs
    · rfl
    · rfl
  have hsame : ∀ t, (v.session t).active = (w.session t).active ∧
      (v.session t).sessionId = (w.session t).sessionId := by
    intro t
    rw [hv, session_onSession]
    by_cases ht : t = slotOf job.sessionId
    · rw [if_pos ht, ht]
      exact ⟨rfl, rfl⟩
    · rw [if_neg ht]
      exact ⟨rfl, rfl⟩
  by_cases he : (!o.enq) = true
  · rw [if_pos he]
    exact ⟨rfl, List.Subperm.cons_self, hhist, hsame, fun h => by rw [h] at he; cases he⟩
  · rw [if_neg he]
    refine ⟨rfl, ?_, hhist, hsame, fun _ => List.map_append⟩
    change List.Subperm (List.map _ ((w.jobQueue ++ [_]) ++ w.ongoingJobQ)) _
    rw [List.append_assoc]
    exact (List.perm_middle.map _).subperm

inductive IdStep (count : Nat) (w : World) (e : Event) (w' : World) : Prop where
  | frame (h : TicketFrame (tickets w) w w')
  | created (h : OwnIds w → Created w w')
  | started (job : EncodeJob) (o : Start) (he : e = .call (.startJob (some job) o))
      (hopen : w.opened = true) (hb : o.Builds count job w)
      (ht : (tickets w').Subperm ((job.sessionId,
        packJob job.sessionId (w.session (slotOf job.sessionId)).jobHist) :: tickets w))
      (hhist : ∀ t, (w'.session t).jobHist = if t = slotOf job.sessionId then
        ((w.session (slotOf job.sessionId)).jobHist + 1) % 2 ^ 32 else (w.session t).jobHist)
      (hsame : ∀ t, (w'.session t).active = (w.session t).active ∧
        (w'.session t).sessionId = (w.session t).sessionId)
  | cleared (c : Nat) (v : World) (hv : OwnIds w → TicketFrame (tickets w) w v)
      (hgone : OwnIds w → e.Settled w → ∀ t ∈ tickets v, getClientIdx t.2 = c →
        getSessionIdx t.2 < maxSession → t.1 ≠ packSession (slotOf t.2))
      (ht : tickets w' = tickets v) (hs : ∀ s, w'.session s = if s.client = c then {} else v.session s)
  | emptied (ht : tickets w' = []) (hs : ∀ s, w'.session s = {})

variable {count : Nat} {w w' : World} {e : Event}

theorem jpegOpen_idStep (init : Bool) :
    IdStep count w (.call (.open init)) (jpegOpen init w).1 := by
  unfold jpegOpen
  dsimp only
  by_cases hi : (!w.opened) = true ∧ (!init) = true
  · rw [if_pos hi]
    exact .frame (.refl w)
  rw [if_neg hi]
  by_cases hz : (newClient { w with opened := true }).2 = 0 ∧
      (newClient { w with opened := true }).1.numClients = 0
  · rw [if_pos hz]
    exact .emptied rfl fun _ => rfl
  rw [if_neg hz]
  rcases newClient_cases { w with opened := true } with ⟨he, -, -⟩ | ⟨c, -, hunused, -, he⟩
  · rw [he]
    exact .frame (.of_jobs (List.Subperm.refl _) rfl)
  rw [he]
  refine .cleared c w (fun _ => .refl w) (fun _ hset t ht hc => ?_) rfl fun _ => rfl
  obtain ⟨n, hn, rfl⟩ := List.mem_map.mp ht
  have hused := hset n hn
  rw [hc] at hused
  exact absurd (hused.symm.trans hunused) (by decide)

theorem intfClose_idStep (hdl : Nat) : IdStep count w (.call (.close hdl)) (intfClose hdl w).1 := by
  unfold intfClose
  by_cases hz : hdl = 0
  · rw [if_pos hz]
    exact .frame (.refl w)
  rw [if_neg hz]
  by_cases ho : (!w.opened) = true
  · rw [if_pos ho]
    exact .frame (.refl w)
  rw [if_neg ho]
  unfold Jpeg.close
  dsimp only
  by_cases hc : maxJpegClientNum ≤ getIndexByHandler hdl
  · rw [if_pos hc, if_neg fun h => absurd h.1 (show (-1 : Int) ≠ 0 by decide)]
    exact .frame (.of_jobs (List.Subperm.refl _) rfl)
  rw [if_neg hc]
  split_ifs
  · exact .emptied rfl fun _ => rfl
  refine .cleared (getIndexByHandler hdl) _ (fun hw => (closeSessions_tickets _ hw).1)
    (fun hw hset t ht hclient hidx => ?_) rfl fun _ => rfl
  obtain ⟨hframe, hgone⟩ := closeSessions_tickets (c := getIndexByHandler hdl) (List.range maxSession) hw
  obtain ⟨n, hn, rfl⟩ := List.mem_map.mp (hframe.tickets.subset ht)
  have hslot : slotOf n.jobId = ⟨getIndexByHandler hdl, getSessionIdx n.jobId⟩ :=
    congrArg (Slot.mk · (getSessionIdx n.jobId)) hclient
  have hact := hset n hn hclient
  rw [hslot] at hact ⊢
  exact hgone _ (List.mem_range.mpr hidx) hact _ ht

theorem call_idStep {c : Call} {r : Reply} (h : call count w c = some (w', r)) :
    IdStep count w (.call c) w' := by
  cases call_effect h with
  | refused c => exact .frame (.refl w)
  | opened init => exact jpegOpen_idStep init
  | closed hdl => exact intfClose_idStep hdl
  | created params o hz ho => exact .created fun hw => createSession_created hw
  | destroyed hz ho hv hd => exact .frame (destroySession_tickets hd)
  | started job o ho =>
    obtain ⟨hturned, hbuilt⟩ := startJob_ids count job o w
    by_cases hb : o.Builds count job w
    · obtain ⟨hid, ht, hhist, hsame, -⟩ := hbuilt hb
      rw [hid] at ht
      exact .started job o rfl (Bool.eq_true_of_not_eq_false ho) hb ht hhist hsame
    · exact .frame (hturned hb)
  | aborted hz ho => exact .frame (abortJob_steady _ w).ticketFrame

theorem step_idStep (h : step count w e = some w') : IdStep count w e w' := by
  cases e with
  | call c =>
    obtain ⟨⟨v, r⟩, hc, rfl⟩ := Option.map_eq_some_iff.mp h
    exact call_idStep hc
  | wake o => exact .frame (jobmgrWake_tickets h)
  | submit taken o => exact .frame (encodeSubmit_steady h).ticketFrame
  | fillBufferDone s o => exact .frame (fbd_steady h).ticketFrame
  | omxEvent s e o => exact .frame (eventHandler_steady h).ticketFrame

theorem IdStep.ownIds (h : IdStep count w e w') (hw : OwnIds w) : OwnIds w' := by
  cases h with
  | frame h => exact hw.frame h
  | created h => exact (h hw).own
  | started job o he hopen hb ht hhist hsame =>
    intro t hact
    rw [(hsame t).2]
    exact hw t ((hsame t).1 ▸ hact)
  | cleared c v hv hgone ht hs =>
    intro t hact
    rw [hs] at hact ⊢
    by_cases hc : t.client = c
    · rw [if_pos hc] at hact
      cases hact
    · rw [if_neg hc] at hact ⊢
      exact hw.frame (hv hw) t hact
  | emptied ht hs =>
    intro t hact
    rw [hs] at hact
    cases hact

/-- The outstanding jobs were started under the ids of their sessions and have different ids; they are
numbered below the history numbers of their sessions, which never get beyond 256. -/
structure Numbered (w : World) : Prop where
  own : OwnIds w
  ticket : ∀ t ∈ tickets w, ∃ s h, s.Valid ∧ h < (w.session s).jobHist ∧
    t = (packSession s, packJob (packSession s) h)
  few : ∀ s, (w.session s).jobHist ≤ 256
  ids : ((tickets w).map Prod.snd).Nodup

theorem numbered_init : Numbered {} where
  own _ hs := absurd hs Bool.false_ne_true
  ticket _ ht := absurd ht List.not_mem_nil
  few _ := Nat.zero_le _
  ids := List.nodup_nil

theorem nodup_of_subperm {l k : List (Nat × Nat)} (h : l.Subperm k) (hk : (k.map Prod.snd).Nodup) :
    (l.map Prod.snd).Nodup := by
  obtain ⟨m, hperm, hsub⟩ := h
  exact (hperm.map _).nodup_iff.mp (hk.sublist (hsub.map _))

namespace Numbered

theorem of_subperm (hw : Numbered w) (hown : OwnIds w') (ht : (tickets w').Subperm (tickets w))
    (hhist : ∀ s, (w'.session s).jobHist = (w.session s).jobHist) : Numbered w' where
  own := hown
  ticket t hmem := by
    obtain ⟨s, h, hs, hlt, he⟩ := hw.ticket t (ht.subset hmem)
    exact ⟨s, h, hs, by rw [hhist]; exact hlt, he⟩
  few s := by
    rw [hhist]
    exact hw.few s
  ids := nodup_of_subperm ht hw.ids

theorem fresh {s : Slot} (hw : Numbered w) (hs : s.Valid) (hlt : (w.session s).jobHist < 256) :
    packJob (packSession s) (w.session s).jobHist ∉ (tickets w).map Prod.snd := by
  intro hmem
  obtain ⟨t, ht, he⟩ := List.mem_map.mp hmem
  obtain ⟨u, k, hu, hk, rfl⟩ := hw.ticket t ht
  have hslot : u = s := ((packJob_eq_iff hu hs ..).mp he).1
  subst u
  have hidx := congrArg getJobIdx he
  rw [getJobIdx_packJob hs, getJobIdx_packJob hs] at hidx
  have hsmall : ∀ n < 256, n % 10000 % 256 = n := by omega
  rw [show k % jobHistMax % 256 = k from hsmall k (by omega),
    show (w.session s).jobHist % jobHistMax % 256 = _ from hsmall _ hlt] at hidx
  omega

theorem started {s : Slot} {id : Nat} (hw : Numbered w) (hs : s.Valid)
    (hid : id = packJob (packSession s) (w.session s).jobHist)
    (hlt : (w.session s).jobHist < 256) (hown : OwnIds w')
    (ht : (tickets w').Subperm ((packSession s, id) :: tickets w))
    (hhist : ∀ t, (w'.session t).jobHist = if t = s then ((w.session s).jobHist + 1) % 2 ^ 32
      else (w.session t).jobHist) : Numbered w' where
  own := hown
  ticket t hmem := by
    have hnext : (w'.session s).jobHist = (w.session s).jobHist + 1 := by
      rw [hhist, if_pos rfl]
      omega
    rcases List.mem_cons.mp (ht.subset hmem) with rfl | hmem
    · exact ⟨s, (w.session s).jobHist, hs, by omega, by rw [hid]⟩
    · obtain ⟨u, k, hu, hk, he⟩ := hw.ticket t hmem
      refine ⟨u, k, hu, ?_, he⟩
      by_cases hus : u = s
      · rw [hus, hnext]
        rw [hus] at hk
        omega
      · rw [hhist, if_neg hus]
        exact hk
  few t := by
    rw [hhist]
    split_ifs
    · omega
    · exact hw.few t
  ids := by
    refine nodup_of_subperm ht ?_
    rw [List.map_cons, List.nodup_cons, hid]
    exact ⟨hw.fresh hs hlt, hw.ids⟩

theorem cleared {c : Nat} (hw : Numbered w) (hgone : ∀ t ∈ tickets w, getClientIdx t.2 = c →
    getSessionIdx t.2 < maxSession → t.1 ≠ packSession (slotOf t.2)) (hown : OwnIds w')
    (ht : tickets w' = tickets w)
    (hs : ∀ s, w'.session s = if s.client = c then {} else w.session s) : Numbered w' where
  own := hown
  ticket t hmem := by
    rw [ht] at hmem
    obtain ⟨s, h, hv, hlt, rfl⟩ := hw.ticket t hmem
    have hslot := slotOf_packJob_packSession hv h
    have hclient : s.client ≠ c := by
      intro hc
      refine hgone _ hmem ?_ ?_ ?_
      · exact (congrArg Slot.client hslot).trans hc
      · exact (congrArg Slot.idx hslot).trans_lt hv.2
      · rw [hslot]
    exact ⟨s, h, hv, by rw [hs, if_neg hclient]; exact hlt, rfl⟩
  few s := by
    rw [hs]
    split_ifs
    · exact Nat.zero_le _
    · exact hw.few s
  ids := by
    rw [ht]
    exact hw.ids

end Numbered

theorem IdStep.numbered (h : IdStep count w e w') (hw : Numbered w) (hown : e.OwnId count w)
    (hrecent : e.Recent count w) (hset : e.Settled w) : Numbered w' := by
  have hown' := h.ownIds hw.own
  cases h with
  | frame h => exact hw.of_subperm hown' h.tickets h.hist
  | created h =>
    have hc := h hw.own
    exact hw.of_subperm hown' (by rw [hc.tickets]) hc.hist
  | started job o he hopen hb ht hhist hsame =>
    subst he
    obtain ⟨hvalid, hid⟩ := hw.own _ hb.2.2.1
    have hsession : job.sessionId = packSession (slotOf job.sessionId) := (hown hopen hb).trans hid
    have hlt := hrecent hopen hb
    have hfew := hw.few (slotOf job.sessionId)
    rw [Nat.mod_eq_of_lt (Nat.lt_of_le_of_lt hfew (by decide))] at hlt
    refine hw.started hvalid rfl hlt hown' ?_ hhist
    rw [← hsession]
    exact ht
  | cleared c v hv hgone ht hs =>
    have hframe := hv hw.own
    have hkept := hw.of_subperm (hw.own.frame hframe) hframe.tickets hframe.hist
    exact hkept.cleared (hgone hw.own hset) hown' ht hs
  | emptied ht hs =>
    refine ⟨hown', fun t hmem => ?_, fun s => ?_, ?_⟩
    · rw [ht] at hmem
      cases hmem
    · rw [hs]
      exact Nat.zero_le _
    · rw [ht]
      exact List.nodup_nil

theorem Numbered.distinct (hw : Numbered w) : Distinct w := by
  have hids := hw.ids
  rw [tickets, List.map_map] at hids
  exact hids

theorem createSession_decodes (hdl : Nat) (params : EncodeParams) (o : Creation) :
    (Event.call (.createSession hdl params o)).Decodes count w := by
  intro hid
  generalize hid' : (intfCreateSession count hdl params o w).2.value = id at hid ⊢
  have hcalled : id = (createSession count hdl params o w).2.2 := by
    have hcases : id = 0 ∨ id = (createSession count hdl params o w).2.2 := by
      rw [← hid']
      unfold intfCreateSession
      split_ifs
      · exact .inl rfl
      · exact .inl rfl
      · exact .inr rfl
    exact hcases.resolve_left hid
  rw [hcalled] at hid ⊢
  obtain ⟨s, hs, hvalid, he⟩ := createSession_id hid
  have hslot := (slotOf_packSession hvalid.1 hvalid.2).1
  rw [he]
  exact ⟨s, hs, congrArg Slot.client hslot, congrArg Slot.idx hslot⟩

theorem decodes_iff (hw : OwnIds w) (hown : e.OwnId count w) : e.Decodes count w ↔ e.Recent count w := by
  cases e with
  | call c =>
    cases c with
    | createSession hdl params o => exact iff_of_true (createSession_decodes hdl params o) trivial
    | startJob job o =>
      cases job with
      | none => exact Iff.rfl
      | some job =>
        refine forall_congr' fun hopen => forall_congr' fun hb => ?_
        obtain ⟨hvalid, hid⟩ := hw _ hb.2.2.1
        have hsession := (hown hopen hb).trans hid
        have hvalue : (intfStartJob count (some job) o w).2.value =
            packJob (packSession (slotOf job.sessionId)) (w.session (slotOf job.sessionId)).jobHist := by
          rw [← hsession, ← ((startJob_ids count job o w).2 hb).1]
          unfold intfStartJob
          dsimp only
          rw [if_neg (by simpa using hopen)]
        dsimp only
        rw [hvalue, getJobIdx_packJob hvalid]
        constructor
        · intro h
          rw [← h.2]
          exact Nat.mod_lt _ (by decide)
        · exact fun h => ⟨slotOf_packJob_packSession hvalid _, Nat.mod_eq_of_lt h⟩
    | _ => exact Iff.rfl
  | _ => exact Iff.rfl

/-- Over the runs whose jobs are started under the ids of their sessions, every id decodes exactly if
no history number of a started job needs more than the 8 bits below `JOB_ID_MAGICVAL`; the outstanding
jobs then have different ids in every state, if no job outlives the sessions of its client. -/
theorem job_ids_iff (count : Nat) (es : List Event) :
    (Runs.Along (step count) (fun w e => e.OwnId count w) {} es →
      (Runs.Along (step count) (fun w e => e.Decodes count w) {} es ↔
        Runs.Along (step count) (fun w e => e.Recent count w) {} es)) ∧
    (Runs.Along (step count) (fun w e => e.OwnId count w ∧ e.Recent count w ∧ e.Settled w) {} es →
      ∀ pre post w, es = pre ++ post → Runs.play (step count) {} pre = some w → Distinct w) := by
  have hinit : OwnIds {} := numbered_init.own
  refine ⟨fun hown => ⟨fun h => ?_, fun h => ?_⟩, fun h pre post w he hw => ?_⟩
  · exact Runs.Along.of_invariant (I := OwnIds) (fun _ _ _ hw _ hst => (step_idStep hst).ownIds hw)
      (fun _ _ hw he => (decodes_iff hw he.1).mp he.2) hinit (hown.and h)
  · exact Runs.Along.of_invariant (I := OwnIds) (fun _ _ _ hw _ hst => (step_idStep hst).ownIds hw)
      (fun _ _ hw he => (decodes_iff hw he.1).mpr he.2) hinit (hown.and h)
  · subst he
    exact (Runs.play_invariant (fun _ _ _ hw hp hst => (step_idStep hst).numbered hw hp.1 hp.2.1 hp.2.2)
      numbered_init h.append_left hw).distinct

def bufferedJob : EncodeJob := { sessionId := packSession ⟨0, 0⟩, workBuf := { addr := 1 } }

def bufferedStart : Event := .call (.startJob (some bufferedJob) {})

structure Ready (w : World) : Prop where
  opened : w.opened = true
  active : (w.session ⟨0, 0⟩).active = true
  params : (w.session ⟨0, 0⟩).params = { numSrcBufs := 1, numDstBufs := 1 }

theorem Ready.builds {w : World} (hw : Ready w) : ({} : Start).Builds 1 bufferedJob w := by
  have hslot : slotOf bufferedJob.sessionId = ⟨0, 0⟩ := by decide
  refine ⟨by decide, ?_, ?_, ?_, ?_, rfl⟩
  · -- its own buffer is all that it needs
    have hneed : min (w.numSessions + 1) 1 - 1 - w.work.workBufCnt = 0 := by omega
    unfold reserveWorkBufs
    dsimp only
    rw [if_pos (show bufferedJob.workBuf.addr ≠ 0 by decide), if_pos ⟨by decide, by omega⟩]
    dsimp only
    rw [hneed]
    rfl
  · rw [hslot]
    exact hw.active
  · rw [hslot, hw.params]
    decide
  · rw [hslot, hw.params]
    decide

theorem Ready.start {w : World} (hw : Ready w) : ∃ w', step 1 w bufferedStart = some w' ∧ Ready w' ∧
    (w'.session ⟨0, 0⟩).jobHist = ((w.session ⟨0, 0⟩).jobHist + 1) % 2 ^ 32 ∧
    w'.jobQueue.map (·.jobId) = w.jobQueue.map (·.jobId) ++
      [packJob (packSession ⟨0, 0⟩) (w.session ⟨0, 0⟩).jobHist] := by
  have hslot : slotOf bufferedJob.sessionId = ⟨0, 0⟩ := by decide
  obtain ⟨hid, -, hhist, hsame, hqueue⟩ := (startJob_ids 1 bufferedJob {} w).2 hw.builds
  have hframe := startJob_frame 1 bufferedJob {} w
  rw [hslot] at hid hhist
  refine ⟨(startJob 1 bufferedJob {} w).1, ?_, ⟨?_, ?_, ?_⟩, ?_, ?_⟩
  · change some (intfStartJob 1 (some bufferedJob) {} w).1 = _
    unfold intfStartJob
    dsimp only
    rw [hw.opened]
    rfl
  · exact hframe.opened.trans hw.opened
  · exact (hsame _).1.trans hw.active
  · exact (hframe.session _).params.trans hw.params
  · rw [hhist, if_pos rfl]
  · rw [hqueue rfl, hid]
    rfl

theorem Ready.starts {w : World} (hw : Ready w) (hz : (w.session ⟨0, 0⟩).jobHist = 0)
    (hq : w.jobQueue = []) (k : Nat) (hk : k < 2 ^ 32) :
    ∃ w', Runs.play (step 1) w (List.replicate k bufferedStart) = some w' ∧ Ready w' ∧
      (w'.session ⟨0, 0⟩).jobHist = k ∧
      w'.jobQueue.map (·.jobId) = (List.range k).map (packJob (packSession ⟨0, 0⟩)) := by
  induction k with
  | zero => exact ⟨w, rfl, hw, hz, by rw [hq]; rfl⟩
  | succ k ih =>
    obtain ⟨v, hv, hready, hhist, hids⟩ := ih (by omega)
    obtain ⟨w', hstep, hready', hhist', hids'⟩ := hready.start
    refine ⟨w', ?_, hready', ?_, ?_⟩
    · rw [List.replicate_succ', Runs.play_append]
      exact ⟨v, hv, Runs.play_cons.mpr ⟨w', hstep, rfl⟩⟩
    · rw [hhist', hhist]
      omega
    · rw [hids', hids, hhist, List.range_succ, List.map_append]
      rfl

def openedEvents : List Event :=
  [.call (.open true), .call (.createSession 256 { numSrcBufs := 1, numDstBufs := 1 } {})]

/-- 257 jobs in the queue: the first and the last have the same id, and the last one's history number
is decoded as 0. -/
theorem id_met_again : ∃ w, Runs.play (step 1) {}
      (openedEvents ++ List.replicate 257 bufferedStart) = some w ∧ ¬Distinct w := by
  obtain ⟨w, hw, hready, hz, hq⟩ : ∃ w, Runs.play (step 1) {} openedEvents = some w ∧ Ready w ∧
      (w.session ⟨0, 0⟩).jobHist = 0 ∧ w.jobQueue = [] :=
    ⟨_, rfl, ⟨rfl, rfl, rfl⟩, rfl, rfl⟩
  obtain ⟨w', hw', -, -, hids⟩ := hready.starts hz hq 257 (by decide)
  refine ⟨w', Runs.play_append.mpr ⟨w, hw, hw'⟩, fun hd => ?_⟩
  rw [Distinct, List.map_append, hids] at hd
  have hsame : packJob (packSession ⟨0, 0⟩) 0 = packJob (packSession ⟨0, 0⟩) 256 := by decide
  have hinj := List.inj_on_of_nodup_map (List.nodup_append.mp hd).1
  exact absurd (hinj (List.mem_range.mpr (by decide)) (List.mem_range.mpr (by decide)) hsame) (by decide)

end Jpeg
