import Wt88047.Jpeg.JobFrame

/-! The shape of the session chains: every active session belongs to the chain of one session id
that was handed out, and the members of a chain are the active sessions on its queues. -/

namespace Jpeg

open World

structure IsHead (w : World) (id q : Nat) : Prop where
  packed : packSession (slotOf id) = id
  nodup : (chainOf w (slotOf id)).Nodup
  mem_iff : ∀ t, t ∈ chainOf w (slotOf id) ↔
    (w.session t).active = true ∧ (w.session t).queues = some q

structure ChainShape (w : World) : Prop where
  range : ∀ s, (w.session s).active = true → s.client < maxJpegClientNum ∧ s.idx < maxSession
  used : ∀ s, (w.session s).active = true → (w.client s.client).isUsed = true
  packed : ∀ s, (w.session s).active = true → (w.session s).sessionId = packSession s
  head : ∀ id ∈ w.issued, ∃ q < w.nextQueues, IsHead w id q
  own : ∀ id ∈ w.issued, ∀ j ∈ w.issued, slotOf j ∈ chainOf w (slotOf id) → j = id
  member : ∀ s, (w.session s).active = true → ∃ id ∈ w.issued, s ∈ chainOf w (slotOf id)

theorem slotOf_packSession {s : Slot} (hc : s.client < maxJpegClientNum) (hi : s.idx < maxSession) :
    slotOf (packSession s) = s ∧ packSession s ≠ 0 := by
  have hall : ∀ c < maxJpegClientNum, ∀ i < maxSession,
      slotOf (packSession ⟨c, i⟩) = ⟨c, i⟩ ∧ packSession ⟨c, i⟩ ≠ 0 := by decide
  exact hall s.client hc s.idx hi

namespace ChainShape

variable {w w' : World} {s t : Slot} {id : Nat}

theorem unpack (hw : ChainShape w) (hs : (w.session s).active = true) :
    slotOf (w.session s).sessionId = s := by
  obtain ⟨hc, hi⟩ := hw.range s hs
  rw [hw.packed s hs]
  exact (slotOf_packSession hc hi).1

theorem head_active (hw : ChainShape w) (hid : id ∈ w.issued) :
    (w.session (slotOf id)).active = true ∧ (w.session (slotOf id)).sessionId = id := by
  obtain ⟨q, -, hq⟩ := hw.head id hid
  have hact := ((hq.mem_iff (slotOf id)).mp (List.mem_cons_self ..)).1
  exact ⟨hact, (hw.packed _ hact).trans hq.packed⟩

theorem queues_lt (hw : ChainShape w) (hs : (w.session s).active = true) :
    ∃ q < w.nextQueues, (w.session s).queues = some q := by
  obtain ⟨id, hid, hmem⟩ := hw.member s hs
  obtain ⟨q, hlt, hq⟩ := hw.head id hid
  exact ⟨q, hlt, ((hq.mem_iff s).mp hmem).2⟩

theorem head_unique (hw : ChainShape w) {j : Nat} (hid : id ∈ w.issued) (hj : j ∈ w.issued)
    (hs : s ∈ chainOf w (slotOf id)) (hs' : s ∈ chainOf w (slotOf j)) : j = id := by
  obtain ⟨q, -, hq⟩ := hw.head id hid
  obtain ⟨r, -, hr⟩ := hw.head j hj
  have hqr : some q = some r := ((hq.mem_iff s).mp hs).2.symm.trans ((hr.mem_iff s).mp hs').2
  have hhead := (hr.mem_iff (slotOf j)).mp (List.mem_cons_self ..)
  refine hw.own id hid j hj ((hq.mem_iff _).mpr ⟨hhead.1, ?_⟩)
  rw [hqr]
  exact hhead.2

theorem keep (hw : ChainShape w) (hc : w'.client = w.client) (hi : w'.issued = w.issued)
    (hn : w'.nextQueues = w.nextQueues) (hs : ∀ s, (w.session s).Kept (w'.session s)) :
    ChainShape w' := by
  have hchain : ∀ s, chainOf w' s = chainOf w s := fun s => by
    unfold chainOf
    rw [(hs s).nextSession]
  refine ⟨fun s h => ?_, fun s h => ?_, fun s h => ?_, fun id hid => ?_, fun id hid j hj h => ?_,
    fun s h => ?_⟩
  · exact hw.range s ((hs s).active ▸ h)
  · rw [hc]
    exact hw.used s ((hs s).active ▸ h)
  · rw [(hs s).sessionId]
    exact hw.packed s ((hs s).active ▸ h)
  · rw [hi] at hid
    obtain ⟨q, hlt, hq⟩ := hw.head id hid
    refine ⟨q, by rw [hn]; exact hlt, hq.packed, ?_, fun t => ?_⟩
    · rw [hchain]
      exact hq.nodup
    · rw [hchain, (hs t).active, (hs t).queues]
      exact hq.mem_iff t
  · rw [hi] at hid hj
    rw [hchain] at h
    exact hw.own id hid j hj h
  · obtain ⟨id, hid, hmem⟩ := hw.member s ((hs s).active ▸ h)
    exact ⟨id, by rw [hi]; exact hid, by rw [hchain]; exact hmem⟩

theorem of_active (hw : ChainShape w) (hi : w'.issued = w.issued) (hn : w'.nextQueues = w.nextQueues)
    (hs : ∀ s, (w.session s).active = true → w'.session s = w.session s)
    (hs' : ∀ s, (w'.session s).active = true → (w.session s).active = true)
    (hu : ∀ s, (w.session s).active = true → (w'.client s.client).isUsed = true) :
    ChainShape w' := by
  have hchain : ∀ id ∈ w.issued, chainOf w' (slotOf id) = chainOf w (slotOf id) := fun id hid => by
    unfold chainOf
    rw [hs _ (hw.head_active hid).1]
  refine ⟨fun s h => hw.range s (hs' s h), fun s h => hu s (hs' s h), fun s h => ?_, fun id hid => ?_,
    fun id hid j hj h => ?_, fun s h => ?_⟩
  · rw [hs s (hs' s h)]
    exact hw.packed s (hs' s h)
  · rw [hi] at hid
    obtain ⟨q, hlt, hq⟩ := hw.head id hid
    refine ⟨q, by rw [hn]; exact hlt, hq.packed, by rw [hchain id hid]; exact hq.nodup, fun t => ?_⟩
    rw [hchain id hid, hq.mem_iff]
    constructor
    · rintro ⟨ht, he⟩
      rw [hs t ht]
      exact ⟨ht, he⟩
    · rintro ⟨ht, he⟩
      rw [hs t (hs' t ht)] at he
      exact ⟨hs' t ht, he⟩
  · rw [hi] at hid hj
    rw [hchain id hid] at h
    exact hw.own id hid j hj h
  · obtain ⟨id, hid, hmem⟩ := hw.member s (hs' s h)
    exact ⟨id, by rw [hi]; exact hid, by rw [hchain id hid]; exact hmem⟩

end ChainShape

theorem JobFrame.chains {w w' : World} (h : JobFrame w w') (hw : ChainShape w) : ChainShape w' :=
  hw.keep h.client h.issued h.nextQueues h.session

variable {chain : List Slot}

theorem sessionAbort_other {w : World} {t : Slot} (ht : t ∉ chain) :
    (sessionAbort chain w).session t = w.session t := by
  induction chain generalizing w with
  | nil => rfl
  | cons s rest ih =>
    rw [sessionAbort]
    split_ifs
    · rfl
    · have hts : t ≠ s := List.ne_of_not_mem_cons ht
      rw [ih (List.not_mem_of_not_mem_cons ht), session_onSession, if_neg hts]

theorem teardownSession_session (o : Teardown) (s : Slot) (h : Nat) (w : World) (t : Slot) :
    (teardownSession o s h w).session t =
      if t = s then (sessionTeardown o (w.session s) (w.component h)).1 else w.session t := rfl

theorem sessionDestroy_session (o : Slot → Teardown) (chain : List Slot) (w : World) (t : Slot) :
    ∃ p f h, (sessionDestroy o chain w).session t =
      { w.session t with stateChangePending := p, errorFlag := f, omxHandle := h } := by
  induction chain generalizing w with
  | nil => exact ⟨_, _, _, rfl⟩
  | cons s rest ih =>
    rw [sessionDestroy]
    split
    · exact ⟨_, _, _, rfl⟩
    · rename_i h _
      obtain ⟨p, f, hs⟩ := sessionTeardown_session (o s) (w.session s) (w.component h)
      obtain ⟨p', f', h', hrest⟩ := ih (teardownSession (o s) s h w)
      rw [hrest, teardownSession_session]
      by_cases hts : t = s
      · rw [if_pos hts, hs, hts]
        exact ⟨p', f', h', rfl⟩
      · rw [if_neg hts]
        exact ⟨p', f', h', rfl⟩

variable {o : Slot → Teardown}

theorem sessionDestroy_other {w : World} {t : Slot} (ht : t ∉ chain) :
    (sessionDestroy o chain w).session t = w.session t := by
  induction chain generalizing w with
  | nil => rfl
  | cons s rest ih =>
    rw [sessionDestroy]
    split
    · rfl
    · rw [ih (List.not_mem_of_not_mem_cons ht), teardownSession_session,
        if_neg (List.ne_of_not_mem_cons ht)]

theorem removeChain_session {w : World} (h : ∀ s ∈ chain, slotOf (w.session s).sessionId = s)
    (t : Slot) :
    (chain.foldl (fun w s => removeSessionIdx w (w.session s).sessionId) w).session t =
      if t ∈ chain then { w.session t with active := false } else w.session t := by
  induction chain generalizing w with
  | nil => rfl
  | cons s rest ih =>
    have hremove : ∀ u, (removeSessionIdx w (w.session s).sessionId).session u =
        if u = s then { w.session s with active := false } else w.session u := by
      intro u
      unfold removeSessionIdx
      rw [h s (List.mem_cons_self ..), session_onSession]
    have hid : ∀ u, ((removeSessionIdx w (w.session s).sessionId).session u).sessionId =
        (w.session u).sessionId := by
      intro u
      rw [hremove]
      split_ifs with hu
      · rw [hu]
      · rfl
    rw [List.foldl_cons, ih (fun u hu => by rw [hid]; exact h u (List.mem_cons_of_mem _ hu)), hremove]
    by_cases hts : t = s
    · subst hts
      have hmem : t ∈ t :: rest := List.mem_cons_self ..
      rw [if_pos rfl, if_pos hmem]
      split_ifs <;> rfl
    · rw [if_neg hts]
      simp only [List.mem_cons, hts, false_or]

theorem destroyChain_session {w : World} {s : Slot} (hw : ChainShape w)
    (hs : ∀ t ∈ chainOf w s, (w.session t).active = true) :
    (∀ t ∉ chainOf w s, (destroyChain o s w).session t = w.session t) ∧
      ∀ t ∈ chainOf w s, ((destroyChain o s w).session t).active = false ∧
        ((destroyChain o s w).session t).queues = (w.session t).queues := by
  have habort := sessionAbort_frame (chainOf w s) (removeJobs w (w.session s).sessionId)
  have hid : ∀ t ∈ chainOf w s, slotOf ((sessionDestroy o (chainOf w s)
      (sessionAbort (chainOf w s) (removeJobs w (w.session s).sessionId))).session t).sessionId = t := by
    intro t ht
    obtain ⟨p, f, h, he⟩ := sessionDestroy_session o (chainOf w s)
      (sessionAbort (chainOf w s) (removeJobs w (w.session s).sessionId)) t
    rw [he]
    change slotOf ((sessionAbort _ _).session t).sessionId = t
    rw [(habort.session t).sessionId]
    exact hw.unpack (hs t ht)
  have hsession : ∀ t, (destroyChain o s w).session t = _ := fun t => removeChain_session hid t
  constructor
  · intro t ht
    rw [hsession, if_neg ht, sessionDestroy_other ht, sessionAbort_other ht]
    rfl
  · intro t ht
    rw [hsession, if_pos ht]
    refine ⟨rfl, ?_⟩
    obtain ⟨p, f, h, he⟩ := sessionDestroy_session o (chainOf w s)
      (sessionAbort (chainOf w s) (removeJobs w (w.session s).sessionId)) t
    rw [he]
    exact (habort.session t).queues

theorem sessionAbort_rest (chain : List Slot) (w : World) (t : Slot) :
    (sessionAbort chain w).component = w.component ∧ (sessionAbort chain w).queues = w.queues ∧
      ((sessionAbort chain w).session t).errorFlag = (w.session t).errorFlag := by
  induction chain generalizing w with
  | nil => exact ⟨rfl, rfl, rfl⟩
  | cons s rest ih =>
    rw [sessionAbort]
    split_ifs
    · exact ⟨rfl, rfl, rfl⟩
    · obtain ⟨hc, hq, he⟩ := ih (w.onSession s fun p =>
        { p with abortState := .done, stateChangePending := p.stateChangePending || p.encoding })
      refine ⟨hc, hq, he.trans ?_⟩
      rw [session_onSession]
      split_ifs with hts
      · rw [hts]
      · rfl

theorem sessionDestroy_rest (o : Slot → Teardown) (chain : List Slot) (w : World) :
    (sessionDestroy o chain w).client = w.client ∧ (sessionDestroy o chain w).issued = w.issued ∧
      (sessionDestroy o chain w).nextQueues = w.nextQueues ∧
      (sessionDestroy o chain w).queues = w.queues ∧
      (sessionDestroy o chain w).nextHandle = w.nextHandle ∧
      (sessionDestroy o chain w).numClients = w.numClients := by
  induction chain generalizing w with
  | nil => exact ⟨rfl, rfl, rfl, rfl, rfl, rfl⟩
  | cons s rest ih =>
    rw [sessionDestroy]
    split
    · exact ⟨rfl, rfl, rfl, rfl, rfl, rfl⟩
    · exact ih _

theorem destroyQueues_rest (s : Slot) (q id : Nat) (w : World) :
    (destroyQueues s q id w).client = w.client ∧
      (destroyQueues s q id w).issued = w.issued.filter (· ≠ id) ∧
      (destroyQueues s q id w).nextQueues = w.nextQueues := ⟨rfl, rfl, rfl⟩

theorem destroyChain_rest (o : Slot → Teardown) (s : Slot) (w : World) :
    (destroyChain o s w).client = w.client ∧ (destroyChain o s w).issued = w.issued ∧
      (destroyChain o s w).nextQueues = w.nextQueues := by
  have hremove : ∀ (l : List Slot) (v : World),
      (l.foldl (fun w t => removeSessionIdx w (w.session t).sessionId) v).client = v.client ∧
      (l.foldl (fun w t => removeSessionIdx w (w.session t).sessionId) v).issued = v.issued ∧
      (l.foldl (fun w t => removeSessionIdx w (w.session t).sessionId) v).nextQueues = v.nextQueues := by
    intro l
    induction l with
    | nil => exact fun v => ⟨rfl, rfl, rfl⟩
    | cons t l ih => exact fun v => ih _
  unfold destroyChain
  generalize hv : removeJobs w (w.session s).sessionId = v
  have hjobs : v.client = w.client ∧ v.issued = w.issued ∧ v.nextQueues = w.nextQueues := by
    rw [← hv]
    exact ⟨rfl, rfl, rfl⟩
  have habort := sessionAbort_frame (chainOf w s) v
  obtain ⟨hclient, hissued, hnext, -⟩ :=
    sessionDestroy_rest o (chainOf w s) (sessionAbort (chainOf w s) v)
  obtain ⟨hclient', hissued', hnext'⟩ :=
    hremove (chainOf w s) (sessionDestroy o (chainOf w s) (sessionAbort (chainOf w s) v))
  rw [hclient', hissued', hnext', hclient, hissued, hnext, habort.client, habort.issued,
    habort.nextQueues]
  exact hjobs

theorem destroySession_session {w w' : World} {id : Nat} (hw : ChainShape w) (hid : id ∈ w.issued)
    (h : destroySession o (slotOf id) w = some w') :
    (∀ t ∉ chainOf w (slotOf id), w'.session t = w.session t) ∧
      (∀ t ∈ chainOf w (slotOf id), (w'.session t).active = false) ∧
      w'.issued = w.issued.filter (· ≠ id) ∧ w'.client = w.client ∧ w'.nextQueues = w.nextQueues := by
  obtain ⟨q, -, hq⟩ := hw.head id hid
  obtain ⟨hother, hmine⟩ := destroyChain_session (o := o) (s := slotOf id) hw
    fun t ht => ((hq.mem_iff t).mp ht).1
  have hhead : slotOf id ∈ chainOf w (slotOf id) := List.mem_cons_self ..
  obtain ⟨hclient, hissued, hnext⟩ := destroyChain_rest o (slotOf id) w
  unfold destroySession at h
  split at h
  · cases h
  rename_i r _
  obtain rfl := Option.some.inj h
  obtain ⟨hclient', hissued', hnext'⟩ := destroyQueues_rest (slotOf id) r
    (w.session (slotOf id)).sessionId (destroyChain o (slotOf id) w)
  refine ⟨fun t ht => ?_, fun t ht => ?_, ?_, hclient'.trans hclient, hnext'.trans hnext⟩
  · have hne : t ≠ slotOf id := fun he => ht (by rw [he]; exact hhead)
    change (if t = slotOf id then _ else (destroyChain o (slotOf id) w).session t) = _
    rw [if_neg hne, hother t ht]
  · change (if t = slotOf id then _ else (destroyChain o (slotOf id) w).session t : Session).active = _
    split_ifs with he
    · exact (hmine _ hhead).1
    · exact (hmine t ht).1
  · rw [hissued', (hw.head_active hid).2, hissued]

theorem destroySession_chains {w w' : World} {id : Nat} (hw : ChainShape w) (hid : id ∈ w.issued)
    (h : destroySession o (slotOf id) w = some w') : ChainShape w' := by
  obtain ⟨hother, hmine, hissued, hclient, hnext⟩ := destroySession_session hw hid h
  have hactive : ∀ s, (w'.session s).active = true →
      s ∉ chainOf w (slotOf id) ∧ (w.session s).active = true := by
    intro s hs
    by_cases hmem : s ∈ chainOf w (slotOf id)
    · rw [hmine s hmem] at hs
      cases hs
    · exact ⟨hmem, hother s hmem ▸ hs⟩
  have hkeep : ∀ j ∈ w'.issued, j ∈ w.issued ∧ ∀ t ∈ chainOf w (slotOf j),
      t ∉ chainOf w (slotOf id) := by
    intro j hj
    rw [hissued] at hj
    obtain ⟨hj, hne⟩ := List.mem_filter.mp hj
    refine ⟨hj, fun t ht ht' => ?_⟩
    exact absurd (hw.head_unique hid hj ht' ht) (by simpa using hne)
  have hchain : ∀ j ∈ w'.issued, chainOf w' (slotOf j) = chainOf w (slotOf j) := by
    intro j hj
    unfold chainOf
    rw [hother _ ((hkeep j hj).2 _ (List.mem_cons_self ..))]
  refine ⟨fun s hs => hw.range s (hactive s hs).2, fun s hs => ?_, fun s hs => ?_, fun j hj => ?_,
    fun i hi j hj hij => ?_, fun s hs => ?_⟩
  · rw [hclient]
    exact hw.used s (hactive s hs).2
  · rw [hother s (hactive s hs).1]
    exact hw.packed s (hactive s hs).2
  · obtain ⟨q, hlt, hq⟩ := hw.head j (hkeep j hj).1
    refine ⟨q, by rw [hnext]; exact hlt, hq.packed, by rw [hchain j hj]; exact hq.nodup, fun t => ?_⟩
    rw [hchain j hj]
    constructor
    · intro ht
      rw [hother t ((hkeep j hj).2 t ht)]
      exact (hq.mem_iff t).mp ht
    · rintro ⟨ht, he⟩
      rw [hother t (hactive t ht).1] at he
      exact (hq.mem_iff t).mpr ⟨(hactive t ht).2, he⟩
  · rw [hchain i hi] at hij
    exact hw.own i (hkeep i hi).1 j (hkeep j hj).1 hij
  · obtain ⟨hs', hact⟩ := hactive s hs
    obtain ⟨j, hj, hmem⟩ := hw.member s hact
    have hne : j ≠ id := fun he => hs' (he ▸ hmem)
    have hj' : j ∈ w'.issued := by
      rw [hissued]
      exact List.mem_filter.mpr ⟨hj, by simpa using hne⟩
    exact ⟨j, hj', by rw [hchain j hj']; exact hmem⟩

end Jpeg
