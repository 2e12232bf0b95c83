import Wt88047.Jpeg.JobIds

/-! The ids that the creation of sessions hands out, and that it leaves the jobs and their history
numbers alone. -/

namespace Jpeg

open World

def OwnIds (w : World) : Prop :=
  ∀ s, (w.session s).active = true → s.Valid ∧ (w.session s).sessionId = packSession s

theorem OwnIds.frame {l : List (Nat × Nat)} {w w' : World} (hw : OwnIds w) (h : TicketFrame l w w') :
    OwnIds w' := by
  intro s hs
  obtain ⟨hact, hid⟩ := h.session s hs
  rw [hid]
  exact hw s hact

/-- Only the session `s` changes in whether it is active and in its id; no job and no history number
does. -/
structure Renewal (s : Slot) (w w' : World) : Prop where
  tickets : tickets w' = tickets w
  hist : ∀ t, (w'.session t).jobHist = (w.session t).jobHist
  session : ∀ t, t ≠ s → (w'.session t).active = (w.session t).active ∧
    (w'.session t).sessionId = (w.session t).sessionId

namespace Renewal

variable {s : Slot} {w w' w'' : World}

theorem trans (h : Renewal s w w') (h' : Renewal s w' w'') : Renewal s w w'' where
  tickets := h'.tickets.trans h.tickets
  hist t := (h'.hist t).trans (h.hist t)
  session t ht := ⟨(h'.session t ht).1.trans (h.session t ht).1,
    (h'.session t ht).2.trans (h.session t ht).2⟩

theorem of_same (ht : Jpeg.tickets w' = Jpeg.tickets w) (hs : w'.session = w.session) : Renewal s w w' :=
  ⟨ht, fun t => by rw [hs], fun t _ => by rw [hs]; exact ⟨rfl, rfl⟩⟩

theorem setSession {p : Session} (h : p.jobHist = (w.session s).jobHist) :
    Renewal s w (w.setSession s p) := by
  refine ⟨rfl, fun t => ?_, fun t ht => ?_⟩
  · rw [session_setSession]
    by_cases hts : t = s
    · rw [if_pos hts, hts]
      exact h
    · rw [if_neg hts]
  · rw [session_setSession, if_neg ht]
    exact ⟨rfl, rfl⟩

theorem onSession {f : Session → Session} (h : ∀ p : Session, (f p).jobHist = p.jobHist) :
    Renewal s w (w.onSession s f) := setSession (h _)

theorem appendNext (w : World) (s t : Slot) : Renewal s w (Jpeg.appendNext s w t) := by
  refine ⟨rfl, fun u => ?_, fun u _ => ?_⟩
  · rw [Jpeg.appendNext, session_onSession]
    by_cases hut : u = t
    · rw [if_pos hut, hut]
    · rw [if_neg hut]
  · rw [Jpeg.appendNext, session_onSession]
    by_cases hut : u = t
    · rw [if_pos hut, hut]
      exact ⟨rfl, rfl⟩
    · rw [if_neg hut]
      exact ⟨rfl, rfl⟩

theorem ownIds (h : Renewal s w w') (hw : OwnIds w) (hs : (w'.session s).active = true →
    s.Valid ∧ (w'.session s).sessionId = packSession s) : OwnIds w' := by
  intro t ht
  by_cases hts : t = s
  · rw [hts] at ht ⊢
    exact hs ht
  · rw [(h.session t hts).2]
    exact hw t ((h.session t hts).1 ▸ ht)

end Renewal

theorem linkSession_renewal (count i : Nat) (chain : List Slot) (s : Slot) (w : World) :
    Renewal s w (linkSession count i chain s w) := by
  have hfold : ∀ (l : List Slot) (v : World), Renewal s v (l.foldl (appendNext s) v) := by
    intro l
    induction l with
    | nil => exact fun v => .of_same rfl rfl
    | cons t l ih => exact fun v => (Renewal.appendNext v s t).trans (ih _)
  have hactive : Renewal s w (w.onSession s fun p => { p with active := true, nextSession := [] }) :=
    .onSession fun _ => rfl
  have hreset : ∀ (v : World) (buf : WorkBuffer), Renewal s v
      (v.onSession s fun p => ({ p with workBuffer := buf } : Session).reset) :=
    fun v buf => .onSession fun _ => rfl
  exact (hactive.trans (hfold chain _)).trans (hreset _ _)

theorem joinChain_renewal (count i hdl q : Nat) (params : EncodeParams) (enq : Bool)
    (conf : Configure) (chain : List Slot) (s : Slot) (w : World) :
    Renewal s w (joinChain count i hdl q params enq conf chain s w).1 ∧
      ((joinChain count i hdl q params enq conf chain s w).1.session s).sessionId = packSession s := by
  have hregister : ∀ v : World, Renewal s v (registerSession hdl q params enq s v) ∧
      ((registerSession hdl q params enq s v).session s).sessionId = packSession s := by
    intro v
    let p := { v.session s with
      omxHandle := some v.nextHandle, params := params, clientHdl := hdl, sessionId := packSession s
      queues := some q }
    have hset : Renewal s v (v.setSession s p) := .setSession rfl
    have hself : (registerSession hdl q params enq s v).session = (v.setSession s p).session := by
      cases enq with
      | true => rfl
      | false => rfl
    have htickets : tickets (registerSession hdl q params enq s v) = tickets v := by
      cases enq with
      | true => rfl
      | false => rfl
    rw [hself, session_setSession, if_pos rfl]
    exact ⟨⟨htickets, fun t => by rw [hself]; exact hset.hist t,
      fun t ht => by rw [hself]; exact hset.session t ht⟩, rfl⟩
  have hconfigure : ∀ (h : Nat) (v : World), Renewal s v (configureSession conf s h v).1 ∧
      ((configureSession conf s h v).1.session s).sessionId = (v.session s).sessionId := by
    intro h v
    obtain ⟨p, f, hs⟩ := sessionConfigure_session conf (v.session s) (v.component h)
    have hset : ∀ x : Session, x.jobHist = (v.session s).jobHist →
        x.sessionId = (v.session s).sessionId → Renewal s v ((v.setSession s x).setComponent h
          (sessionConfigure conf (v.session s) (v.component h)).2.1) ∧
        ((v.setSession s x).session s).sessionId = (v.session s).sessionId := by
      intro x hhist hid
      refine ⟨(Renewal.setSession hhist).trans (.of_same rfl rfl), ?_⟩
      rw [session_setSession, if_pos rfl]
      exact hid
    unfold configureSession
    dsimp only
    rw [hs]
    split_ifs
    · exact hset _ rfl rfl
    · exact hset _ rfl rfl
  obtain ⟨hreg, hid⟩ := hregister (linkSession count i chain s w)
  obtain ⟨hconf, hsame⟩ := hconfigure (linkSession count i chain s w).nextHandle
    (registerSession hdl q params enq s (linkSession count i chain s w))
  exact ⟨((linkSession_renewal count i chain s w).trans hreg).trans hconf, hsame.trans hid⟩

structure Created (w w' : World) : Prop where
  own : OwnIds w'
  tickets : tickets w' = tickets w
  hist : ∀ t, (w'.session t).jobHist = (w.session t).jobHist

theorem packSession_pos (s : Slot) : packSession s ≠ 0 := by
  intro h
  have hmagic : 1 <<< 24 ||| s.idx <<< 8 = 0 := (Nat.or_eq_zero_iff.mp h).1
  exact absurd (Nat.or_eq_zero_iff.mp hmagic).1 (by decide)

theorem createSessions_created (count q : Nat) {hdl : Nat} (params : EncodeParams) (o : Creation)
    (hc : getIndexByHandler hdl < maxJpegClientNum) (k i : Nat) (chain : List Slot) (id : Nat)
    {w : World} (hw : OwnIds w) :
    Created w (createSessions count hdl q params o k i chain id w).1 := by
  induction k generalizing i chain id w with
  | zero => exact ⟨hw, rfl, fun _ => rfl⟩
  | succ k ih =>
    rw [createSessions]
    split
    · exact ⟨hw, rfl, fun _ => rfl⟩
    next s hs =>
    obtain ⟨hclient, hidx, -⟩ := newSessionIdx_spec hs
    have hvalid : s.Valid := ⟨hclient ▸ hc, hidx⟩
    by_cases hg : (!o.getHandle i) = true
    · rw [if_pos hg]
      have hlink := linkSession_renewal count i chain s w
      have hgone : Renewal s w
          ((linkSession count i chain s w).onSession s fun p => { p with active := false }) :=
        hlink.trans (.onSession fun _ => rfl)
      refine ⟨hgone.ownIds hw fun h => ?_, hgone.tickets, hgone.hist⟩
      rw [session_onSession, if_pos rfl] at h
      cases h
    rw [if_neg hg]
    obtain ⟨hjoin, hid⟩ :=
      joinChain_renewal count i hdl q params (o.enqHandle i) (o.configure i) chain s w
    have hown := hjoin.ownIds hw fun _ => ⟨hvalid, hid⟩
    dsimp only
    split_ifs
    · have hrest := ih (i + 1) (chain ++ [s]) (packSession s) hown
      exact ⟨hrest.own, hrest.tickets.trans hjoin.tickets, fun t => (hrest.hist t).trans (hjoin.hist t)⟩
    · have hrest := ih (i + 1) (chain ++ [s]) id hown
      exact ⟨hrest.own, hrest.tickets.trans hjoin.tickets, fun t => (hrest.hist t).trans (hjoin.hist t)⟩
    · exact ⟨hown, hjoin.tickets, hjoin.hist⟩
    · exact ⟨hown, hjoin.tickets, hjoin.hist⟩

theorem Created.refl {w : World} (hw : OwnIds w) : Created w w := ⟨hw, rfl, fun _ => rfl⟩

theorem createSession_created {count hdl : Nat} {params : EncodeParams} {o : Creation} {w : World}
    (hw : OwnIds w) : Created w (createSession count hdl params o w).1 := by
  rw [createSession]
  by_cases hbufs : maxJpegBuf < params.numSrcBufs ∨ maxJpegBuf < params.numDstBufs
  · rw [if_pos hbufs]
    exact .refl hw
  rw [if_neg hbufs]
  by_cases hclient : maxJpegClientNum ≤ getIndexByHandler hdl
  · rw [if_pos hclient]
    exact .refl hw
  rw [if_neg hclient]
  by_cases hhandles : (!o.mallocHandles) = true
  · rw [if_pos hhandles]
    exact .refl hw
  rw [if_neg hhandles]
  by_cases houtBufs : (!o.mallocOutBufs) = true
  · rw [if_pos houtBufs]
    exact ⟨hw, rfl, fun _ => rfl⟩
  rw [if_neg houtBufs]
  have hsessions := fun n => createSessions_created count w.nextQueues params o
    (Nat.lt_of_not_le hclient) n 0 [] 0
    (w := { w.setQueues w.nextQueues {} with nextQueues := w.nextQueues + 1 }) hw
  have hissued : ∀ v : World, Created w v → ∀ id,
      Created w (if id = 0 then v else { v with issued := id :: v.issued }) := by
    intro v hv id
    split_ifs
    · exact hv
    · exact ⟨hv.own, hv.tickets, hv.hist⟩
  have hall := fun n => hissued _ ⟨(hsessions n).own, (hsessions n).tickets, (hsessions n).hist⟩
    (createSessions count hdl w.nextQueues params o n 0 [] 0
      { w.setQueues w.nextQueues {} with nextQueues := w.nextQueues + 1 }).2.2
  dsimp only
  split
  · exact hall _
  · exact ⟨(hall _).own, (hall _).tickets, (hall _).hist⟩

theorem createSessions_id (count hdl q : Nat) (params : EncodeParams) (o : Creation) (k i : Nat)
    (chain : List Slot) (id : Nat) (w : World) :
    let r := createSessions count hdl q params o k i chain id w
    r.2.2 = id ∨ id = 0 ∧ ∃ s ∈ newSessionIdx w (getIndexByHandler hdl), r.2.2 = packSession s := by
  induction k generalizing i chain id w with
  | zero => exact .inl rfl
  | succ k ih =>
    dsimp only at ih ⊢
    rw [createSessions]
    split
    · exact .inl rfl
    next s hs =>
    by_cases hg : (!o.getHandle i) = true
    · rw [if_pos hg]
      exact .inl rfl
    rw [if_neg hg]
    dsimp only
    have hfirst : ∀ (v : World) (n : Nat), (n = packSession s ∨ packSession s = 0 ∧
        ∃ t ∈ newSessionIdx v (getIndexByHandler hdl), n = packSession t) → n = packSession s := by
      intro v n hn
      rcases hn with hn | ⟨hzero, -⟩
      · exact hn
      · exact absurd hzero (packSession_pos s)
    by_cases hid : id = 0
    · rw [if_pos hid]
      refine .inr ⟨hid, s, hs, ?_⟩
      split_ifs
      · exact hfirst _ _ (ih ..)
      · rfl
    · rw [if_neg hid]
      split_ifs
      · rcases ih (i + 1) (chain ++ [s]) id
          (joinChain count i hdl q params (o.enqHandle i) (o.configure i) chain s w).1 with he | ⟨hz, -⟩
        · exact .inl he
        · exact absurd hz hid
      · exact .inl rfl

theorem createSession_id {count hdl : Nat} {params : EncodeParams} {o : Creation} {w : World}
    (hid : (createSession count hdl params o w).2.2 ≠ 0) :
    ∃ s ∈ newSessionIdx w (getIndexByHandler hdl), s.Valid ∧
      (createSession count hdl params o w).2.2 = packSession s := by
  rw [createSession] at hid ⊢
  by_cases hbufs : maxJpegBuf < params.numSrcBufs ∨ maxJpegBuf < params.numDstBufs
  · rw [if_pos hbufs] at hid
    exact absurd rfl hid
  rw [if_neg hbufs] at hid ⊢
  by_cases hclient : maxJpegClientNum ≤ getIndexByHandler hdl
  · rw [if_pos hclient] at hid
    exact absurd rfl hid
  rw [if_neg hclient] at hid ⊢
  by_cases hhandles : (!o.mallocHandles) = true
  · rw [if_pos hhandles] at hid
    exact absurd rfl hid
  rw [if_neg hhandles] at hid ⊢
  by_cases houtBufs : (!o.mallocOutBufs) = true
  · rw [if_pos houtBufs] at hid
    exact absurd rfl hid
  rw [if_neg houtBufs] at hid ⊢
  have hids := createSessions_id count hdl w.nextQueues params o (if params.burstMode then count else 1)
    0 [] 0 { w.setQueues w.nextQueues {} with nextQueues := w.nextQueues + 1 }
  dsimp only at hid hids ⊢
  generalize createSessions count hdl w.nextQueues params o (if params.burstMode then count else 1)
    0 [] 0 { w.setQueues w.nextQueues {} with nextQueues := w.nextQueues + 1 } = r at hid hids ⊢
  have hfirst : r.2.2 ≠ 0 → ∃ s ∈ newSessionIdx w (getIndexByHandler hdl), s.Valid ∧
      r.2.2 = packSession s := by
    intro hne
    rcases hids with hzero | ⟨-, s, hs, he⟩
    · exact absurd hzero hne
    · obtain ⟨hc, hidx, -⟩ := newSessionIdx_spec hs
      exact ⟨s, hs, ⟨by rw [hc]; omega, hidx⟩, he⟩
  cases hr : r.2.1 with
  | none =>
    rw [hr] at hid
    exact hfirst hid
  | some rc =>
    rw [hr] at hid
    exact hfirst hid

end Jpeg
