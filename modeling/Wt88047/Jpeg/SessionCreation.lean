import Mathlib.Data.List.Nodup
import Wt88047.Lib.Tally
import Wt88047.Jpeg.ChainCreation

/-! What `mm_jpeg_create_session` answers against what it made: each way out of its loop, and the
calls whose answer can be trusted. -/

namespace Jpeg

open World

/-- The id names a session of the client, and the `n` members of its chain are active, created,
configured and on their queue. -/
structure WholeChain (w : World) (hdl n id : Nat) : Prop where
  named : packSession (slotOf id) = id
  client : (slotOf id).client = getIndexByHandler hdl
  length : (chainOf w (slotOf id)).length = n
  member : ∀ t ∈ chainOf w (slotOf id), (w.session t).active = true ∧
    (w.session t).clientHdl = hdl ∧ (w.session t).omxHandle ≠ none ∧ (w.session t).config = true ∧
    ∃ q, (w.session t).queues = some q ∧ (w.queues q).handles.count t = 1

def HonestCreation (w : World) (hdl n : Nat) (r : World × Int × Nat) : Prop :=
  (r.2.1 = 0 ↔ WholeChain r.1 hdl n r.2.2) ∧
    (r.2.1 ≠ 0 → (∀ t, (w.session t).active = false → (r.1.session t).active = false) ∧
      r.1.numSessions = w.numSessions ∧ r.1.work.workBufCnt = w.work.workBufCnt)

theorem WholeChain.congr {w w' : World} {hdl n id : Nat} (h : WholeChain w hdl n id)
    (hs : w'.session = w.session) (hq : w'.queues = w.queues) : WholeChain w' hdl n id := by
  have hchain : chainOf w' (slotOf id) = chainOf w (slotOf id) := by
    unfold chainOf
    rw [hs]
  refine ⟨h.named, h.client, by rw [hchain]; exact h.length, fun t ht => ?_⟩
  rw [hchain] at ht
  rw [hs, hq]
  exact h.member t ht

def EncodeParams.chainLength (params : EncodeParams) (count : Nat) : Nat :=
  if params.burstMode then count else 1

def freeSlots (w : World) (c : Nat) : Nat :=
  (List.range maxSession).countP fun i => !(w.session ⟨c, i⟩).active

def Configure.Succeeds (o : Configure) (params : EncodeParams) : Prop :=
  (sessionConfigure o { params := params } {}).2.2 = true

instance (o : Configure) (params : EncodeParams) : Decidable (o.Succeeds params) :=
  inferInstanceAs (Decidable (_ = true))

def Creation.Sound (o : Creation) (count hdl : Nat) (params : EncodeParams) (w : World) : Prop :=
  params.numSrcBufs ≤ maxJpegBuf ∧ params.numDstBufs ≤ maxJpegBuf ∧
    getIndexByHandler hdl < maxJpegClientNum ∧
    (o.mallocHandles = false ∨ o.mallocOutBufs = false ∨
      params.chainLength count ≠ 0 ∧
        params.chainLength count ≤ freeSlots w (getIndexByHandler hdl) ∧
        ∀ i < params.chainLength count, o.getHandle i = true ∧ o.enqHandle i = true ∧
          (o.configure i).Succeeds params)

theorem changeState_congr {s t : Session} (he : s.errorFlag = t.errorFlag)
    (hp : s.params = t.params) (new : OmxState)
    (exec : Option ((OmxBuffer → Bool) → EncodeParams → Component → Component × Bool)) (o : Change)
    (c : Component) : (changeState new exec o s c).2 = (changeState new exec o t c).2 ∧
      (changeState new exec o s c).1.errorFlag = (changeState new exec o t c).1.errorFlag := by
  unfold changeState
  rw [he, hp]
  dsimp only
  split_ifs
  · exact ⟨rfl, he⟩
  · exact ⟨rfl, he⟩
  · exact ⟨rfl, rfl⟩
  · exact ⟨rfl, rfl⟩
  · cases exec with
    | none => exact ⟨rfl, rfl⟩
    | some f =>
      dsimp only
      by_cases h : (f o.buffers t.params (c.enter new o.reached)).2 = true
      · rw [if_pos h, if_pos h]
        exact ⟨rfl, rfl⟩
      · rw [if_neg h, if_neg h]
        exact ⟨rfl, rfl⟩

theorem sessionConfigure_congr {s t : Session} (ha : s.abortState = t.abortState)
    (he : s.errorFlag = t.errorFlag) (hp : s.params = t.params) (o : Configure) (c : Component) :
    (sessionConfigure o s c).2 = (sessionConfigure o t c).2 := by
  obtain ⟨hidle, hflag⟩ := changeState_congr he hp .idle (some sessionSendBuffers) o.idle c
  have hparams : ∀ p : Session, (changeState .idle (some sessionSendBuffers) o.idle p c).1.params =
      p.params := by
    intro p
    obtain ⟨a, b, h⟩ := changeState_session .idle (some sessionSendBuffers) o.idle p c
    rw [h]
  unfold sessionConfigure
  rw [ha]
  dsimp only
  by_cases hi : t.abortState = .init
  · rw [if_pos hi, if_pos hi]
  rw [if_neg hi, if_neg hi]
  by_cases hm : (!o.main) = true
  · rw [if_pos hm, if_pos hm]
  rw [if_neg hm, if_neg hm, hidle]
  by_cases hr : (changeState .idle (some sessionSendBuffers) o.idle t c).2.2 = true
  · rw [if_pos hr, if_pos hr]
    exact (changeState_congr hflag ((hparams s).trans (hp.trans (hparams t).symm)) ..).1
  · rw [if_neg hr, if_neg hr]
    exact hidle

theorem appendNext_counts (s : Slot) (chain : List Slot) (w : World) :
    (chain.foldl (appendNext s) w).numSessions = w.numSessions ∧
      (chain.foldl (appendNext s) w).work = w.work := by
  induction chain generalizing w with
  | nil => exact ⟨rfl, rfl⟩
  | cons a rest ih => exact ih _

theorem linkSession_rest (count i : Nat) (chain : List Slot) (s : Slot) (w : World) :
    (linkSession count i chain s w).numSessions = w.numSessions ∧
      (linkSession count i chain s w).work = w.work ∧
      (linkSession count i chain s w).queues = w.queues ∧
      ((linkSession count i chain s w).session s).abortState = .none ∧
      ((linkSession count i chain s w).session s).errorFlag = .none := by
  obtain ⟨hnum, hwork⟩ := appendNext_counts s chain
    (w.onSession s fun p => { p with active := true, nextSession := [] })
  have hrest := appendNext_rest s chain
    (w.onSession s fun p => { p with active := true, nextSession := [] })
  unfold linkSession
  dsimp only
  refine ⟨hnum, hwork, hrest.2.2.2.2.2.1, ?_, ?_⟩
  · rw [session_onSession, if_pos rfl]
    rfl
  · rw [session_onSession, if_pos rfl]
    rfl

theorem joinChain_member (count i hdl q : Nat) (params : EncodeParams) (enq : Bool)
    (conf : Configure) (chain : List Slot) (s : Slot) (w : World) :
    ((joinChain count i hdl q params enq conf chain s w).2 = true ↔ conf.Succeeds params) ∧
    ((joinChain count i hdl q params enq conf chain s w).2 = true →
      ((joinChain count i hdl q params enq conf chain s w).1.session s).config = true) ∧
    ((joinChain count i hdl q params enq conf chain s w).1.session s).clientHdl = hdl ∧
    (joinChain count i hdl q params enq conf chain s w).1.numSessions = w.numSessions + 1 ∧
    (joinChain count i hdl q params enq conf chain s w).1.work = w.work ∧
    ∀ r, ((joinChain count i hdl q params enq conf chain s w).1.queues r).handles =
      if r = q ∧ enq = true then (w.queues q).handles ++ [s] else (w.queues r).handles := by
  obtain ⟨hnum, hwork, hqueues, habort, hflag⟩ := linkSession_rest count i chain s w
  generalize hv : linkSession count i chain s w = v at hnum hwork hqueues habort hflag
  have hjoin : joinChain count i hdl q params enq conf chain s w =
      configureSession conf s v.nextHandle (registerSession hdl q params enq s v) := by
    unfold joinChain
    rw [hv]
  have hself : (registerSession hdl q params enq s v).session s = { v.session s with
      omxHandle := some v.nextHandle, params := params, clientHdl := hdl
      sessionId := packSession s, queues := some q } := by
    have hset : ∀ p : Session, (if s = s then p else v.session s) = p := fun p => if_pos rfl
    cases enq <;> exact hset _
  have hcomp : (registerSession hdl q params enq s v).component v.nextHandle = {} := by
    have hset : (if v.nextHandle = v.nextHandle then ({} : Component)
      else v.component v.nextHandle) = {} := if_pos rfl
    cases enq <;> exact hset
  have hsucc : (sessionConfigure conf ((registerSession hdl q params enq s v).session s)
      ((registerSession hdl q params enq s v).component v.nextHandle)).2 =
        (sessionConfigure conf { params := params } {}).2 := by
    rw [hcomp]
    exact sessionConfigure_congr (by rw [hself]; exact habort) (by rw [hself]; exact hflag)
      (by rw [hself]) conf {}
  obtain ⟨a, b, hconf⟩ := sessionConfigure_session conf
    ((registerSession hdl q params enq s v).session s)
    ((registerSession hdl q params enq s v).component v.nextHandle)
  have hdone : (joinChain count i hdl q params enq conf chain s w).1.session s =
      if (joinChain count i hdl q params enq conf chain s w).2 = true then
        { (registerSession hdl q params enq s v).session s with
          stateChangePending := a, errorFlag := b, config := true }
      else { (registerSession hdl q params enq s v).session s with
        stateChangePending := a, errorFlag := b } := by
    rw [hjoin]
    unfold configureSession
    dsimp only
    rw [hconf]
    exact if_pos rfl
  refine ⟨?_, fun h => ?_, ?_, ?_, ?_, fun r => ?_⟩
  · rw [hjoin]
    unfold configureSession Configure.Succeeds
    dsimp only
    rw [hsucc]
  · rw [hdone, if_pos h]
  · rw [hdone, hself]
    split_ifs <;> rfl
  · rw [hjoin, ← hnum]
    cases enq <;> rfl
  · rw [hjoin, ← hwork]
    cases enq <;> rfl
  · rw [hjoin, ← hqueues]
    have hreg : (configureSession conf s v.nextHandle (registerSession hdl q params enq s v)).1.queues =
        (registerSession hdl q params enq s v).queues := rfl
    rw [hreg]
    cases enq with
    | true =>
      change (if r = q then { v.queues q with handles := (v.queues q).handles ++ [s] }
        else v.queues r : SessionQueues).handles = _
      by_cases hr : r = q
      · rw [if_pos hr, if_pos ⟨hr, rfl⟩]
      · rw [if_neg hr, if_neg fun h => hr h.1]
    | false =>
      rw [if_neg (by simp)]
      rfl

structure LinkedChain (o : Creation) (hdl q : Nat) (w v : World) (chain : List Slot) (id : Nat) :
    Prop where
  nodup : chain.Nodup
  fresh : ∀ t ∈ chain, t.client = getIndexByHandler hdl ∧ t.idx < maxSession ∧
    (w.session t).active = false
  member : ∀ t ∈ chain, (v.session t).active = true ∧ (v.session t).clientHdl = hdl ∧
    (v.session t).omxHandle ≠ none ∧ (v.session t).config = true ∧ (v.session t).queues = some q
  other : ∀ t, t ∉ chain → v.session t = w.session t
  first : ∀ s rest, chain = s :: rest → (v.session s).nextSession = rest ∧ id = packSession s
  empty : chain = [] → id = 0
  counts : v.numSessions = w.numSessions + chain.length ∧ v.work = w.work
  handles : (v.queues q).handles.Sublist chain
  queued : (∀ t ∈ chain, t ∈ (v.queues q).handles) ↔ ∀ i < chain.length, o.enqHandle i = true

theorem freeSlots_zero {w : World} {c : Nat} (h : newSessionIdx w c = none) : freeSlots w c = 0 := by
  unfold newSessionIdx at h
  rw [Option.map_eq_none_iff] at h
  refine List.countP_eq_zero.mpr fun i hi => ?_
  exact List.find?_eq_none.mp h i hi

theorem freeSlots_taken {w v : World} {s : Slot} (hi : s.idx < maxSession)
    (hs : (w.session s).active = false) (hv : (v.session s).active = true)
    (h : ∀ t, t ≠ s → (v.session t).active = (w.session t).active) :
    freeSlots w s.client = freeSlots v s.client + 1 := by
  refine Tally.countP_flip List.nodup_range (List.mem_range.mpr hi) ?_ ?_ fun j hj => ?_
  · change (!(v.session s).active) = false
    rw [hv]
    rfl
  · change (!(w.session s).active) = true
    rw [hs]
    rfl
  · have hne : (⟨s.client, j⟩ : Slot) ≠ s := fun he => hj (congrArg Slot.idx he)
    rw [h _ hne]

theorem LinkedChain.join {o : Creation} {hdl q id count i : Nat} {params : EncodeParams}
    {w v : World} {chain : List Slot} {s : Slot} (hv : LinkedChain o hdl q w v chain id)
    (hi : i = chain.length) (hs : newSessionIdx v (getIndexByHandler hdl) = some s)
    (hc : getIndexByHandler hdl < maxJpegClientNum)
    (hok : (joinChain count i hdl q params (o.enqHandle i) (o.configure i) chain s v).2 = true) :
    LinkedChain o hdl q w
      (joinChain count i hdl q params (o.enqHandle i) (o.configure i) chain s v).1 (chain ++ [s])
      (if id = 0 then packSession s else id) ∧
    freeSlots v (getIndexByHandler hdl) = freeSlots
      (joinChain count i hdl q params (o.enqHandle i) (o.configure i) chain s v).1
        (getIndexByHandler hdl) + 1 := by
  obtain ⟨hsc, hsi, hsa⟩ := newSessionIdx_spec hs
  have hnot : s ∉ chain := fun hmem => by
    rw [(hv.member s hmem).1] at hsa
    cases hsa
  have hj := joinChain_joined count i hdl q params (o.enqHandle i) (o.configure i) (w := v) hv.nodup
    hnot
  obtain ⟨-, hconfig, hclient, hnum, hwork, hqueues⟩ := joinChain_member count i hdl q params
    (o.enqHandle i) (o.configure i) chain s v
  have hchain : ∀ t, t ∈ chain ++ [s] ↔ t ∈ chain ∨ t = s := fun t => by
    rw [List.mem_append, List.mem_singleton]
  refine ⟨⟨?_, fun t ht => ?_, fun t ht => ?_, fun t ht => ?_, fun a rest he => ?_, fun he => ?_,
    ⟨?_, ?_⟩, ?_, ?_⟩, ?_⟩
  · exact (List.perm_append_singleton s chain).nodup_iff.mpr (List.nodup_cons.mpr ⟨hnot, hv.nodup⟩)
  · rcases (hchain t).mp ht with ht | rfl
    · exact hv.fresh t ht
    · rw [hv.other t hnot] at hsa
      exact ⟨hsc, hsi, hsa⟩
  · rcases (hchain t).mp ht with ht | rfl
    · rw [hj.earlier t ht]
      exact hv.member t ht
    · refine ⟨hj.self.1, hclient, ?_, hconfig hok, hj.self.2.2.2.1⟩
      rw [hj.self.2.2.2.2]
      simp
  · obtain ⟨ht, hts⟩ := not_or.mp (mt (hchain t).mpr ht)
    rw [hj.other t hts ht]
    exact hv.other t ht
  · cases chain with
    | nil =>
      obtain ⟨rfl, rfl⟩ := List.cons.inj he
      rw [hv.empty rfl, if_pos rfl]
      exact ⟨hj.self.2.1, rfl⟩
    | cons b tail =>
      obtain ⟨rfl, rfl⟩ := List.cons.inj he
      obtain ⟨hnext, hid⟩ := hv.first b tail rfl
      obtain ⟨hbc, hbi, -⟩ := hv.fresh b (List.mem_cons_self ..)
      have hne : id ≠ 0 := by
        rw [hid]
        exact (slotOf_packSession (hbc ▸ hc) hbi).2
      rw [if_neg hne, hj.earlier b (List.mem_cons_self ..)]
      exact ⟨congrArg (· ++ [s]) hnext, hid⟩
  · exact absurd he (by simp)
  · rw [hnum, hv.counts.1, List.length_append]
    rfl
  · exact hwork.trans hv.counts.2
  · rw [hqueues]
    by_cases he : q = q ∧ o.enqHandle i = true
    · rw [if_pos he]
      exact hv.handles.append (List.Sublist.refl [s])
    · rw [if_neg he]
      exact hv.handles.trans (List.sublist_append_left ..)
  · rw [hqueues, List.length_append, List.length_singleton]
    have hlast : (∀ j < chain.length + 1, o.enqHandle j = true) ↔
        (∀ j < chain.length, o.enqHandle j = true) ∧ o.enqHandle i = true := by
      rw [hi]
      refine ⟨fun h => ⟨fun j hj => h j (by omega), h _ (by omega)⟩, fun h j hj => ?_⟩
      by_cases hjl : j = chain.length
      · rw [hjl]
        exact h.2
      · exact h.1 j (by omega)
    rw [hlast, ← hv.queued]
    by_cases he : o.enqHandle i = true
    · rw [if_pos ⟨rfl, he⟩]
      constructor
      · refine fun h => ⟨fun t ht => ?_, he⟩
        rcases (List.mem_append.mp (h t ((hchain t).mpr (.inl ht)))) with hm | hm
        · exact hm
        · exact absurd (List.mem_singleton.mp hm ▸ ht) hnot
      · rintro ⟨h, -⟩ t ht
        rw [List.mem_append]
        exact ((hchain t).mp ht).imp (h t) fun hts => List.mem_singleton.mpr hts
    · rw [if_neg fun h => he h.2]
      refine iff_of_false (fun h => ?_) fun h => he h.2
      exact hnot (hv.handles.subset (h s ((hchain s).mpr (.inr rfl))))
  · rw [← hsc]
    refine freeSlots_taken hsi hsa hj.self.1 fun t ht => ?_
    exact (hj.keep ht).1

namespace LinkedChain

variable {o : Creation} {hdl q id : Nat} {w v : World} {chain : List Slot}

theorem head (hv : LinkedChain o hdl q w v chain id) (hc : getIndexByHandler hdl < maxJpegClientNum)
    (hid : packSession (slotOf id) = id) : chainOf v (slotOf id) = chain ∧ slotOf id ∈ chain := by
  cases chain with
  | nil =>
    rw [hv.empty rfl] at hid
    exact absurd hid (by decide)
  | cons a rest =>
    obtain ⟨hnext, he⟩ := hv.first a rest rfl
    obtain ⟨hac, hai, -⟩ := hv.fresh a (List.mem_cons_self ..)
    have hslot : slotOf id = a := by
      rw [he]
      exact (slotOf_packSession (hac ▸ hc) hai).1
    unfold chainOf
    rw [hslot, hnext]
    exact ⟨rfl, List.mem_cons_self ..⟩

theorem short (hv : LinkedChain o hdl q w v chain id) (hc : getIndexByHandler hdl < maxJpegClientNum)
    {n : Nat} (hn : chain.length < n) : ¬WholeChain v hdl n id := by
  intro hw
  have hlen := hw.length
  rw [(hv.head hc hw.named).1] at hlen
  omega

theorem unhandled (hv : LinkedChain o hdl q w v chain id)
    (hc : getIndexByHandler hdl < maxJpegClientNum) {count i n : Nat} {s : Slot} (hs : s ∉ chain) :
    ¬WholeChain ((linkSession count i chain s v).onSession s fun p => { p with active := false })
      hdl n id := by
  intro hw
  obtain ⟨-, hmem⟩ := hv.head hc hw.named
  have hne : slotOf id ≠ s := fun he => hs (he ▸ hmem)
  have hnext : (((linkSession count i chain s v).onSession s fun p =>
      { p with active := false }).session (slotOf id)).nextSession =
        (v.session (slotOf id)).nextSession ++ [s] := by
    rw [session_onSession, if_neg hne]
    change (if slotOf id = s then _ else ((chain.foldl (appendNext s)
      (v.onSession s fun p => { p with active := true, nextSession := [] })).session
        (slotOf id)) : Session).nextSession = _
    rw [if_neg hne, appendNext_fold hv.nodup, if_pos hmem, session_onSession, if_neg hne]
  have hact := (hw.member s (by
    unfold chainOf
    rw [hnext]
    simp)).1
  rw [session_onSession, if_pos rfl] at hact
  cases hact

end LinkedChain

theorem createSessions_outcome (count : Nat) {hdl q : Nat} (params : EncodeParams) (o : Creation)
    (hc : getIndexByHandler hdl < maxJpegClientNum) {n : Nat} (k i : Nat) (chain : List Slot)
    (id : Nat) {w v : World} (hn : n = i + k) (hi : i = chain.length)
    (hv : LinkedChain o hdl q w v chain id) :
    (∃ chain', (createSessions count hdl q params o k i chain id v).2.1 = none ∧
      LinkedChain o hdl q w (createSessions count hdl q params o k i chain id v).1 chain'
        (createSessions count hdl q params o k i chain id v).2.2 ∧ chain'.length = n ∧
      k ≤ freeSlots v (getIndexByHandler hdl) ∧
      ∀ j, i ≤ j → j < n → o.getHandle j = true ∧ (o.configure j).Succeeds params) ∨
    ((createSessions count hdl q params o k i chain id v).2.1 = some 0 ∧
        ¬WholeChain (createSessions count hdl q params o k i chain id v).1 hdl n
          (createSessions count hdl q params o k i chain id v).2.2 ∨
      (createSessions count hdl q params o k i chain id v).2.1 = some (-1) ∧
        w.numSessions < (createSessions count hdl q params o k i chain id v).1.numSessions) ∧
    ¬(k ≤ freeSlots v (getIndexByHandler hdl) ∧
      ∀ j, i ≤ j → j < n → o.getHandle j = true ∧ (o.configure j).Succeeds params) := by
  induction k generalizing i chain id v with
  | zero =>
    refine .inl ⟨chain, rfl, hv, by omega, Nat.zero_le _, fun j h1 h2 => by omega⟩
  | succ k ih =>
    rw [createSessions]
    rcases Option.eq_none_or_eq_some (newSessionIdx v (getIndexByHandler hdl)) with hs | ⟨s, hs⟩
    · rw [hs]
      refine .inr ⟨.inl ⟨rfl, fun hw => ?_⟩, fun h => ?_⟩
      · exact hv.short hc (by omega) hw
      · rw [freeSlots_zero hs] at h
        omega
    rw [hs]
    have hsa := (newSessionIdx_spec hs).2.2
    dsimp only
    by_cases hg : (!o.getHandle i) = true
    · rw [if_pos hg]
      refine .inr ⟨.inl ⟨rfl, fun hw => ?_⟩, fun h => ?_⟩
      · have hnot : s ∉ chain := fun hmem => by
          rw [(hv.member s hmem).1] at hsa
          cases hsa
        exact hv.unhandled hc hnot hw
      · rw [(h.2 i (Nat.le_refl i) (by omega)).1] at hg
        cases hg
    rw [if_neg hg]
    obtain ⟨hsucc, -, -, hnum, -, -⟩ := joinChain_member count i hdl q params (o.enqHandle i)
      (o.configure i) chain s v
    by_cases hok : (joinChain count i hdl q params (o.enqHandle i) (o.configure i) chain s v).2 = true
    · simp only [if_pos hok]
      obtain ⟨hjoin, hfree⟩ := hv.join hi hs hc hok
      rcases ih (i + 1) (chain ++ [s]) _ (by omega) (by rw [List.length_append]; simp [hi]) hjoin with
        ⟨chain', h1, h2, h3, h4, h5⟩ | ⟨hout, hno⟩
      · refine .inl ⟨chain', h1, h2, h3, by omega, fun j hj hjn => ?_⟩
        by_cases hji : j = i
        · rw [hji]
          exact ⟨by simpa using hg, hsucc.mp hok⟩
        · exact h5 j (by omega) hjn
      · refine .inr ⟨hout, fun h => hno ⟨by omega, fun j hj hjn => h.2 j (by omega) hjn⟩⟩
    · simp only [if_neg hok]
      refine .inr ⟨.inr ⟨trivial, ?_⟩, fun h => ?_⟩
      · rw [hnum, hv.counts.1]
        omega
      · exact hok (hsucc.mpr (h.2 i (Nat.le_refl i) (by omega)).2)

theorem LinkedChain.whole_iff {o : Creation} {hdl q id n : Nat} {w v u : World}
    {chain : List Slot} (hv : LinkedChain o hdl q w v chain id)
    (hc : getIndexByHandler hdl < maxJpegClientNum) (hn : chain.length = n) (h0 : n ≠ 0)
    (hs : u.session = v.session) (hq : ∀ r, (u.queues r).handles = (v.queues r).handles) :
    WholeChain u hdl n id ↔ ∀ i < n, o.enqHandle i = true := by
  have hchain : ∀ t, chainOf u t = chainOf v t := fun t => by
    unfold chainOf
    rw [hs]
  rw [← hn, ← hv.queued]
  constructor
  · intro hw t ht
    have hmem := hw.member t (by rw [hchain, (hv.head hc hw.named).1]; exact ht)
    obtain ⟨-, -, -, -, r, hr, hcount⟩ := hmem
    rw [hs, (hv.member t ht).2.2.2.2] at hr
    obtain rfl := Option.some.inj hr
    rw [hq] at hcount
    exact List.count_pos_iff.mp (by omega)
  · intro hall
    obtain ⟨a, rest, rfl⟩ := List.exists_cons_of_ne_nil (l := chain) fun he => h0 (by
      rw [← hn, he]
      rfl)
    obtain ⟨-, he⟩ := hv.first a rest rfl
    obtain ⟨hac, hai, -⟩ := hv.fresh a (List.mem_cons_self ..)
    have hslot : slotOf id = a := by
      rw [he]
      exact (slotOf_packSession (hac ▸ hc) hai).1
    have hnamed : packSession (slotOf id) = id := by rw [hslot, he]
    refine ⟨hnamed, by rw [hslot]; exact hac, ?_, fun t ht => ?_⟩
    · rw [hchain, (hv.head hc hnamed).1]
    · rw [hchain, (hv.head hc hnamed).1] at ht
      obtain ⟨h1, h2, h3, h4, h5⟩ := hv.member t ht
      rw [hs]
      refine ⟨h1, h2, h3, h4, q, h5, ?_⟩
      rw [hq]
      exact List.count_eq_one_of_mem (hv.handles.nodup hv.nodup) (hall t ht)

/-- The answer can be trusted exactly when the arguments are in range and the creation goes through
or fails before it has claimed anything. -/
theorem creation_honest_iff (count hdl : Nat) (params : EncodeParams) (o : Creation) (w : World) :
    HonestCreation w hdl (params.chainLength count) (createSession count hdl params o w) ↔
      o.Sound count hdl params w := by
  have hzero : ¬WholeChain w hdl (params.chainLength count) 0 := fun hw =>
    absurd hw.named (by decide)
  have hkeeps : ∀ v : World, (∀ t, (w.session t).active = false → (v.session t).active = false) →
      v.numSessions = w.numSessions → v.work.workBufCnt = w.work.workBufCnt →
      ¬WholeChain v hdl (params.chainLength count) 0 →
      HonestCreation w hdl (params.chainLength count) (v, -1, 0) := by
    intro v h1 h2 h3 h4
    exact ⟨iff_of_false (by simp) h4, fun _ => ⟨h1, h2, h3⟩⟩
  unfold createSession Creation.Sound
  dsimp only
  by_cases hbuf : maxJpegBuf < params.numSrcBufs ∨ maxJpegBuf < params.numDstBufs
  · rw [if_pos hbuf]
    exact iff_of_false (fun h => hzero (h.1.mp rfl)) fun h => by omega
  rw [if_neg hbuf]
  by_cases hc : maxJpegClientNum ≤ getIndexByHandler hdl
  · rw [if_pos hc]
    exact iff_of_false (fun h => hzero (h.1.mp rfl)) fun h => by omega
  rw [if_neg hc]
  by_cases hh : (!o.mallocHandles) = true
  · rw [if_pos hh]
    have hfail : o.mallocHandles = false := by simpa using hh
    exact iff_of_true (hkeeps w (fun _ h => h) rfl rfl hzero)
      ⟨by omega, by omega, by omega, .inl hfail⟩
  rw [if_neg hh]
  by_cases hm : (!o.mallocOutBufs) = true
  · rw [if_pos hm]
    have hfail : o.mallocOutBufs = false := by simpa using hm
    refine iff_of_true (hkeeps _ (fun _ h => h) rfl rfl fun hw => ?_)
      ⟨by omega, by omega, by omega, .inr (.inl hfail)⟩
    exact absurd hw.named (by decide)
  rw [if_neg hm]
  have hc' : getIndexByHandler hdl < maxJpegClientNum := by omega
  have hstart : LinkedChain o hdl w.nextQueues w
      { w.setQueues w.nextQueues {} with nextQueues := w.nextQueues + 1 } [] 0 := by
    refine ⟨List.nodup_nil, fun _ h => (by cases h), fun _ h => (by cases h), fun _ _ => rfl,
      fun _ _ h => (by cases h), fun _ => rfl, ⟨rfl, rfl⟩, ?_, ?_⟩
    · change (if w.nextQueues = w.nextQueues then ({} : SessionQueues) else _).handles.Sublist []
      rw [if_pos rfl]
    · exact iff_of_true (fun _ h => (by cases h)) fun _ h => absurd h (Nat.not_lt_zero _)
  have hout := createSessions_outcome count params o hc' (n := params.chainLength count)
    (if params.burstMode then count else 1) 0 [] 0 (Nat.zero_add _).symm rfl hstart
  generalize createSessions count hdl w.nextQueues params o (if params.burstMode then count else 1) 0
    [] 0 { w.setQueues w.nextQueues {} with nextQueues := w.nextQueues + 1 } = r at hout
  obtain ⟨v, rc, id⟩ := r
  have hissued : (if id = 0 then v else { v with issued := id :: v.issued }).session = v.session ∧
      (if id = 0 then v else { v with issued := id :: v.issued }).queues = v.queues ∧
      (if id = 0 then v else { v with issued := id :: v.issued }).numSessions = v.numSessions := by
    split_ifs <;> exact ⟨rfl, rfl, rfl⟩
  have hcond : (params.chainLength count ≤ freeSlots w (getIndexByHandler hdl) ∧
      ∀ j < params.chainLength count, o.getHandle j = true ∧ (o.configure j).Succeeds params) ↔
      (if params.burstMode then count else 1) ≤ freeSlots
        { w.setQueues w.nextQueues {} with nextQueues := w.nextQueues + 1 } (getIndexByHandler hdl) ∧
      ∀ j, 0 ≤ j → j < params.chainLength count →
        o.getHandle j = true ∧ (o.configure j).Succeeds params :=
    and_congr Iff.rfl ⟨fun h j _ => h j, fun h j => h j (Nat.zero_le _)⟩
  have hsound : o.Sound count hdl params w → params.chainLength count ≠ 0 ∧
      params.chainLength count ≤ freeSlots w (getIndexByHandler hdl) ∧
      ∀ i < params.chainLength count, o.getHandle i = true ∧ o.enqHandle i = true ∧
        (o.configure i).Succeeds params := by
    rintro ⟨-, -, -, hf | hf | h⟩
    · exact absurd (by rw [hf]; rfl) hh
    · exact absurd (by rw [hf]; rfl) hm
    · exact h
  rcases hout with ⟨chain, hnone, hv, hlen, hfree, hall⟩ | ⟨⟨hrc, hno⟩ | ⟨hrc, hmore⟩, hnot⟩
  · obtain rfl : rc = none := hnone
    change HonestCreation w hdl _ (_, 0, id) ↔ o.Sound count hdl params w
    by_cases h0 : params.chainLength count = 0
    · refine iff_of_false (fun h => ?_) fun h => (hsound h).1 h0
      exact absurd ((h.1.mp rfl).length.trans h0) (by simp [chainOf])
    have hwhole := hv.whole_iff hc' hlen h0
      (u := (if id = 0 then v else { v with issued := id :: v.issued }).onQueues w.nextQueues
        fun x => { x with outBufs := x.outBufs ++
          ((List.range params.numDstBufs).filter o.enqOutBuf).map (· + 1) })
      hissued.1 fun r => by
        rw [queues_onQueues]
        by_cases hr : r = w.nextQueues
        · rw [if_pos hr, hissued.2.1, hr]
        · rw [if_neg hr, hissued.2.1]
    constructor
    · intro h
      have henq := hwhole.mp (h.1.mp rfl)
      obtain ⟨hf, hd⟩ := hcond.mpr ⟨hfree, hall⟩
      exact ⟨by omega, by omega, hc', .inr (.inr ⟨h0, hf, fun j hj =>
        ⟨(hd j hj).1, henq j hj, (hd j hj).2⟩⟩)⟩
    · intro h
      refine ⟨iff_of_true rfl (hwhole.mpr fun j hj => ((hsound h).2.2 j hj).2.1), fun h => ?_⟩
      exact absurd rfl h
  · obtain rfl : rc = some 0 := hrc
    change HonestCreation w hdl _ (_, 0, id) ↔ o.Sound count hdl params w
    refine iff_of_false (fun h => hno ?_) fun h => hnot (hcond.mp ⟨(hsound h).2.1, fun j hj =>
      ⟨((hsound h).2.2 j hj).1, ((hsound h).2.2 j hj).2.2⟩⟩)
    exact (h.1.mp rfl).congr hissued.1.symm hissued.2.1.symm
  · obtain rfl : rc = some (-1) := hrc
    change HonestCreation w hdl _ (_, -1, id) ↔ o.Sound count hdl params w
    refine iff_of_false (fun h => ?_) fun h => hnot (hcond.mp ⟨(hsound h).2.1, fun j hj =>
      ⟨((hsound h).2.2 j hj).1, ((hsound h).2.2 j hj).2.2⟩⟩)
    have hsame : (if id = 0 then v else { v with issued := id :: v.issued }).numSessions =
        w.numSessions := by
      have hneg : (-1 : Int) ≠ 0 := by decide
      exact (h.2 hneg).2.1
    rw [hissued.2.2] at hsame
    exact absurd hmore (by rw [hsame]; exact Nat.lt_irrefl _)

/-- Too many source buffers: the call answers 0 and has made nothing. -/
theorem creation_lies_on_buffers :
    ¬∀ (count hdl : Nat) (params : EncodeParams) (o : Creation) (w : World),
      HonestCreation w hdl (params.chainLength count) (createSession count hdl params o w) := by
  intro hall
  have hwhole := (hall 1 256 { numSrcBufs := 25 } {} {}).1.mp rfl
  exact absurd hwhole.named (by decide)

end Jpeg
