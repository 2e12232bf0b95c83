import Wt88047.Jpeg.SessionChains

/-! The making of a session chain, one session at a time: what the loop of
`mm_jpeg_create_session` keeps of the chains there are, and what it builds. -/

namespace Jpeg

open World

theorem appendNext_fold {s : Slot} {chain : List Slot} {w : World} (hn : chain.Nodup) (t : Slot) :
    (chain.foldl (appendNext s) w).session t =
      if t ∈ chain then
        { w.session t with nextSession := (w.session t).nextSession ++ [s] }
      else w.session t := by
  induction chain generalizing w with
  | nil => rfl
  | cons a rest ih =>
    obtain ⟨ha, hn⟩ := List.nodup_cons.mp hn
    rw [List.foldl_cons, ih hn]
    have happ : ∀ u, (appendNext s w a).session u =
        if u = a then { w.session a with nextSession := (w.session a).nextSession ++ [s] }
        else w.session u := fun u => rfl
    rw [happ]
    by_cases hta : t = a
    · subst hta
      have hmem : t ∈ t :: rest := List.mem_cons_self ..
      rw [if_neg ha, if_pos rfl, if_pos hmem]
    · rw [if_neg hta]
      simp only [List.mem_cons, hta, false_or]

theorem appendNext_rest (s : Slot) (chain : List Slot) (w : World) :
    (chain.foldl (appendNext s) w).client = w.client ∧
      (chain.foldl (appendNext s) w).issued = w.issued ∧
      (chain.foldl (appendNext s) w).nextQueues = w.nextQueues ∧
      (chain.foldl (appendNext s) w).nextHandle = w.nextHandle ∧
      (chain.foldl (appendNext s) w).component = w.component ∧
      (chain.foldl (appendNext s) w).queues = w.queues ∧
      (chain.foldl (appendNext s) w).numClients = w.numClients := by
  induction chain generalizing w with
  | nil => exact ⟨rfl, rfl, rfl, rfl, rfl, rfl, rfl⟩
  | cons a rest ih => exact ih _

structure Joined (w w' : World) (q : Nat) (chain : List Slot) (s : Slot) : Prop where
  self : (w'.session s).active = true ∧ (w'.session s).nextSession = [] ∧
    (w'.session s).sessionId = packSession s ∧ (w'.session s).queues = some q ∧
    (w'.session s).omxHandle = some w.nextHandle
  earlier : ∀ t ∈ chain, w'.session t =
    { w.session t with nextSession := (w.session t).nextSession ++ [s] }
  other : ∀ t, t ≠ s → t ∉ chain → w'.session t = w.session t
  client : w'.client = w.client
  issued : w'.issued = w.issued
  nextQueues : w'.nextQueues = w.nextQueues
  nextHandle : w'.nextHandle = w.nextHandle + 1
  numClients : w'.numClients = w.numClients
  component : ∀ k, k ≠ w.nextHandle → w'.component k = w.component k
  fresh : (w'.component w.nextHandle).freed = [] ∧ (w'.component w.nextHandle).freeHandle = 0
  deinits : ∀ r, (w'.queues r).handlesDeinit = (w.queues r).handlesDeinit ∧
    (w'.queues r).outBufsDeinit = (w.queues r).outBufsDeinit

theorem Joined.keep {w w' : World} {q : Nat} {chain : List Slot} {s t : Slot}
    (h : Joined w w' q chain s) (ht : t ≠ s) : (w'.session t).active = (w.session t).active ∧
      (w'.session t).queues = (w.session t).queues ∧
      (w'.session t).sessionId = (w.session t).sessionId ∧
      (w'.session t).omxHandle = (w.session t).omxHandle := by
  by_cases hmem : t ∈ chain
  · rw [h.earlier t hmem]
    exact ⟨rfl, rfl, rfl, rfl⟩
  · rw [h.other t ht hmem]
    exact ⟨rfl, rfl, rfl, rfl⟩

theorem joinChain_joined (count i hdl q : Nat) (params : EncodeParams) (enq : Bool)
    (conf : Configure) {chain : List Slot} {s : Slot} {w : World} (hn : chain.Nodup)
    (hs : s ∉ chain) :
    Joined w (joinChain count i hdl q params enq conf chain s w).1 q chain s := by
  have hlink : ∀ t, t ≠ s → (linkSession count i chain s w).session t =
      if t ∈ chain then { w.session t with nextSession := (w.session t).nextSession ++ [s] }
      else w.session t := by
    intro t hts
    change (if t = s then _ else ((chain.foldl (appendNext s)
      (w.onSession s fun p => { p with active := true, nextSession := [] })).session t)) = _
    rw [if_neg hts, appendNext_fold hn, session_onSession, if_neg hts]
  have hself : ((linkSession count i chain s w).session s).active = true ∧
      ((linkSession count i chain s w).session s).nextSession = [] := by
    have hs' : (chain.foldl (appendNext s)
        (w.onSession s fun p => { p with active := true, nextSession := [] })).session s =
          { w.session s with active := true, nextSession := [] } := by
      rw [appendNext_fold hn, if_neg hs, session_onSession, if_pos rfl]
    unfold linkSession
    rw [session_onSession, if_pos rfl, hs']
    exact ⟨rfl, rfl⟩
  have hrest := appendNext_rest s chain
    (w.onSession s fun p => { p with active := true, nextSession := [] })
  have hreg : ∀ t, (registerSession hdl q params enq s (linkSession count i chain s w)).session t =
      if t = s then { (linkSession count i chain s w).session s with
        omxHandle := some (linkSession count i chain s w).nextHandle, params := params
        clientHdl := hdl, sessionId := packSession s, queues := some q }
      else (linkSession count i chain s w).session t := by
    intro t
    cases enq <;> rfl
  have hconf : ∀ t, t ≠ s →
      (joinChain count i hdl q params enq conf chain s w).1.session t =
        (registerSession hdl q params enq s (linkSession count i chain s w)).session t := by
    intro t hts
    change (if t = s then _ else _) = _
    rw [if_neg hts]
  have hframe := configureSession_steady conf (s := s) (h := (linkSession count i chain s w).nextHandle)
    (w := registerSession hdl q params enq s (linkSession count i chain s w))
    (by rw [hreg, if_pos rfl])
  have hnext : (linkSession count i chain s w).nextHandle = w.nextHandle := hrest.2.2.2.1
  have hcomp : ∀ k, (registerSession hdl q params enq s
      (linkSession count i chain s w)).component k =
        if k = w.nextHandle then {} else w.component k := by
    intro k
    have hlinked : (linkSession count i chain s w).component = w.component := hrest.2.2.2.2.1
    rw [← hlinked, ← hnext]
    cases enq <;> rfl
  refine ⟨⟨?_, ?_, ?_, ?_, ?_⟩, fun t ht => ?_, fun t hts ht => ?_, ?_, ?_, ?_, ?_, ?_,
    fun k hk => ?_, ⟨?_, ?_⟩, fun r => ?_⟩
  · refine (hframe.session s).active.trans ?_
    rw [hreg, if_pos rfl]
    exact hself.1
  · refine (hframe.session s).nextSession.trans ?_
    rw [hreg, if_pos rfl]
    exact hself.2
  · refine (hframe.session s).sessionId.trans ?_
    rw [hreg, if_pos rfl]
  · refine (hframe.session s).queues.trans ?_
    rw [hreg, if_pos rfl]
  · refine (hframe.session s).omxHandle.trans ?_
    rw [hreg, if_pos rfl, hnext]
  · have hts : t ≠ s := fun he => hs (by rw [← he]; exact ht)
    rw [hconf t hts, hreg, if_neg hts, hlink t hts, if_pos ht]
  · rw [hconf t hts, hreg, if_neg hts, hlink t hts, if_neg ht]
  · refine hframe.client.trans ?_
    cases enq <;> exact hrest.1
  · refine hframe.issued.trans ?_
    cases enq <;> exact hrest.2.1
  · refine hframe.nextQueues.trans ?_
    cases enq <;> exact hrest.2.2.1
  · refine hframe.nextHandle.trans ?_
    cases enq <;> exact congrArg (· + 1) hnext
  · refine hframe.numClients.trans ?_
    cases enq <;> exact hrest.2.2.2.2.2.2
  · change (if k = (linkSession count i chain s w).nextHandle then _
      else (registerSession hdl q params enq s (linkSession count i chain s w)).component k) = _
    rw [hnext, if_neg hk, hcomp, if_neg hk]
  · refine (hframe.released w.nextHandle).1.trans ?_
    rw [hcomp, if_pos rfl]
  · refine (hframe.released w.nextHandle).2.trans ?_
    rw [hcomp, if_pos rfl]
  · have hqueues : (linkSession count i chain s w).queues = w.queues := hrest.2.2.2.2.2.1
    have hsame : ∀ v : World, v.queues = w.queues →
        ((v.enqHandle q s).queues r).handlesDeinit = (w.queues r).handlesDeinit ∧
          ((v.enqHandle q s).queues r).outBufsDeinit = (w.queues r).outBufsDeinit := by
      intro v hv
      have hv' := (JobFrame.enqHandle v q s).deinits r
      rw [hv] at hv'
      exact hv'
    have hregister : ((registerSession hdl q params enq s
        (linkSession count i chain s w)).queues r).handlesDeinit = (w.queues r).handlesDeinit ∧
        ((registerSession hdl q params enq s
          (linkSession count i chain s w)).queues r).outBufsDeinit = (w.queues r).outBufsDeinit := by
      cases enq with
      | true => exact hsame _ hqueues
      | false => exact ⟨by rw [← hqueues]; rfl, by rw [← hqueues]; rfl⟩
    exact ⟨(hframe.deinits r).1.trans hregister.1, (hframe.deinits r).2.trans hregister.2⟩

structure ChainLoop (w : World) (q : Nat) (chain : List Slot) (id : Nat) : Prop where
  range : ∀ s, (w.session s).active = true → s.client < maxJpegClientNum ∧ s.idx < maxSession
  used : ∀ s, (w.session s).active = true → (w.client s.client).isUsed = true
  packed : ∀ s, (w.session s).active = true → (w.session s).sessionId = packSession s
  head : ∀ j ∈ w.issued, ∃ r < q, IsHead w j r
  own : ∀ i ∈ w.issued, ∀ j ∈ w.issued, slotOf j ∈ chainOf w (slotOf i) → j = i
  member : ∀ s, (w.session s).active = true →
    s ∈ chain ∨ ∃ j ∈ w.issued, s ∈ chainOf w (slotOf j)
  nodup : chain.Nodup
  mem_iff : ∀ t, t ∈ chain ↔ (w.session t).active = true ∧ (w.session t).queues = some q
  first : ∀ s rest, chain = s :: rest → (w.session s).nextSession = rest ∧ id = packSession s
  empty : chain = [] → id = 0
  nextQueues : w.nextQueues = q + 1

theorem newSessionIdx_spec {w : World} {c : Nat} {s : Slot} (h : newSessionIdx w c = some s) :
    s.client = c ∧ s.idx < maxSession ∧ (w.session s).active = false := by
  obtain ⟨i, hi, rfl⟩ := Option.map_eq_some_iff.mp h
  have hact := List.find?_some hi
  exact ⟨rfl, List.mem_range.mp (List.mem_of_find?_eq_some hi), by simpa using hact⟩

namespace ChainLoop

variable {w w' : World} {q id : Nat} {chain : List Slot} {s : Slot}

theorem not_mem (hw : ChainLoop w q chain id) (hs : (w.session s).active = false) : s ∉ chain := by
  intro hmem
  rw [((hw.mem_iff s).mp hmem).1] at hs
  cases hs

theorem old_head (hw : ChainLoop w q chain id) {j : Nat} (hj : j ∈ w.issued) :
    (w.session (slotOf j)).active = true ∧ slotOf j ∉ chain := by
  obtain ⟨r, hr, hhead⟩ := hw.head j hj
  obtain ⟨hact, hqueue⟩ := (hhead.mem_iff (slotOf j)).mp (List.mem_cons_self ..)
  refine ⟨hact, fun hmem => ?_⟩
  have hq := ((hw.mem_iff _).mp hmem).2
  rw [hqueue] at hq
  exact absurd (Option.some.inj hq) (by omega)

theorem join (hw : ChainLoop w q chain id) (hs : (w.session s).active = false)
    (hc : s.client < maxJpegClientNum) (hu : (w.client s.client).isUsed = true)
    (hi : s.idx < maxSession) (hj : Joined w w' q chain s) :
    ChainLoop w' q (chain ++ [s]) (if id = 0 then packSession s else id) := by
  have hnot := hw.not_mem hs
  have hactive : ∀ t, t ≠ s → _ := fun t hts => hj.keep hts
  have hchain : ∀ j ∈ w.issued, chainOf w' (slotOf j) = chainOf w (slotOf j) := by
    intro j hjs
    obtain ⟨hact, hmem⟩ := hw.old_head hjs
    have hne : slotOf j ≠ s := fun he => by
      rw [he, hs] at hact
      cases hact
    unfold chainOf
    rw [hj.other _ hne hmem]
  have hback : ∀ t, (w'.session t).active = true → t = s ∨ t ≠ s ∧ (w.session t).active = true := by
    intro t ht
    by_cases hts : t = s
    · exact .inl hts
    · exact .inr ⟨hts, (hactive t hts).1 ▸ ht⟩
  refine ⟨fun t ht => ?_, fun t ht => ?_, fun t ht => ?_, fun j hjs => ?_, fun i his j hjs hij => ?_,
    fun t ht => ?_, ?_, fun t => ?_, fun a rest he => ?_, fun he => ?_, ?_⟩
  · rcases hback t ht with rfl | ⟨-, ht⟩
    · exact ⟨hc, hi⟩
    · exact hw.range t ht
  · rw [hj.client]
    rcases hback t ht with rfl | ⟨-, ht⟩
    · exact hu
    · exact hw.used t ht
  · rcases hback t ht with rfl | ⟨hts, ht⟩
    · exact hj.self.2.2.1
    · rw [(hactive t hts).2.2.1]
      exact hw.packed t ht
  · rw [hj.issued] at hjs
    obtain ⟨r, hr, hhead⟩ := hw.head j hjs
    refine ⟨r, hr, hhead.packed, by rw [hchain j hjs]; exact hhead.nodup, fun t => ?_⟩
    rw [hchain j hjs, hhead.mem_iff]
    by_cases hts : t = s
    · subst hts
      rw [hs, hj.self.2.2.2.1]
      constructor
      · rintro ⟨hf, -⟩
        cases hf
      · rintro ⟨-, hq⟩
        exact absurd (Option.some.inj hq) (by omega)
    · rw [(hactive t hts).1, (hactive t hts).2.1]
  · rw [hj.issued] at his hjs
    rw [hchain i his] at hij
    exact hw.own i his j hjs hij
  · rcases hback t ht with rfl | ⟨-, ht⟩
    · exact .inl (List.mem_append_right _ (List.mem_singleton_self _))
    · rcases hw.member t ht with hmem | ⟨j, hjs, hmem⟩
      · exact .inl (List.mem_append_left _ hmem)
      · exact .inr ⟨j, by rw [hj.issued]; exact hjs, by rw [hchain j hjs]; exact hmem⟩
  · refine List.nodup_append.mpr ⟨hw.nodup, by simp, ?_⟩
    intro a ha b hb hab
    rw [List.mem_singleton.mp hb] at hab
    exact hnot (hab ▸ ha)
  · rw [List.mem_append, List.mem_singleton]
    by_cases hts : t = s
    · subst hts
      exact iff_of_true (.inr rfl) ⟨hj.self.1, hj.self.2.2.2.1⟩
    · rw [(hactive t hts).1, (hactive t hts).2.1, ← hw.mem_iff t]
      exact or_iff_left hts
  · cases chain with
    | nil =>
      obtain ⟨rfl, rfl⟩ := List.cons.inj he
      rw [hw.empty rfl, if_pos rfl]
      exact ⟨hj.self.2.1, rfl⟩
    | cons b tail =>
      obtain ⟨rfl, rfl⟩ := List.cons.inj he
      obtain ⟨hnext, hid⟩ := hw.first b tail rfl
      have hb := ((hw.mem_iff b).mp (List.mem_cons_self ..)).1
      obtain ⟨hbc, hbi⟩ := hw.range b hb
      have hne : id ≠ 0 := by
        rw [hid]
        exact (slotOf_packSession hbc hbi).2
      rw [if_neg hne, hj.earlier b (List.mem_cons_self ..)]
      exact ⟨congrArg (· ++ [s]) hnext, hid⟩
  · exact absurd he (by simp)
  · rw [hj.nextQueues, hw.nextQueues]

theorem finish (hw : ChainLoop w q chain id) (hne : chain ≠ []) :
    ChainShape { w with issued := id :: w.issued } := by
  obtain ⟨s, rest, rfl⟩ := List.exists_cons_of_ne_nil hne
  obtain ⟨hnext, hid⟩ := hw.first s rest rfl
  have hs := ((hw.mem_iff s).mp (List.mem_cons_self ..)).1
  obtain ⟨hc, hi⟩ := hw.range s hs
  have hslot : slotOf id = s := by
    rw [hid]
    exact (slotOf_packSession hc hi).1
  have hnew : chainOf w (slotOf id) = s :: rest := by
    unfold chainOf
    rw [hslot, hnext]
  refine ⟨hw.range, hw.used, hw.packed, fun j hj => ?_, fun i his j hjs hij => ?_, fun t ht => ?_⟩
  · rcases List.mem_cons.mp hj with rfl | hj
    · refine ⟨q, by rw [hw.nextQueues]; omega, by rw [hslot]; exact hid.symm, ?_, fun t => ?_⟩
      · change (chainOf w (slotOf j)).Nodup
        rw [hnew]
        exact hw.nodup
      · change t ∈ chainOf w (slotOf j) ↔ _
        rw [hnew]
        exact hw.mem_iff t
    · obtain ⟨r, hr, hhead⟩ := hw.head j hj
      exact ⟨r, by rw [hw.nextQueues]; omega, hhead.packed, hhead.nodup, hhead.mem_iff⟩
  · change slotOf j ∈ chainOf w (slotOf i) at hij
    rcases List.mem_cons.mp his with rfl | hold
    · rcases List.mem_cons.mp hjs with rfl | hjold
      · rfl
      · rw [hnew] at hij
        exact absurd hij (hw.old_head hjold).2
    · rcases List.mem_cons.mp hjs with rfl | hjold
      · -- the first session of the new chain is on its own queues
        obtain ⟨r, hr, hhead⟩ := hw.head i hold
        have hq := ((hhead.mem_iff _).mp hij).2
        have hmine := ((hw.mem_iff s).mp (List.mem_cons_self ..)).2
        rw [hslot, hmine] at hq
        exact absurd (Option.some.inj hq) (by omega)
      · exact hw.own i hold j hjold hij
  · rcases hw.member t ht with hmem | ⟨j, hj, hmem⟩
    · refine ⟨id, List.mem_cons_self .., ?_⟩
      change t ∈ chainOf w (slotOf id)
      rw [hnew]
      exact hmem
    · exact ⟨j, List.mem_cons_of_mem _ hj, hmem⟩

end ChainLoop

end Jpeg
