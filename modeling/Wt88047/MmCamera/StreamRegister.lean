import Mathlib.Data.List.Nodup
import Wt88047.MmCamera.StreamHolders

/-! What `mm_stream_reg_buf` makes of a stream, one turn of its loop after the other. -/

namespace Wt88047.Stream

open StreamObj

def StreamObj.flag (s : StreamObj) (i : Nat) : Bool := (s.bufStatus i).initialRegFlag

variable {s : StreamObj}

theorem setStatus_flag {i n : Nat} {k f : Bool} (h : s.flag i = f) :
    (s.setStatus i ⟨n, f, k⟩).flag = s.flag := by
  funext j
  by_cases hj : j = i
  · subst hj
    simp [flag, setStatus, ← h]
  · simp [flag, setStatus, hj]

theorem qbuf_true {b : Nat} {q : QbufRc} {t : StreamObj} (h : s.qbuf b q = (true, t)) :
    b ∉ s.kernel ∧ t = s.enq b := by
  simp only [qbuf] at h
  split at h
  · split at h
    · rename_i hk
      exact ⟨hk.2, (Prod.mk.inj h).2.symm⟩
    · simp at h
  · simp at h

theorem qbuf_false {b : Nat} {q : QbufRc} {t : StreamObj} (h : s.qbuf b q = (false, t)) :
    t = s ∨ t = s.addQueued.dropQueued := by
  simp only [qbuf] at h
  split at h
  · split at h
    · simp at h
    · exact Or.inr (Prod.mk.inj h).2.symm
  · exact Or.inl (Prod.mk.inj h).2.symm

structure Registering (p : Bool) (s : StreamObj) : Prop where
  once : s.kernel.Nodup
  count : s.queuedBufferCount = s.kernel.length
  polled : 0 < s.queuedBufferCount → s.pollFd = true
  entry : s.pollFd = true → 0 < s.queuedBufferCount ∨ p = true

theorem Registering.push {p : Bool} {b : Nat} (h : Registering p s) (hb : b ∉ s.kernel) :
    Registering p (s.enq b) := by
  have hc := h.count
  refine ⟨List.nodup_cons.mpr ⟨hb, h.once⟩, ?_, fun _ => ?_, fun _ => Or.inl ?_⟩
  · simp only [enq, addQueued, List.length_cons]
    omega
  · by_cases h0 : 0 < s.queuedBufferCount
    · simp [enq, addQueued, h.polled h0]
    · have hz : s.queuedBufferCount = 0 := by omega
      simp [enq, addQueued, hz]
  · simp only [enq, addQueued]
    omega

theorem Registering.retract {p : Bool} (h : Registering p s) :
    Registering p s.addQueued.dropQueued := by
  have hc := h.count
  have hn : s.queuedBufferCount + 1 - 1 = s.queuedBufferCount := by omega
  refine ⟨h.once, ?_, fun hp => ?_, fun hp => ?_⟩
  · simp only [addQueued, dropQueued]
    omega
  · simp only [addQueued, dropQueued, hn] at hp ⊢
    have hz : s.queuedBufferCount ≠ 0 := by omega
    simp [h.polled hp, hz]
  · simp only [addQueued, dropQueued, hn, Bool.and_eq_true, bne_iff_ne] at hp
    have hk : s.addQueued.dropQueued.queuedBufferCount = s.queuedBufferCount := hn
    rw [hk]
    exact Or.inl (by omega)

variable (qs : List QbufRc)

theorem regLoop_spec {p : Bool} (l : List Nat) {rc : Bool} {t : StreamObj} (h : Registering p s)
    (hr : regLoop qs l s = (rc, t)) :
    Registering p t ∧ Frame s t ∧ t.poll = s.poll ∧
      (rc = true → t.queuedBufferCount = s.queuedBufferCount + l.countP s.flag) := by
  induction l generalizing s with
  | nil =>
    obtain ⟨rfl, rfl⟩ := Prod.mk.inj hr
    exact ⟨h, Frame.refl s, rfl, fun _ => by simp⟩
  | cons i rest ih =>
    simp only [regLoop] at hr
    split at hr
    · rename_i hf
      split at hr
      · rename_i u hu
        obtain ⟨hb, rfl⟩ := qbuf_true hu
        have hp := h.push hb
        have hs : ((s.enq i).setStatus i ⟨0, true, true⟩).flag = s.flag := setStatus_flag hf
        have hreg : Registering p ((s.enq i).setStatus i ⟨0, true, true⟩) :=
          ⟨hp.once, hp.count, hp.polled, hp.entry⟩
        obtain ⟨h1, h2, h3, h4⟩ := ih hreg hr
        refine ⟨h1, ⟨h2.state, h2.ctl, h2.bufNum, h2.isBundled, h2.cmdActive⟩, h3, fun hrc => ?_⟩
        have hone : (i :: rest).countP s.flag = rest.countP s.flag + 1 :=
          List.countP_cons_of_pos hf
        have hcount : ((s.enq i).setStatus i ⟨0, true, true⟩).queuedBufferCount =
            s.queuedBufferCount + 1 := rfl
        rw [h4 hrc, hs, hone, hcount]
        omega
      · rename_i u hu
        obtain ⟨rfl, rfl⟩ := Prod.mk.inj hr
        obtain rfl | rfl := qbuf_false hu
        · exact ⟨h, Frame.refl _, rfl, fun hrc => by simp at hrc⟩
        · exact ⟨h.retract, ⟨rfl, rfl, rfl, rfl, rfl⟩, rfl, fun hrc => by simp at hrc⟩
    · rename_i hf
      have hs : (s.keepUpper i).flag = s.flag :=
        setStatus_flag (Bool.eq_false_iff.mpr hf)
      have hreg : Registering p (s.keepUpper i) := ⟨h.once, h.count, h.polled, h.entry⟩
      obtain ⟨h1, h2, h3, h4⟩ := ih hreg hr
      refine ⟨h1, ⟨h2.state, h2.ctl, h2.bufNum, h2.isBundled, h2.cmdActive⟩, h3, fun hrc => ?_⟩
      have hnone : (i :: rest).countP s.flag = rest.countP s.flag :=
        List.countP_cons_of_neg hf
      rw [h4 hrc, hs, hnone]
      rfl

theorem regBuf_queued {r : RegBufRc} {t : StreamObj} (hu : s.poll.uncounted = 0)
    (hp : s.pollFd = false ∨ ∃ i < s.bufNum, s.flag i = true) (h : s.regBuf r = (true, t)) :
    Queued t := by
  simp only [regBuf, requestBuf] at h
  split at h
  · rename_i u hreq
    split at hreq
    · obtain ⟨-, rfl⟩ := Prod.mk.inj hreq
      have h0 : Registering s.pollFd { { s with kernel := [] } with queuedBufferCount := 0 } :=
        ⟨List.nodup_nil, rfl, fun hc => absurd hc (by simp), fun hc => Or.inr hc⟩
      obtain ⟨hreg, -, hpoll, hcount⟩ := regLoop_spec _ _ h0 h
      have hc := hreg.count
      have hn := hcount rfl
      refine ⟨hreg.once, ?_, fun hpf => ?_, hreg.polled⟩
      · have hpu : t.poll.uncounted = 0 := by rw [hpoll]; exact hu
        omega
      · obtain hpos | hold := hreg.entry hpf
        · exact hpos
        · obtain hfree | ⟨i, hi, hf⟩ := hp
          · rw [hfree] at hold
            simp at hold
          · have hpos : 0 < (List.range s.bufNum).countP s.flag :=
              List.countP_pos_iff.mpr ⟨i, List.mem_range.mpr hi, hf⟩
            have hflag : (0 : Int) + ((List.range s.bufNum).countP s.flag : Nat) =
                t.queuedBufferCount := hn.symm
            omega
    · simp at hreq
  · simp at h

theorem regBuf_keeps (r : RegBufRc) (s : StreamObj) :
    (s.regBuf r).2.poll = s.poll ∧ (s.regBuf r).2.state = s.state := by
  by_cases hreq : s.bufNum ≤ maxNumFrames ∧ r.reqbufsOk = true
  · have h0 : Registering s.pollFd { { s with kernel := [] } with queuedBufferCount := 0 } :=
      ⟨List.nodup_nil, rfl, fun hc => absurd hc (by simp), fun hc => Or.inr hc⟩
    obtain ⟨-, hf, hp, -⟩ := regLoop_spec r.qbufs (List.range s.bufNum) h0 rfl
    simp only [regBuf, requestBuf, hreq, if_true, and_self]
    exact ⟨hp, hf.state⟩
  · simp [regBuf, requestBuf, hreq]

theorem regLoop_cons (j : Nat) (rest : List Nat) (s : StreamObj) :
    regLoop qs (j :: rest) s =
      if s.flag j = true then
        match s.qbuf j (qs.getD j ⟨true, true⟩) with
        | (true, t) => regLoop qs rest (t.setStatus j ⟨0, true, true⟩)
        | (false, t) => (false, t)
      else regLoop qs rest (s.keepUpper j) := rfl

theorem regLoop_places {l : List Nat} (hl : l.Nodup) {t : StreamObj}
    (hnew : ∀ i ∈ l, i ∉ s.kernel ∧ outRefs s.out i = 0) (hr : regLoop qs l s = (true, t)) :
    t.flag = s.flag ∧ t.cmdQueue = s.cmdQueue ∧ t.app = s.app ∧
      (∀ i ∈ l, s.flag i = true → i ∈ t.kernel ∧ t.refcnt i = 0 ∧ outRefs t.out i = 0) ∧
      (∀ i ∈ l, s.flag i = false → i ∉ t.kernel ∧ t.refcnt i = 1 ∧ outRefs t.out i = 1) ∧
      ∀ i, i ∉ l → (i ∈ t.kernel ↔ i ∈ s.kernel) ∧ t.refcnt i = s.refcnt i ∧
        outRefs t.out i = outRefs s.out i := by
  induction l generalizing s with
  | nil =>
    obtain rfl := (Prod.mk.inj hr).2
    simp
  | cons j rest ih =>
    obtain ⟨hj, hrest⟩ := List.nodup_cons.mp hl
    -- one turn settles buffer `j` and leaves the others
    have hturn : ∃ u, regLoop qs rest u = (true, t) ∧ u.flag = s.flag ∧
        u.cmdQueue = s.cmdQueue ∧ u.app = s.app ∧
        (s.flag j = true → j ∈ u.kernel ∧ u.refcnt j = 0 ∧ outRefs u.out j = 0) ∧
        (s.flag j = false → j ∉ u.kernel ∧ u.refcnt j = 1 ∧ outRefs u.out j = 1) ∧
        ∀ i, i ≠ j → (i ∈ u.kernel ↔ i ∈ s.kernel) ∧ u.refcnt i = s.refcnt i ∧
          outRefs u.out i = outRefs s.out i := by
      obtain ⟨hjk, hjo⟩ := hnew j (List.mem_cons_self ..)
      rw [regLoop_cons] at hr
      by_cases hf : s.flag j = true
      · rw [if_pos hf] at hr
        cases hq : s.qbuf j (qs.getD j ⟨true, true⟩) with
        | mk rc v =>
          rw [hq] at hr
          cases rc with
          | false => simp at hr
          | true =>
            obtain ⟨-, rfl⟩ := qbuf_true hq
            refine ⟨_, hr, setStatus_flag hf, rfl, rfl, fun _ => ⟨?_, ?_, hjo⟩, ?_, fun i hi => ?_⟩
            · exact List.mem_cons_self ..
            · simp [setStatus, refcnt]
            · exact fun hn => absurd (hf.symm.trans hn) (by simp)
            · refine ⟨?_, ?_, rfl⟩
              · show i ∈ j :: s.kernel ↔ i ∈ s.kernel
                simp [hi]
              · simp [setStatus, refcnt, hi, enq, addQueued]
      · have hn : s.flag j = false := by simpa using hf
        rw [if_neg hf] at hr
        refine ⟨_, hr, setStatus_flag hn, rfl, rfl, fun hp => absurd hp hf, fun _ => ⟨hjk, ?_, ?_⟩,
          fun i hi => ⟨Iff.rfl, ?_, ?_⟩⟩
        · simp [keepUpper, setStatus, refcnt]
        · show outRefs ((.upper, j) :: s.out) j = 1
          rw [outRefs_cons, hjo]
          simp
        · simp [keepUpper, setStatus, refcnt, hi]
        · show outRefs ((.upper, j) :: s.out) i = outRefs s.out i
          rw [outRefs_cons, if_neg (Ne.symm hi)]
          rfl
    obtain ⟨u, hu, hflag, hq, happ, hjt, hjf, hother⟩ := hturn
    have hne : ∀ i ∈ rest, i ≠ j := fun i hi he => hj (he ▸ hi)
    have hnew' : ∀ i ∈ rest, i ∉ u.kernel ∧ outRefs u.out i = 0 := by
      intro i hi
      obtain ⟨h1, -, h3⟩ := hother i (hne i hi)
      obtain ⟨h4, h5⟩ := hnew i (List.mem_cons_of_mem j hi)
      exact ⟨fun hk => h4 (h1.mp hk), h3.trans h5⟩
    obtain ⟨r1, r2, r3, r4, r5, r6⟩ := ih hrest hnew' hu
    obtain ⟨j1, j2, j3⟩ := r6 j hj
    refine ⟨r1.trans hflag, r2.trans hq, r3.trans happ, fun i hi hf => ?_, fun i hi hf => ?_,
      fun i hi => ?_⟩
    · obtain rfl | hi := List.mem_cons.mp hi
      · rw [j1, j2, j3]
        exact hjt hf
      · exact r4 i hi (hflag ▸ hf)
    · obtain rfl | hi := List.mem_cons.mp hi
      · rw [j1, j2, j3]
        exact hjf hf
      · exact r5 i hi (hflag ▸ hf)
    · obtain ⟨hij, hir⟩ := not_or.mp (fun ho => hi (List.mem_cons.mpr ho))
      obtain ⟨h1, h2, h3⟩ := hother i hij
      obtain ⟨k1, k2, k3⟩ := r6 i hir
      exact ⟨k1.trans h1, k2.trans h2, k3.trans h3⟩

end Wt88047.Stream
