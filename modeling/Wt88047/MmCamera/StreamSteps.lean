import Wt88047.MmCamera.StreamFsm

/-! What each step can do, said once: the place its thread is at and the stream it leaves. -/

namespace Wt88047.Stream

variable {s t : StreamObj}

namespace StreamObj

@[simp] theorem setRefcnt_refcnt (b n c : Nat) (s : StreamObj) :
    (s.setRefcnt b n).refcnt c = if c = b then n else s.refcnt c := by
  by_cases hc : c = b
  · subst hc
    simp [setRefcnt, setStatus, refcnt]
  · simp [setRefcnt, setStatus, refcnt, hc]

@[simp] theorem setInKernel_refcnt (b c : Nat) (k : Bool) (s : StreamObj) :
    (s.setInKernel b k).refcnt c = s.refcnt c := by
  by_cases hc : c = b
  · subst hc
    simp [setInKernel, setStatus, refcnt]
  · simp [setInKernel, setStatus, refcnt, hc]

@[simp] theorem setRefcnt_setRefcnt (b n m : Nat) (s : StreamObj) :
    (s.setRefcnt b n).setRefcnt b m = s.setRefcnt b m := by
  simp [setRefcnt, setStatus]

@[simp] theorem addQueued_refcnt (b : Nat) (s : StreamObj) : s.addQueued.refcnt b = s.refcnt b := rfl

@[simp] theorem dropQueued_refcnt (b : Nat) (s : StreamObj) : s.dropQueued.refcnt b = s.refcnt b := rfl

@[simp] theorem enq_refcnt (b c : Nat) (s : StreamObj) : (s.enq c).refcnt b = s.refcnt b := rfl

def requeue (b : Nat) (s : StreamObj) : StreamObj :=
  { (((s.setRefcnt b 0).enq b).setInKernel b true) with requeued := b :: s.requeued }

theorem requeue_eq (b : Nat) (s : StreamObj) : s.requeue b =
    { s with
      bufStatus := (s.requeue b).bufStatus
      queuedBufferCount := s.queuedBufferCount + 1
      pollFd := s.pollFd || s.queuedBufferCount + 1 == 1
      kernel := b :: s.kernel
      requeued := b :: s.requeued } := by
  simp only [requeue, setInKernel, enq, addQueued, setRefcnt, setStatus]

def Stranded (b : Nat) (s t : StreamObj) : Prop :=
  t = s.setRefcnt b 0 ∨ t = (s.setRefcnt b 0).addQueued.dropQueued

theorem bufDone_none {b : Nat} {q : QbufRc} {s : StreamObj} (h : s.refcnt b = 0) :
    s.bufDone b q = (false, s) := by simp [bufDone, h]

variable {q : QbufRc}

theorem bufDone_more {b : Nat} (h : 1 < s.refcnt b) :
    s.bufDone b q = (true, s.setRefcnt b (s.refcnt b - 1)) := by
  have h0 : s.refcnt b ≠ 0 := by omega
  have h1 : s.refcnt b - 1 ≠ 0 := by omega
  simp [bufDone, h0, h1]

theorem bufDone_last {b : Nat} (h : s.refcnt b = 1) (hq : q.ok) (hb : b ∉ s.kernel) :
    s.bufDone b q = (true, s.requeue b) := by
  have hk : b ∉ (s.setRefcnt b 0).kernel := hb
  simp only [bufDone, h, Nat.one_ne_zero, if_false, Nat.sub_self, setRefcnt_refcnt, if_true, qbuf,
    hq.1, hq.2, hk, not_false_eq_true, and_self]
  rfl

theorem bufDone_stranded {b : Nat} (h : s.refcnt b = 1) (hq : ¬ (q.ok ∧ b ∉ s.kernel)) :
    ∃ t, s.bufDone b q = (false, t) ∧ Stranded b s t := by
  have hk : (s.setRefcnt b 0).kernel = s.kernel := rfl
  by_cases hi : q.invalidateOk = true
  · have hn : ¬ (q.ioctlOk = true ∧ b ∉ s.kernel) := fun hc => hq ⟨⟨hi, hc.1⟩, hc.2⟩
    exact ⟨_, by simp [bufDone, h, qbuf, hi, hk, hn], Or.inr rfl⟩
  · exact ⟨_, by simp [bufDone, h, qbuf, hi], Or.inl rfl⟩

theorem bufDone_cases (b : Nat) (q : QbufRc) (s : StreamObj) :
    (s.refcnt b = 0 ∧ (s.bufDone b q).2 = s) ∨
    (1 < s.refcnt b ∧ (s.bufDone b q).2 = s.setRefcnt b (s.refcnt b - 1)) ∨
    (s.refcnt b = 1 ∧ q.ok ∧ b ∉ s.kernel ∧ (s.bufDone b q).2 = s.requeue b) ∨
    (s.refcnt b = 1 ∧ ¬ (q.ok ∧ b ∉ s.kernel) ∧ Stranded b s (s.bufDone b q).2) := by
  obtain h | h | h : s.refcnt b = 0 ∨ s.refcnt b = 1 ∨ 1 < s.refcnt b := by omega
  · exact Or.inl ⟨h, by rw [bufDone_none h]⟩
  · by_cases hq : q.ok ∧ b ∉ s.kernel
    · exact Or.inr (Or.inr (Or.inl ⟨h, hq.1, hq.2, by rw [bufDone_last h hq.1 hq.2]⟩))
    · obtain ⟨t, ht, hs⟩ := bufDone_stranded h hq
      exact Or.inr (Or.inr (Or.inr ⟨h, hq, by rwa [ht]⟩))
  · exact Or.inr (Or.inl ⟨h, by rw [bufDone_more h]⟩)

theorem dqbuf_some {o : Option Nat} (h : s.dqbuf o = some t) :
    s.poll = .idle ∧ s.state = .active ∧ (t = s ∨ ∃ b ∈ s.kernel,
      t = { s with
        kernel := s.kernel.erase b
        poll := .dequeued b
        delivered := b :: s.delivered }) := by
  simp only [dqbuf] at h
  split at h
  · rename_i hg
    refine ⟨hg.1, hg.2.1, ?_⟩
    cases o with
    | none => exact Or.inl (Option.some.inj h).symm
    | some b =>
      simp only [Option.ite_none_right_eq_some, Option.some.injEq] at h
      exact Or.inr ⟨b, h.1, h.2.symm⟩
  · simp at h

variable {ok : Bool}

theorem countFrame_some (h : s.countFrame ok = some t) :
    ∃ b, s.poll = .dequeued b ∧
      t = { s.dropQueued with poll := if ok then .received b else .idle } := by
  simp only [countFrame] at h
  split at h
  · exact ⟨_, by assumption, (Option.some.inj h).symm⟩
  · simp at h

theorem checkCb_some (h : s.checkCb = some t) :
    ∃ b, s.poll = .received b ∧ s.app = none ∧ t = { s with poll := .checked b s.hasCb } := by
  simp only [checkCb] at h
  split at h
  · simp only [Option.ite_none_right_eq_some, Option.some.injEq] at h
    exact ⟨_, by assumption, h.1, h.2.symm⟩
  · simp at h

theorem addRefs_some (h : s.addRefs = some t) :
    ∃ b c, s.poll = .checked b c ∧
      t = { (s.setInKernel b false).setRefcnt b (s.refcnt b + s.isBundled.toNat + c.toNat) with
        poll := .counted b c } := by
  simp only [addRefs] at h
  split at h
  · rename_i b c hpc
    refine ⟨b, c, hpc, (Option.some.inj h).symm.trans ?_⟩
    have hf : (s.setInKernel b false).isBundled = s.isBundled := rfl
    rw [hf]
    cases s.isBundled <;> simp
  · simp at h

theorem notifyBundle_some (h : s.notifyBundle ok = some t) :
    ∃ b c, s.poll = .counted b c ∧
      t = { s with
        out := if s.isBundled ∧ ok then (.bundle, b) :: s.out else s.out
        poll := .bundled b c } := by
  simp only [notifyBundle] at h
  split at h
  · rename_i b c hpc
    refine ⟨b, c, hpc, (Option.some.inj h).symm.trans ?_⟩
    cases hb : s.isBundled <;> cases ok <;> simp [notifyChannel, hb]
  · simp at h

theorem notifyLinked_some (h : s.notifyLinked ok = some t) :
    ∃ b c, s.poll = .bundled b c ∧
      ((s.isLinked = false ∧ t = { s with poll := .linked b c }) ∨
      (s.isLinked = true ∧
        t = { s.setRefcnt b (s.refcnt b + 1) with
          out := if ok then (.linked, b) :: s.out else s.out
          poll := .linked b c })) := by
  simp only [notifyLinked] at h
  split at h
  · rename_i b c hpc
    refine ⟨b, c, hpc, ?_⟩
    obtain rfl := Option.some.inj h
    cases hl : s.isLinked with
    | false => exact Or.inl ⟨rfl, by simp [hl]⟩
    | true =>
      refine Or.inr ⟨rfl, ?_⟩
      cases ok <;> simp [notifyChannel] <;> rfl
  · simp at h

theorem passOn_some (h : s.passOn ok q = some t) :
    ∃ b c, s.poll = .linked b c ∧
      ((s.skips ∧ t = ({ s with
        previewSkipCnt := s.previewSkipCnt - 1
        poll := .idle }.bufDone b q).2) ∨
      (¬ s.skips ∧ (c = true ∧ s.cmdActive = true ∧ ok = true) ∧
        t = { s with cmdQueue := s.cmdQueue ++ [b], poll := .idle }) ∨
      (¬ s.skips ∧ ¬ (c = true ∧ s.cmdActive = true ∧ ok = true) ∧
        t = { s with poll := .idle })) := by
  simp only [passOn] at h
  split at h
  · rename_i b c hpc
    refine ⟨b, c, hpc, ?_⟩
    split at h
    · exact Or.inl ⟨by assumption, (Option.some.inj h).symm⟩
    · split at h
      · exact Or.inr (Or.inl ⟨by assumption, by assumption, (Option.some.inj h).symm⟩)
      · exact Or.inr (Or.inr ⟨by assumption, by assumption, (Option.some.inj h).symm⟩)
  · simp at h

theorem takeNode_some (h : s.takeNode = some t) :
    ∃ b rest, s.app = none ∧ s.cmdQueue = b :: rest ∧
      t = { s with cmdQueue := rest, app := some (b, 0) } := by
  simp only [takeNode] at h
  split at h
  · exact ⟨_, _, by assumption, by assumption, (Option.some.inj h).symm⟩
  · simp at h

theorem callback_some (h : s.callback = some t) :
    ∃ b i cbs, s.app = some (b, i) ∧
      (t = { s with bufCb := cbs, app := some (b, i + 1) } ∨
      t = { s.setRefcnt b (s.refcnt b + 1) with
        out := (.slot i, b) :: s.out
        bufCb := cbs
        app := some (b, i + 1) }) := by
  simp only [callback] at h
  split at h
  · rename_i b i happ
    split at h
    · obtain rfl := Option.some.inj h
      split
      · exact ⟨b, i, _, happ, Or.inr rfl⟩
      · exact ⟨b, i, _, happ, Or.inl rfl⟩
    · simp at h
  · simp at h

theorem doneNode_some (h : s.doneNode q = some t) :
    ∃ b i, s.app = some (b, i) ∧ t = ({ s with app := none }.bufDone b q).2 := by
  simp only [doneNode] at h
  split at h
  · simp only [Option.ite_none_right_eq_some, Option.some.injEq] at h
    exact ⟨_, _, by assumption, h.2.symm⟩
  · simp at h

theorem release_some {d : Holder} {b : Nat} (h : s.release d b q = some t) :
    (d, b) ∈ s.out ∧
      ((s.state = .active ∧ t = ({ s with out := s.out.erase (d, b) }.bufDone b q).2) ∨
      (s.state ≠ .active ∧ t = { s with out := s.out.erase (d, b) })) := by
  simp only [release, Option.ite_none_right_eq_some, Option.some.injEq] at h
  obtain ⟨hm, rfl⟩ := h
  refine ⟨hm, ?_⟩
  split
  · exact Or.inl ⟨by assumption, rfl⟩
  · exact Or.inr ⟨by assumption, rfl⟩

theorem regBufCb_some {c : StreamDataCb} (h : s.regBufCb c = some t) :
    s.app = none ∧ ∃ cbs, t = { s with bufCb := cbs } := by
  simp only [regBufCb, Option.ite_none_right_eq_some, Option.some.injEq] at h
  exact ⟨h.1, _, h.2.symm⟩

end StreamObj

open StreamObj

structure Frame (s t : StreamObj) : Prop where
  state : t.state = s.state
  ctl : t.ctl = s.ctl
  bufNum : t.bufNum = s.bufNum
  isBundled : t.isBundled = s.isBundled
  cmdActive : t.cmdActive = s.cmdActive

theorem Frame.refl (s : StreamObj) : Frame s s := ⟨rfl, rfl, rfl, rfl, rfl⟩

theorem bufDone_frame {u : StreamObj} (b : Nat) (q : QbufRc) (h : Frame s u) :
    Frame s (u.bufDone b q).2 := by
  obtain ⟨h1, h2, h3, h4, h5⟩ := h
  obtain ⟨-, ht⟩ | ⟨-, ht⟩ | ⟨-, -, -, ht⟩ | ⟨-, -, ht | ht⟩ := bufDone_cases b q u
  · rw [ht]
    exact ⟨h1, h2, h3, h4, h5⟩
  · rw [ht]
    exact ⟨h1, h2, h3, h4, h5⟩
  · rw [ht, requeue_eq]
    exact ⟨h1, h2, h3, h4, h5⟩
  · rw [ht]
    exact ⟨h1, h2, h3, h4, h5⟩
  · rw [ht]
    exact ⟨h1, h2, h3, h4, h5⟩

@[simp] theorem bufDone_poll (b : Nat) (q : QbufRc) (s : StreamObj) :
    (s.bufDone b q).2.poll = s.poll := by
  obtain ⟨-, ht⟩ | ⟨-, ht⟩ | ⟨-, -, -, ht⟩ | ⟨-, -, ht | ht⟩ := bufDone_cases b q s
  · rw [ht]
  · rw [ht]
    rfl
  · rw [ht, requeue_eq]
  · rw [ht]
    rfl
  · rw [ht]
    rfl

end Wt88047.Stream
