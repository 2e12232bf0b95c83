import Wt88047.Gps.LocTimer

/-! How the kernel timer of a container follows its soonest timer. -/

namespace Wt88047.Loc

open PriorityQueue

namespace TimerState

def Disarmed (s : TimerState) (c : ContainerId) : Prop :=
  (s.container c).itValue = none ∧ (s.container c).expired = false ∨
    c ∈ if s.expireStage = .disarm then s.ready else s.ready.tail

def Unpolled (s : TimerState) (c : ContainerId) : Prop :=
  (s.container c).polled = false ∨ c ∈ if s.expireStage = .sendMsg then s.ready.tail else s.ready

instance (s : TimerState) (c : ContainerId) : Decidable (s.Disarmed c) :=
  inferInstanceAs (Decidable (_ ∨ _))

instance (s : TimerState) (c : ContainerId) : Decidable (s.Unpolled c) :=
  inferInstanceAs (Decidable (_ ∨ _))

def Announced (s : TimerState) (c : ContainerId) : Prop :=
  c ∈ s.ready ∨ .timerExpire c ∈ s.msgQ

def Armed (s : TimerState) (c : ContainerId) (t : Timespec) : Prop :=
  s.proc = .settime c (some t) ∨ (∀ v, s.proc ≠ .settime c v) ∧
    ((s.container c).itValue = some t ∨ (s.container c).expired = true)

def Kept (s : TimerState) (c : ContainerId) : Prop :=
  match s.getSoonestTimer c with
  | some top => s.Announced c ∨ (s.container c).polled = true ∧ s.Armed c top.mFutureTime
  | none => s.Disarmed c ∧ s.Unpolled c ∧ ∀ t, s.proc ≠ .settime c (some t)

def Popping (s : TimerState) (c : ContainerId) : Prop :=
  match s.proc with
  | .expiring c' _ _ | .stopping c' _ _ _ => c' = c
  | .waiting | .settime .. => False

def Tracked (s : TimerState) (c : ContainerId) : Prop := s.Popping c ∨ s.Kept c

/-- The container whose heap this step of the message task finds empty after it took something out,
so that `updateSoonestTime(NULL)` does nothing. -/
def emptied (s : TimerState) : Option ContainerId :=
  match s.proc with
  | .waiting =>
    match s.msgQ with
    | .timerRemove t :: _ =>
      let r := (s.container t.container).heap.remove t
      if r.1.isSome ∧ r.2.peek = none then some t.container else none
    | _ => none
  | .settime .. => none
  | .expiring c _ timer =>
    if s.mClient timer.address = none ∧ s.getSoonestTimer c = none then some c else none
  | .stopping c .. => if s.getSoonestTimer c = none then some c else none

def Settled (s : TimerState) : TimerEvent → Prop
  | .runMsgTask => ∀ c ∈ s.emptied, s.Disarmed c ∧ s.Unpolled c
  | _ => True

instance (s : TimerState) : (e : TimerEvent) → Decidable (s.Settled e)
  | .runMsgTask => inferInstanceAs (Decidable (∀ c ∈ s.emptied, s.Disarmed c ∧ s.Unpolled c))
  | .clock _ | .start .. | .stop _ | .kernelExpire _ | .epollWait _ | .runPollTask => isTrue trivial

variable {d : ContainerId} {now : Timespec}

section Frames

variable {s u : TimerState} {c : ContainerId}

theorem Kept.congr (h : s.Kept c) (hc : u.container c = s.container c) (hr : u.ready = s.ready)
    (hst : u.expireStage = s.expireStage)
    (hq : .timerExpire c ∈ s.msgQ → .timerExpire c ∈ u.msgQ)
    (hp : ∀ v, u.proc = .settime c v ↔ s.proc = .settime c v) : u.Kept c := by
  have htop : u.getSoonestTimer c = s.getSoonestTimer c := by rw [getSoonestTimer, hc]; rfl
  unfold Kept at *
  rw [htop]
  cases hs : s.getSoonestTimer c with
  | none =>
    rw [hs] at h
    obtain ⟨hd, hu, hn⟩ := h
    unfold Disarmed Unpolled at *
    refine ⟨by rwa [hc, hr, hst], by rwa [hc, hr, hst], fun t ht => hn t ((hp _).mp ht)⟩
  | some top =>
    rw [hs] at h
    rcases h with (h | h) | ⟨hpoll, h⟩
    · exact Or.inl (Or.inl (by rwa [hr]))
    · exact Or.inl (Or.inr (hq h))
    · refine Or.inr ⟨by rwa [hc], ?_⟩
      rcases h with h | ⟨hn, h⟩
      · exact Or.inl ((hp _).mpr h)
      · exact Or.inr ⟨fun v hv => hn v ((hp v).mp hv), by rwa [hc]⟩

theorem Kept.not_settime (hp : ∀ v, s.proc ≠ .settime c v) (hp' : ∀ v, u.proc ≠ .settime c v) :
    ∀ v, u.proc = .settime c v ↔ s.proc = .settime c v :=
  fun v => ⟨fun h => absurd h (hp' v), fun h => absurd h (hp v)⟩

@[simp] theorem setContainer_same (x : LocTimerContainer) :
    (s.setContainer c x).container c = x := Function.update_self ..

theorem setContainer_ne (x : LocTimerContainer) (h : d ≠ c) :
    (s.setContainer c x).container d = s.container d := Function.update_of_ne h ..

@[simp] theorem setHeap_soonest (heap : LocHeap LocTimerDelegate) :
    (s.setHeap c heap).getSoonestTimer c = heap.peek := by
  simp [getSoonestTimer, setHeap]

theorem setHeap_kernel (heap : LocHeap LocTimerDelegate) :
    ((s.setHeap c heap).Disarmed c ↔ s.Disarmed c) ∧
      ((s.setHeap c heap).Unpolled c ↔ s.Unpolled c) := by
  have hc : (s.setHeap c heap).container c = { s.container c with heap := heap } :=
    setContainer_same ..
  unfold Disarmed Unpolled
  rw [hc]
  exact ⟨Iff.rfl, Iff.rfl⟩

theorem updateSoonestTime_frame (priorTop : Option LocTimerDelegate) (s : TimerState) :
    let u := s.updateSoonestTime c priorTop
    (∀ d, d ≠ c → u.container d = s.container d) ∧ u.ready = s.ready ∧
      u.expireStage = s.expireStage ∧ u.msgQ = s.msgQ ∧
      (∀ d, d ≠ c → ∀ v, u.proc ≠ .settime d v) := by
  unfold updateSoonestTime
  split_ifs
  · split
    · exact ⟨fun d hd => setContainer_ne _ hd, rfl, rfl, rfl, by simp; tauto⟩
    · split_ifs
      · exact ⟨fun d hd => setContainer_ne _ hd, rfl, rfl, rfl, by simp; tauto⟩
      · exact ⟨fun d hd => rfl, rfl, rfl, rfl, by simp⟩
  · exact ⟨fun d hd => rfl, rfl, rfl, rfl, by simp⟩

theorem updateSoonestTime_same {priorTop : Option LocTimerDelegate}
    (h : s.getSoonestTimer c = priorTop) :
    s.updateSoonestTime c priorTop = { s with proc := .waiting } := by
  simp [updateSoonestTime, h]

theorem updateSoonestTime_armed {priorTop : Option LocTimerDelegate} {top : LocTimerDelegate}
    (h : s.getSoonestTimer c = some top) (hne : priorTop ≠ some top)
    (hall : ∀ prior ∈ priorTop, outRanks top prior = true) :
    (s.updateSoonestTime c priorTop).Kept c := by
  have hall' : priorTop.all (fun prior => outRanks top prior) = true := by
    cases priorTop with
    | none => rfl
    | some prior => exact hall prior rfl
  have hu : s.updateSoonestTime c priorTop =
      { s.addPoll c with proc := .settime c (some top.mFutureTime) } := by
    have hne' : s.getSoonestTimer c ≠ priorTop := fun he => hne (he.symm.trans h)
    unfold updateSoonestTime
    rw [if_pos hne']
    simp only [h, hall', if_true]
  have htop : (s.updateSoonestTime c priorTop).getSoonestTimer c = some top := by
    rw [hu]
    simpa [getSoonestTimer, addPoll] using h
  unfold Kept
  rw [htop, hu]
  exact Or.inr ⟨by simp [addPoll], Or.inl rfl⟩

theorem updateNull_kept (h : s.getSoonestTimer c = none → s.Disarmed c ∧ s.Unpolled c) :
    (s.updateSoonestTime c none).Kept c := by
  cases htop : s.getSoonestTimer c with
  | some top => exact updateSoonestTime_armed htop (by simp) (by simp)
  | none =>
    obtain ⟨hd, hu⟩ := h htop
    rw [updateSoonestTime_same htop]
    unfold Kept
    have htop' : ({ s with proc := .waiting } : TimerState).getSoonestTimer c = none := htop
    rw [htop']
    exact ⟨hd, hu, by simp⟩

theorem nextTimer_tracked {popped : Option LocTimerDelegate × LocHeap LocTimerDelegate}
    (h : popped.1 = none → popped.2.peek = none → s.Disarmed c ∧ s.Unpolled c) :
    (s.nextTimer c now popped).Tracked c := by
  cases hp : popped.1 with
  | some t =>
    simp only [nextTimer, hp]
    exact Or.inl rfl
  | none =>
    simp only [nextTimer, hp]
    refine Or.inr (updateNull_kept fun htop => ?_)
    rw [setHeap_soonest] at htop
    obtain ⟨hd, hu⟩ := h hp htop
    exact ⟨(setHeap_kernel _).1.mpr hd, (setHeap_kernel _).2.mpr hu⟩

theorem nextTimer_frame (hd : d ≠ c) (now : Timespec)
    (popped : Option LocTimerDelegate × LocHeap LocTimerDelegate) (s : TimerState) :
    let u := s.nextTimer c now popped
    u.container d = s.container d ∧ u.ready = s.ready ∧ u.expireStage = s.expireStage ∧
      u.msgQ = s.msgQ ∧ ∀ v, u.proc ≠ .settime d v := by
  cases hp : popped.1 with
  | some t =>
    simp only [nextTimer, hp]
    exact ⟨setContainer_ne _ hd, rfl, rfl, rfl, by simp⟩
  | none =>
    simp only [nextTimer, hp]
    obtain ⟨h1, h2, h3, h4, h5⟩ := updateSoonestTime_frame (c := c) none (s.setHeap c popped.2)
    exact ⟨(h1 d hd).trans (setContainer_ne _ hd), h2, h3, h4, h5 d hd⟩

theorem push_kept (hs : s.proc = .waiting) (h : s.Kept c) (t : LocTimerDelegate) :
    ((s.setHeap c ((s.container c).heap.push t)).updateSoonestTime c
      (s.getSoonestTimer c)).Kept c := by
  have htop := LocHeapNode.mData_push t (s.container c).heap.mTree
  rcases htop with ⟨htop, hall⟩ | ⟨htop, top, hmem, -⟩
  · refine updateSoonestTime_armed ((setHeap_soonest _).trans htop) (fun he => ?_) hall
    have hself := hall t he
    rw [LocHeapNode.not_outRanks_self] at hself
    cases hself
  · have hsame : (s.setHeap c ((s.container c).heap.push t)).getSoonestTimer c =
        s.getSoonestTimer c := (setHeap_soonest _).trans htop
    rw [updateSoonestTime_same hsame]
    have hold : s.getSoonestTimer c = some top := hmem
    have hnew : ({ s.setHeap c ((s.container c).heap.push t) with proc := .waiting }
        : TimerState).getSoonestTimer c = some top := hsame.trans hold
    unfold Kept at h ⊢
    rw [hold] at h
    rw [hnew]
    rcases h with h | ⟨hpoll, h⟩
    · exact Or.inl h
    · refine Or.inr ⟨by simpa [setHeap] using hpoll, ?_⟩
      rcases h with h | ⟨-, h⟩
      · rw [hs] at h
        cases h
      · exact Or.inr ⟨by simp, by simpa [setHeap] using h⟩

theorem remove_kept (hs : s.proc = .waiting) (h : s.Kept c) (t : LocTimerDelegate)
    (hlast : ((s.container c).heap.remove t).1.isSome = true →
      ((s.container c).heap.remove t).2.peek = none → s.Disarmed c ∧ s.Unpolled c) :
    let r := (s.container c).heap.remove t
    (if s.getSoonestTimer c = r.1 then (s.setHeap c r.2).updateSoonestTime c none
      else s.setHeap c r.2).Kept c := by
  intro r
  have hproc : ∀ v, s.proc ≠ .settime c v := by simp [hs]
  have hsettled : s.getSoonestTimer c = none → s.Disarmed c ∧ s.Unpolled c := by
    intro hnone
    unfold Kept at h
    rw [hnone] at h
    exact ⟨h.1, h.2.1⟩
  split_ifs with htop
  · refine updateNull_kept fun hnone => ?_
    rw [setHeap_soonest] at hnone
    have hboth : s.Disarmed c ∧ s.Unpolled c := by
      cases hr : r.1 with
      | none => exact hsettled (htop.trans hr)
      | some x => exact hlast (by rw [hr]; rfl) hnone
    exact ⟨(setHeap_kernel _).1.mpr hboth.1, (setHeap_kernel _).2.mpr hboth.2⟩
  · -- the top stays, whether the timer was found or not
    have hkeep : r.2.peek = s.getSoonestTimer c := by
      rcases LocHeapNode.remove_spec t (s.container c).heap.mTree with ⟨-, h2⟩ | ⟨h1, -⟩
      · exact congrArg LocHeapNode.mData h2
      · cases hold : s.getSoonestTimer c with
        | none =>
          have hzero := LocHeap.peek_none.mp hold
          have hsome : r.1 = some t := h1
          have hspec := LocHeapNode.remove_spec t (s.container c).heap.mTree
          rcases hspec with ⟨hn, -⟩ | ⟨-, hcons⟩
          · rw [hn] at h1
            cases h1
          · have hne := congrArg Multiset.card (hcons.trans hzero)
            simp at hne
        | some top =>
          have hne : t ≠ top := fun he => htop (by rw [hold, ← he]; exact h1.symm)
          exact LocHeapNode.mData_remove hold hne
    have hsame : (s.setHeap c r.2).getSoonestTimer c = s.getSoonestTimer c :=
      (setHeap_soonest _).trans hkeep
    unfold Kept at h ⊢
    rw [hsame]
    cases hold : s.getSoonestTimer c with
    | none =>
      rw [hold] at h
      exact ⟨(setHeap_kernel _).1.mpr h.1, (setHeap_kernel _).2.mpr h.2.1, h.2.2⟩
    | some top =>
      rw [hold] at h
      rcases h with h | ⟨hpoll, h⟩
      · exact Or.inl h
      · refine Or.inr ⟨by simpa [setHeap] using hpoll, ?_⟩
        rcases h with h | ⟨hn, h⟩
        · exact absurd h (hproc _)
        · exact Or.inr ⟨hn, by simpa [setHeap] using h⟩

end Frames

theorem popIfOutRanks_empty {heap : LocHeap LocTimerDelegate}
    (hpop : (popIfOutRanks now heap).1 = none) (hnone : (popIfOutRanks now heap).2.peek = none) :
    heap.peek = none := by
  cases hp : heap.peek with
  | none => rfl
  | some top =>
    cases hr : outRanks (.ofNow now) top with
    | true => simp [popIfOutRanks, hp, hr] at hnone
    | false => simp [popIfOutRanks, hp, hr, LocHeap.pop_peek] at hpop

theorem Tracked.kept {s : TimerState} {c : ContainerId} (h : s.Tracked c)
    (hp : ¬ s.Popping c) : s.Kept c := h.resolve_left hp

theorem procMsg_tracked {s : TimerState} {msg : LocMsg} {rest : List LocMsg} (c : ContainerId)
    (hs : s.proc = .waiting) (hq : s.msgQ = msg :: rest) (hkept : s.Kept c)
    (hp : s.Settled .runMsgTask) : (procMsg msg { s with msgQ := rest }).Tracked c := by
  let s' : TimerState := { s with msgQ := rest }
  have hs' : s'.proc = .waiting := hs
  have hkept' : (∀ d, msg = .timerExpire d → d ≠ c) → s'.Kept c := by
    intro hmsg
    refine hkept.congr rfl rfl rfl (fun hm => ?_) (fun v => Iff.rfl)
    rw [hq] at hm
    rcases List.mem_cons.mp hm with he | he
    · exact absurd rfl (hmsg c he.symm)
    · exact he
  have hframe : ∀ d, d ≠ c → ∀ prior heap, s'.Kept c →
      ((s'.setHeap d heap).updateSoonestTime d prior).Kept c := by
    intro d hd prior heap hk
    obtain ⟨h1, h2, h3, h4, h5⟩ := updateSoonestTime_frame (c := d) prior (s'.setHeap d heap)
    exact hk.congr ((h1 c hd.symm).trans (setContainer_ne _ hd.symm)) h2 h3
      (fun hm => h4 ▸ hm) (Kept.not_settime (by simp [hs']) (h5 c hd.symm))
  cases msg with
  | timerPush t =>
    right
    by_cases hc : t.container = c
    · subst hc
      exact push_kept hs' (hkept' (by simp)) t
    · exact hframe _ hc _ _ (hkept' (by simp))
  | timerRemove t =>
    right
    by_cases hc : t.container = c
    · subst hc
      refine remove_kept hs' (hkept' (by simp)) t fun hsome hnone => ?_
      have hemptied : t.container ∈ s.emptied := by
        simp only [emptied, hs, hq]
        exact if_pos ⟨hsome, hnone⟩
      exact hp t.container hemptied
    · have hk := hkept' (by simp)
      simp only [procMsg]
      split_ifs
      · exact hframe _ hc _ _ hk
      · exact hk.congr (setContainer_ne _ (Ne.symm hc)) rfl rfl id (fun v => Iff.rfl)
  | timerExpire d =>
    by_cases hc : d = c
    · subst hc
      refine nextTimer_tracked fun hnone _ => ?_
      rw [LocHeap.pop_peek] at hnone
      have hnone' : s.getSoonestTimer d = none := hnone
      unfold Kept at hkept
      rw [hnone'] at hkept
      exact ⟨hkept.1, hkept.2.1⟩
    · right
      obtain ⟨h1, h2, h3, h4, h5⟩ := nextTimer_frame (Ne.symm hc) s'.now
        (s'.container d).heap.pop s'
      refine (hkept' (by simpa using hc)).congr h1 h2 h3 (fun hm => h4 ▸ hm) ?_
      exact Kept.not_settime (by simp [hs']) h5

theorem settime_tracked {s : TimerState} {v : Option Timespec} (c : ContainerId)
    (hs : s.proc = .settime d v) (hkept : s.Kept c) :
    ({ s.timerfdSettime d v with proc := .waiting } : TimerState).Kept c := by
  by_cases hc : d = c
  · subst hc
    have htop : ({ s.timerfdSettime d v with proc := .waiting } : TimerState).getSoonestTimer d =
        s.getSoonestTimer d := by simp [getSoonestTimer, timerfdSettime]
    unfold Kept at hkept ⊢
    rw [htop]
    cases hold : s.getSoonestTimer d with
    | none =>
      rw [hold] at hkept
      obtain ⟨-, hunpolled, hn⟩ := hkept
      have hv : v = none := by
        cases v with
        | none => rfl
        | some t => exact absurd hs (hn t)
      subst hv
      refine ⟨Or.inl (by simp [timerfdSettime]), ?_, by simp⟩
      rcases hunpolled with hunpolled | hunpolled
      · exact Or.inl (by simpa [timerfdSettime] using hunpolled)
      · exact Or.inr hunpolled
    | some top =>
      rw [hold] at hkept
      rcases hkept with hann | ⟨hpoll, harm⟩
      · exact Or.inl hann
      · refine Or.inr ⟨by simpa [timerfdSettime] using hpoll, Or.inr ⟨by simp, ?_⟩⟩
        rcases harm with harm | ⟨hn, -⟩
        · rw [hs] at harm
          cases harm
          exact Or.inl (by simp [timerfdSettime])
        · exact absurd hs (hn v)
  · refine hkept.congr (setContainer_ne _ (Ne.symm hc)) rfl rfl id ?_
    exact Kept.not_settime (by simp [hs, hc]) (by simp)

theorem turn_tracked {s t : TimerState} (c : ContainerId) (hloop : ∀ v, s.proc ≠ .settime c v)
    (hcont : t.container = s.container) (hready : t.ready = s.ready)
    (hstage : t.expireStage = s.expireStage) (hq : ∀ m ∈ s.msgQ, m ∈ t.msgQ)
    (hkept : d ≠ c → s.Kept c) (hlast : s.getSoonestTimer d = none → s.Disarmed d ∧ s.Unpolled d) :
    (t.nextTimer d now (popIfOutRanks now (s.container d).heap)).Tracked c := by
  by_cases hc : d = c
  · subst hc
    refine nextTimer_tracked fun hpop hnone => ?_
    have hboth := hlast (popIfOutRanks_empty hpop hnone)
    unfold Disarmed Unpolled at *
    rw [hcont, hready, hstage]
    exact hboth
  · right
    obtain ⟨h1, h2, h3, h4, h5⟩ := nextTimer_frame (Ne.symm hc) now
      (popIfOutRanks now (s.container d).heap) t
    refine (hkept hc).congr (h1.trans (congrFun hcont c)) (h2.trans hready) (h3.trans hstage)
      (fun hm => h4 ▸ hq _ hm) (Kept.not_settime hloop h5)

theorem runMsgTask_tracked {s u : TimerState} (c : ContainerId) (h : s.Tracked c)
    (hp : s.Settled .runMsgTask) (hu : s.runMsgTask = some u) : u.Tracked c := by
  cases hs : s.proc with
  | waiting =>
    cases hq : s.msgQ with
    | nil => simp [runMsgTask, hs, hq] at hu
    | cons msg rest =>
      rw [runMsgTask_waiting hs hq, Option.some.injEq] at hu
      subst hu
      exact procMsg_tracked c hs hq (h.kept (by simp [Popping, hs])) hp
  | settime d v =>
    simp only [runMsgTask, hs, Option.some.injEq] at hu
    subst hu
    exact Or.inr (settime_tracked c hs (h.kept (by simp [Popping, hs])))
  | expiring d now timer =>
    cases hm : s.mClient timer.address with
    | some client =>
      simp only [runMsgTask, hs, hm, Option.some.injEq] at hu
      subst hu
      rcases h with h | h
      · simp only [Popping, hs] at h
        exact Or.inl h
      · right
        exact h.congr rfl rfl rfl id (Kept.not_settime (by simp [hs]) (by simp))
    | none =>
      simp only [runMsgTask, hs, hm, Option.some.injEq] at hu
      subst hu
      refine turn_tracked c (by simp [hs]) rfl rfl rfl (fun m hm => hm)
        (fun hc => h.kept (by simp [Popping, hs, hc])) fun hnone => hp d ?_
      simp only [emptied, hs]
      exact if_pos ⟨hm, hnone⟩
  | stopping d now timer client =>
    have hlast : s.getSoonestTimer d = none → s.Disarmed d ∧ s.Unpolled d := fun hnone => by
      refine hp d ?_
      simp only [emptied, hs]
      exact if_pos hnone
    have hkept : d ≠ c → s.Kept c := fun hc => h.kept (by simp [Popping, hs, hc])
    cases hm : s.mTimer client with
    | none =>
      simp only [runMsgTask, hs, hm, Option.some.injEq] at hu
      subst hu
      have hstop : s.stop client = s := by simp [stop, hm]
      rw [hstop]
      exact turn_tracked c (by simp [hs]) rfl rfl rfl (fun m hm => hm) hkept hlast
    | some t =>
      simp only [runMsgTask, hs, hm, Option.some.injEq] at hu
      subst hu
      have hstop : s.stop client = sendMsg (.timerRemove t) { s with
          mTimer := Function.update s.mTimer client none
          mClient := Function.update s.mClient t.address none } := by simp [stop, hm]
      rw [hstop]
      exact turn_tracked c (by simp [hs]) rfl rfl rfl
        (fun m hm => List.mem_append_left _ hm) hkept hlast

theorem Tracked.queued {s u : TimerState} {c : ContainerId} (h : s.Tracked c)
    (hproc : u.proc = s.proc) (hcont : u.container = s.container) (hready : u.ready = s.ready)
    (hstage : u.expireStage = s.expireStage) (hq : ∀ m ∈ s.msgQ, m ∈ u.msgQ) : u.Tracked c := by
  rcases h with h | h
  · left
    unfold Popping at *
    rwa [hproc]
  · right
    exact h.congr (congrFun hcont c) hready hstage (hq _) (fun v => by rw [hproc])

theorem kernelExpire_tracked {s u : TimerState} (c : ContainerId) (h : s.Tracked c)
    (hu : s.kernelExpire d = some u) : u.Tracked c := by
  cases hv : (s.container d).itValue with
  | none => simp [kernelExpire, hv] at hu
  | some t =>
    simp only [kernelExpire, hv, Option.ite_none_right_eq_some, Option.some.injEq] at hu
    obtain ⟨-, rfl⟩ := hu
    rcases h with h | h
    · exact Or.inl h
    · right
      by_cases hc : d = c
      · subst hc
        have htop : (s.setContainer d { s.container d with
            itValue := none, expired := true }).getSoonestTimer d = s.getSoonestTimer d := by
          simp [getSoonestTimer]
        unfold Kept at h ⊢
        rw [htop]
        cases hold : s.getSoonestTimer d with
        | none =>
          rw [hold] at h
          obtain ⟨hd, hunpolled, hn⟩ := h
          refine ⟨?_, ?_, hn⟩
          · rcases hd with ⟨hd, -⟩ | hd
            · rw [hd] at hv
              cases hv
            · exact Or.inr hd
          · rcases hunpolled with hunpolled | hunpolled
            · exact Or.inl (by simpa using hunpolled)
            · exact Or.inr hunpolled
        | some top =>
          rw [hold] at h
          rcases h with hann | ⟨hpoll, harm⟩
          · exact Or.inl hann
          · refine Or.inr ⟨by simpa using hpoll, ?_⟩
            rcases harm with harm | ⟨hn, -⟩
            · exact Or.inl harm
            · exact Or.inr ⟨hn, Or.inr (by simp)⟩
      · exact h.congr (setContainer_ne _ (Ne.symm hc)) rfl rfl id (fun v => Iff.rfl)

theorem epollWait_tracked {s u : TimerState} {first : ContainerId} (c : ContainerId)
    (h : s.Tracked c) (hu : s.epollWait first = some u) : u.Tracked c := by
  simp only [epollWait, Option.ite_none_right_eq_some, Option.some.injEq] at hu
  obtain ⟨⟨hready, -⟩, rfl⟩ := hu
  rcases h with h | h
  · exact Or.inl h
  · right
    unfold Kept at *
    cases hold : s.getSoonestTimer c with
    | none =>
      rw [hold] at h
      obtain ⟨hd, hunpolled, hn⟩ := h
      have hd' : (s.container c).itValue = none ∧ (s.container c).expired = false := by
        simpa [Disarmed, hready] using hd
      have hunpolled' : (s.container c).polled = false := by
        simpa [Unpolled, hready] using hunpolled
      simp only [show ∀ l, ({ s with ready := l } : TimerState).getSoonestTimer c =
        s.getSoonestTimer c from fun _ => rfl, hold]
      exact ⟨Or.inl hd', Or.inl hunpolled', hn⟩
    | some top =>
      rw [hold] at h
      simp only [show ∀ l, ({ s with ready := l } : TimerState).getSoonestTimer c =
        s.getSoonestTimer c from fun _ => rfl, hold]
      rcases h with (hann | hann) | h
      · rw [hready] at hann
        cases hann
      · exact Or.inl (Or.inr hann)
      · exact Or.inr h

theorem Kept.polling {s u : TimerState} {c : ContainerId} (h : s.Kept c)
    (hproc : u.proc = s.proc) (htop : u.getSoonestTimer c = s.getSoonestTimer c)
    (hann : s.Announced c → u.Announced c)
    (hsame : s.Announced c ∨ u.container c = s.container c)
    (hd : s.Disarmed c → u.Disarmed c) (hu : s.Unpolled c → u.Unpolled c) : u.Kept c := by
  unfold Kept at *
  rw [htop]
  cases hold : s.getSoonestTimer c with
  | none =>
    rw [hold] at h
    exact ⟨hd h.1, hu h.2.1, by rw [hproc]; exact h.2.2⟩
  | some top =>
    rw [hold] at h
    rcases h with h | h
    · exact Or.inl (hann h)
    · rcases hsame with hs | hs
      · exact Or.inl (hann hs)
      · unfold Armed at *
        rw [hproc, hs]
        exact Or.inr h

theorem runPollTask_tracked {s u : TimerState} (c : ContainerId) (h : s.Tracked c)
    (hu : s.runPollTask = some u) : u.Tracked c := by
  cases hready : s.ready with
  | nil => simp [runPollTask, hready] at hu
  | cons d rest =>
    have hproc : u.proc = s.proc := by
      simp only [runPollTask, hready] at hu
      split at hu <;> cases hu <;> rfl
    rcases h with h | h
    · left
      unfold Popping at *
      rwa [hproc]
    right
    cases hstage : s.expireStage with
    | disarm =>
      simp only [runPollTask, hready, hstage, Option.some.injEq] at hu
      subst hu
      refine h.polling rfl ?_ id ?_ (fun hd => ?_) (fun hn => ?_)
      · by_cases hc : c = d
        · subst hc
          simp [getSoonestTimer, timerfdSettime]
        · exact congrArg (fun x => x.heap.peek) (setContainer_ne _ hc)
      · by_cases hc : c = d
        · exact Or.inl (Or.inl (by simp [hready, hc]))
        · exact Or.inr (setContainer_ne _ hc)
      · by_cases hc : c = d
        · subst hc
          exact Or.inl (by simp [timerfdSettime])
        · rcases hd with hd | hd
          · exact Or.inl (by simpa [timerfdSettime, setContainer_ne _ hc] using hd)
          · simp only [hstage, if_true, hready, List.mem_cons, hc, false_or] at hd
            exact Or.inr (by simpa [timerfdSettime, setContainer, hready] using hd)
      · rcases hn with hn | hn
        · left
          by_cases hc : c = d
          · subst hc
            simpa [timerfdSettime] using hn
          · simpa [timerfdSettime, setContainer_ne _ hc] using hn
        · simp only [hstage, hready, reduceCtorEq, if_false] at hn
          exact Or.inr (by simpa [timerfdSettime, setContainer, hready] using hn)
    | removePoll =>
      simp only [runPollTask, hready, hstage, Option.some.injEq] at hu
      subst hu
      refine h.polling rfl ?_ id ?_ (fun hd => ?_) (fun hn => ?_)
      · by_cases hc : c = d
        · subst hc
          simp [getSoonestTimer, removePoll]
        · exact congrArg (fun x => x.heap.peek) (setContainer_ne _ hc)
      · by_cases hc : c = d
        · exact Or.inl (Or.inl (by simp [hready, hc]))
        · exact Or.inr (setContainer_ne _ hc)
      · rcases hd with hd | hd
        · left
          by_cases hc : c = d
          · subst hc
            simpa [removePoll] using hd
          · simpa [removePoll, setContainer_ne _ hc] using hd
        · simp only [hstage, hready, reduceCtorEq, if_false] at hd
          exact Or.inr (by simpa [removePoll, setContainer, hready] using hd)
      · by_cases hc : c = d
        · subst hc
          exact Or.inl (by simp [removePoll])
        · rcases hn with hn | hn
          · exact Or.inl (by simpa [removePoll, setContainer_ne _ hc] using hn)
          · simp only [hstage, reduceCtorEq, if_false, hready, List.mem_cons, hc, false_or] at hn
            exact Or.inr (by simpa [removePoll, setContainer, hready] using hn)
    | sendMsg =>
      simp only [runPollTask, hready, hstage, Option.some.injEq] at hu
      subst hu
      refine h.polling rfl rfl (fun hann => ?_) (Or.inr rfl) (fun hd => ?_) (fun hn => ?_)
      · rcases hann with hann | hann
        · rw [hready] at hann
          rcases List.mem_cons.mp hann with rfl | hann
          · exact Or.inr (List.mem_append_right _ (List.mem_singleton_self _))
          · exact Or.inl hann
        · exact Or.inr (List.mem_append_left _ hann)
      · rcases hd with hd | hd
        · exact Or.inl hd
        · simp only [hstage, hready, reduceCtorEq, if_false] at hd
          exact Or.inr (by simpa using hd)
      · rcases hn with hn | hn
        · exact Or.inl hn
        · simp only [hstage, if_true, hready] at hn
          exact Or.inr (by simpa using hn)

theorem step_tracked {s u : TimerState} {e : TimerEvent} (c : ContainerId) (h : s.Tracked c)
    (hp : s.Settled e) (hu : s.step e = some u) : u.Tracked c := by
  cases e with
  | clock now =>
    simp only [step, Option.ite_none_right_eq_some, Option.some.injEq] at hu
    obtain ⟨-, rfl⟩ := hu
    exact h.queued rfl rfl rfl rfl (fun m hm => hm)
  | start client timeOutInMs wakeOnExpire =>
    simp only [step, Option.some.injEq] at hu
    subst hu
    unfold start
    split
    · exact h
    · exact h.queued rfl rfl rfl rfl (fun m hm => List.mem_append_left _ hm)
  | stop client =>
    simp only [step, Option.some.injEq] at hu
    subst hu
    unfold stop
    split
    · exact h
    · exact h.queued rfl rfl rfl rfl (fun m hm => List.mem_append_left _ hm)
  | kernelExpire d => exact kernelExpire_tracked c h hu
  | epollWait first => exact epollWait_tracked c h hu
  | runPollTask => exact runPollTask_tracked c h hu
  | runMsgTask => exact runMsgTask_tracked c h hp hu

def HeapsKept (s : TimerState) : Prop := ∀ c, (s.container c).heap.WellFormed

theorem HeapsKept.setContainer {s : TimerState} {c : ContainerId} {x : LocTimerContainer}
    (h : s.HeapsKept) (hx : x.heap.WellFormed) : (s.setContainer c x).HeapsKept := by
  intro d
  by_cases hc : d = c
  · subst hc
    rw [setContainer_same]
    exact hx
  · rw [setContainer_ne _ hc]
    exact h d

theorem updateSoonestTime_heaps {s : TimerState} (h : s.HeapsKept) (c : ContainerId)
    (priorTop : Option LocTimerDelegate) : (s.updateSoonestTime c priorTop).HeapsKept := by
  unfold updateSoonestTime
  split_ifs
  · split
    · exact h.setContainer (x := { s.container c with polled := false }) (h c)
    · split_ifs
      · exact h.setContainer (x := { s.container c with polled := true }) (h c)
      · exact h
  · exact h

theorem popIfOutRanks_wellFormed {heap : LocHeap LocTimerDelegate} (h : heap.WellFormed)
    (now : Timespec) : (popIfOutRanks now heap).2.WellFormed := by
  unfold popIfOutRanks
  split
  · split_ifs
    · exact (LocHeap.pop_refines h).1
    · exact h
  · exact h

theorem nextTimer_heaps {s : TimerState} {c : ContainerId}
    {popped : Option LocTimerDelegate × LocHeap LocTimerDelegate} (h : s.HeapsKept)
    (hp : popped.2.WellFormed) : (s.nextTimer c now popped).HeapsKept := by
  have hset : (s.setHeap c popped.2).HeapsKept :=
    h.setContainer (x := { s.container c with heap := popped.2 }) hp
  unfold nextTimer
  split
  · exact hset
  · exact updateSoonestTime_heaps hset c none

theorem runMsgTask_heaps {s u : TimerState} (h : s.HeapsKept) (hu : s.runMsgTask = some u) :
    u.HeapsKept := by
  cases hs : s.proc with
  | waiting =>
    cases hq : s.msgQ with
    | nil => simp [runMsgTask, hs, hq] at hu
    | cons msg rest =>
      rw [runMsgTask_waiting hs hq, Option.some.injEq] at hu
      subst hu
      have h' : ({ s with msgQ := rest } : TimerState).HeapsKept := h
      cases msg with
      | timerPush t =>
        exact updateSoonestTime_heaps (h'.setContainer (c := t.container)
          (x := { s.container t.container with heap := (s.container t.container).heap.push t })
          (LocHeap.push_refines t (h t.container)).1) _ _
      | timerRemove t =>
        have hset := h'.setContainer (c := t.container)
          (x := { s.container t.container with
            heap := ((s.container t.container).heap.remove t).2 })
          (LocHeap.remove_refines t (h t.container)).1
        simp only [procMsg]
        split_ifs
        · exact updateSoonestTime_heaps hset _ _
        · exact hset
      | timerExpire c => exact nextTimer_heaps h' (LocHeap.pop_refines (h c)).1
  | settime c v =>
    simp only [runMsgTask, hs, Option.some.injEq] at hu
    subst hu
    exact h.setContainer (x := { s.container c with itValue := v, expired := false }) (h c)
  | expiring c now timer =>
    cases hm : s.mClient timer.address with
    | some client =>
      simp only [runMsgTask, hs, hm, Option.some.injEq] at hu
      subst hu
      exact h
    | none =>
      simp only [runMsgTask, hs, hm, Option.some.injEq] at hu
      subst hu
      exact nextTimer_heaps h (popIfOutRanks_wellFormed (h c) now)
  | stopping c now timer client =>
    have hstop : (s.stop client).HeapsKept := by
      unfold stop
      split <;> exact h
    simp only [runMsgTask, hs, Option.some.injEq] at hu
    subst hu
    split
    · exact nextTimer_heaps hstop (popIfOutRanks_wellFormed (h c) now)
    · exact nextTimer_heaps (s := { s.stop client with callbacks := _ }) hstop
        (popIfOutRanks_wellFormed (h c) now)

theorem step_heaps {s u : TimerState} {e : TimerEvent} (h : s.HeapsKept)
    (hu : s.step e = some u) : u.HeapsKept := by
  cases e with
  | clock now =>
    simp only [step, Option.ite_none_right_eq_some, Option.some.injEq] at hu
    obtain ⟨-, rfl⟩ := hu
    exact h
  | start client timeOutInMs wakeOnExpire =>
    simp only [step, Option.some.injEq] at hu
    subst hu
    unfold start
    split <;> exact h
  | stop client =>
    simp only [step, Option.some.injEq] at hu
    subst hu
    unfold stop
    split <;> exact h
  | kernelExpire c =>
    simp only [step, kernelExpire] at hu
    split at hu
    · split_ifs at hu
      cases hu
      exact h.setContainer (x := { s.container c with itValue := none, expired := true }) (h c)
    · cases hu
  | epollWait first =>
    simp only [step, epollWait, Option.ite_none_right_eq_some, Option.some.injEq] at hu
    obtain ⟨-, rfl⟩ := hu
    exact h
  | runPollTask =>
    simp only [step, runPollTask] at hu
    split at hu
    · cases hu
    · next c rest _ =>
      split at hu <;> cases hu
      · exact h.setContainer (x := { s.container c with itValue := none, expired := false }) (h c)
      · exact h.setContainer (x := { s.container c with polled := false }) (h c)
      · exact h
  | runMsgTask => exact runMsgTask_heaps h hu

/-- Nothing is on its way to the container: no message, and no expiry that the poll thread could
see or has seen. -/
def Quiet (s : TimerState) (c : ContainerId) : Prop :=
  s.msgQ = [] ∧ s.proc = .waiting ∧ c ∉ s.ready ∧
    ¬((s.container c).polled = true ∧ (s.container c).expired = true)

def FollowsSoonest (s : TimerState) (c : ContainerId) : Prop :=
  (∀ top, s.getSoonestTimer c = some top →
    (∀ t ∈ (s.container c).heap.elems, top.mFutureTime ≤ t.mFutureTime) ∧
      (s.container c).itValue = some top.mFutureTime ∧ (s.container c).polled = true) ∧
    ((s.container c).heap.elems = 0 →
      (s.container c).itValue = none ∧ (s.container c).polled = false)

theorem kernel_tracks_soonest (now : Timespec) (es : List TimerEvent) (s : TimerState)
    (hp : Runs.Along step Settled (init now) es) (h : Runs.play step (init now) es = some s)
    (c : ContainerId) (hquiet : s.Quiet c) : s.FollowsSoonest c := by
  have hinv := Runs.play_invariant (I := fun s => s.Tracked c ∧ s.HeapsKept)
    (fun _ _ _ hs he ht => ⟨step_tracked c hs.1 he ht, step_heaps hs.2 ht⟩)
    ⟨Or.inr ⟨Or.inl ⟨rfl, rfl⟩, Or.inl rfl, by simp [init]⟩, fun _ => LocHeap.wellFormed_empty⟩ hp h
  obtain ⟨htracked, hheaps⟩ := hinv
  obtain ⟨hq, hproc, hready, hpending⟩ := hquiet
  have hkept := htracked.kept (by simp [Popping, hproc])
  unfold Kept at hkept
  constructor
  · intro top htop
    have hsoonest := (LocHeap.peek_isTop (hheaps c) htop).2
    refine ⟨fun t ht => LocTimerDelegate.atLeast_iff.mp (hsoonest t ht), ?_⟩
    rw [htop] at hkept
    rcases hkept with (hann | hann) | ⟨hpoll, harm⟩
    · exact absurd hann hready
    · rw [hq] at hann
      cases hann
    · refine ⟨?_, hpoll⟩
      rcases harm with harm | ⟨-, harm | harm⟩
      · rw [hproc] at harm
        cases harm
      · exact harm
      · exact absurd ⟨hpoll, harm⟩ hpending
  · intro hzero
    have htop : s.getSoonestTimer c = none := LocHeap.peek_none.mpr hzero
    rw [htop] at hkept
    obtain ⟨hd, hu, -⟩ := hkept
    have hnot : ∀ p : Prop, [Decidable p] → c ∉ if p then s.ready else s.ready.tail := by
      intro p _ hmem
      split_ifs at hmem
      · exact hready hmem
      · exact hready (List.mem_of_mem_tail hmem)
    constructor
    · rcases hd with hd | hd
      · exact hd.1
      · exact absurd hd (hnot _)
    · rcases hu with hu | hu
      · exact hu
      · split_ifs at hu
        · exact absurd (List.mem_of_mem_tail hu) hready
        · exact absurd hu hready

def onePushed : List TimerEvent := [.start 0 10 false, .runMsgTask, .runMsgTask]

theorem kernel_tracks_soonest_one : ∃ s : TimerState,
    (s.container .swTimers).itValue = some ⟨5, 10000000⟩ ∧
      (s.container .swTimers).polled = true :=
  ⟨_, ((kernel_tracks_soonest ⟨5, 0⟩ onePushed _ (by decide) rfl .swTimers
    ⟨rfl, rfl, by decide, by decide⟩).1 _ rfl).2⟩

/-- The only timer is stopped: `updateSoonestTime(NULL)` takes the empty heap for no change, and the
kernel timer stays armed for it. -/
theorem last_removed_stays_armed : ¬ ∀ (now : Timespec) (es : List TimerEvent) (s : TimerState),
    Runs.play step (init now) es = some s → ∀ c, s.Quiet c → s.FollowsSoonest c := by
  intro h
  have harmed := (h ⟨5, 0⟩ (onePushed ++ [TimerEvent.stop 0, .runMsgTask]) _ rfl .swTimers
    ⟨rfl, rfl, by decide, by decide⟩).2 rfl
  exact absurd harmed.1 (by decide)

end TimerState

end Wt88047.Loc
