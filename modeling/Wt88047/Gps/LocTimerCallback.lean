import Wt88047.Gps.LocTimer

/-! When the callbacks of timers are called, compared with their expiry times. -/

namespace Wt88047.Loc

open PriorityQueue

namespace TimerState

def InHandDue (s : TimerState) : Prop :=
  match s.proc with
  | .expiring _ now t | .stopping _ now t _ => t.mFutureTime ≤ now ∧ now ≤ s.now
  | .waiting | .settime .. => True

def CalledDue (s : TimerState) : Prop := ∀ cb ∈ s.callbacks, cb.timer.mFutureTime ≤ cb.time

/-- What `MsgTimerExpire` does not check by itself: the first timer it pops is due, and between the
reading of `mClient` and `stop` the client does not start another one. -/
def punctual (s : TimerState) : TimerEvent → Bool
  | .runMsgTask =>
    match s.proc with
    | .waiting =>
      match s.msgQ with
      | .timerExpire c :: _ => (s.getSoonestTimer c).all fun t => t.mFutureTime ≤ s.now
      | _ => true
    | .stopping _ _ timer client => (s.mTimer client).all (· = timer)
    | .settime .. | .expiring .. => true
  | _ => true

theorem popIfOutRanks_due {now : Timespec} {heap : LocHeap LocTimerDelegate}
    {t : LocTimerDelegate} (h : (popIfOutRanks now heap).1 = some t) : t.mFutureTime ≤ now := by
  cases hp : heap.peek with
  | none => simp [popIfOutRanks, hp] at h
  | some top =>
    cases hr : outRanks (.ofNow now) top with
    | true => simp [popIfOutRanks, hp, hr] at h
    | false =>
      simp only [popIfOutRanks, hp, hr, Bool.not_false, if_true, LocHeap.pop_peek] at h
      obtain rfl := Option.some.inj h
      exact LocTimerDelegate.outRanks_ofNow.mp hr

theorem updateSoonestTime_due (c : ContainerId) (priorTop : Option LocTimerDelegate)
    (s : TimerState) : (s.updateSoonestTime c priorTop).InHandDue ∧
      (s.updateSoonestTime c priorTop).callbacks = s.callbacks := by
  unfold updateSoonestTime
  split_ifs
  · split
    · exact ⟨trivial, rfl⟩
    · split_ifs
      · exact ⟨trivial, rfl⟩
      · exact ⟨trivial, rfl⟩
  · exact ⟨trivial, rfl⟩

theorem nextTimer_due {c : ContainerId} {now : Timespec} {s : TimerState}
    (popped : Option LocTimerDelegate × LocHeap LocTimerDelegate)
    (hpopped : ∀ t, popped.1 = some t → t.mFutureTime ≤ now) (hnow : now ≤ s.now) :
    (s.nextTimer c now popped).InHandDue ∧ (s.nextTimer c now popped).callbacks = s.callbacks := by
  cases hp : popped.1 with
  | none =>
    simp only [nextTimer, hp]
    exact updateSoonestTime_due ..
  | some t =>
    simp only [nextTimer, hp]
    exact ⟨⟨hpopped t hp, hnow⟩, rfl⟩

theorem InHandDue.of_later {s u : TimerState} (h : s.InHandDue) (hp : u.proc = s.proc)
    (hnow : s.now ≤ u.now) : u.InHandDue := by
  unfold InHandDue at *
  rw [hp]
  cases hs : s.proc with
  | waiting => trivial
  | settime => trivial
  | expiring c now t =>
    rw [hs] at h
    exact ⟨h.1, Timespec.le_trans h.2 hnow⟩
  | stopping c now t client =>
    rw [hs] at h
    exact ⟨h.1, Timespec.le_trans h.2 hnow⟩

theorem procMsg_due {s : TimerState} (msg : LocMsg) (hs : s.proc = .waiting)
    (hdue : ∀ c, msg = .timerExpire c → ∀ t ∈ s.getSoonestTimer c, t.mFutureTime ≤ s.now) :
    (s.procMsg msg).InHandDue ∧ (s.procMsg msg).callbacks = s.callbacks := by
  cases msg with
  | timerPush t => exact updateSoonestTime_due ..
  | timerRemove t =>
    simp only [procMsg]
    split_ifs
    · exact updateSoonestTime_due ..
    · refine ⟨?_, rfl⟩
      unfold InHandDue
      rw [show (s.setHeap t.container _).proc = s.proc from rfl, hs]
      trivial
  | timerExpire c =>
    refine nextTimer_due _ (fun t ht => hdue c rfl t ?_) (Timespec.le_refl _)
    rw [LocHeap.pop_peek] at ht
    exact ht

theorem stop_callbacks (client : Nat) (s : TimerState) :
    (s.stop client).callbacks = s.callbacks ∧ (s.stop client).now = s.now := by
  unfold stop
  split <;> exact ⟨rfl, rfl⟩

theorem runMsgTask_due {s u : TimerState} (hin : s.InHandDue) (hcalled : s.CalledDue)
    (hp : s.punctual .runMsgTask = true) (hu : s.runMsgTask = some u) :
    u.InHandDue ∧ u.CalledDue := by
  unfold CalledDue at *
  cases hs : s.proc with
  | waiting =>
    cases hq : s.msgQ with
    | nil => simp [runMsgTask, hs, hq] at hu
    | cons msg rest =>
      rw [runMsgTask_waiting hs hq, Option.some.injEq] at hu
      obtain ⟨h1, h2⟩ := procMsg_due (s := { s with msgQ := rest }) msg hs (by
        rintro c rfl t ht
        have hall : (s.getSoonestTimer c).all (fun t => t.mFutureTime ≤ s.now) = true := by
          simpa only [punctual, hs, hq] using hp
        have ht' : s.getSoonestTimer c = some t := ht
        rw [ht'] at hall
        simpa using hall)
      rw [← hu, h2]
      exact ⟨h1, hcalled⟩
  | settime c itValue =>
    simp only [runMsgTask, hs, Option.some.injEq] at hu
    rw [← hu]
    exact ⟨trivial, hcalled⟩
  | expiring c now t =>
    unfold InHandDue at hin
    rw [hs] at hin
    cases hc : s.mClient t.address with
    | none =>
      simp only [runMsgTask, hs, hc, Option.some.injEq] at hu
      obtain ⟨h1, h2⟩ := nextTimer_due (c := c) (s := s)
        (popIfOutRanks now (s.container c).heap)
        (fun t ht => popIfOutRanks_due ht) hin.2
      rw [← hu, h2]
      exact ⟨h1, hcalled⟩
    | some client =>
      simp only [runMsgTask, hs, hc, Option.some.injEq] at hu
      rw [← hu]
      exact ⟨hin, hcalled⟩
  | stopping c now t client =>
    unfold InHandDue at hin
    rw [hs] at hin
    obtain ⟨hcb, hnow⟩ := stop_callbacks client s
    simp only [runMsgTask, hs, Option.some.injEq] at hu
    cases hm : s.mTimer client with
    | none =>
      rw [hm] at hu
      obtain ⟨h1, h2⟩ := nextTimer_due (c := c) (s := s.stop client)
        (popIfOutRanks now (s.container c).heap)
        (fun t ht => popIfOutRanks_due ht) (hnow ▸ hin.2)
      rw [← hu, h2, hcb]
      exact ⟨h1, hcalled⟩
    | some d =>
      rw [hm] at hu
      obtain ⟨h1, h2⟩ := nextTimer_due (c := c)
        (s := { s.stop client with callbacks := s.callbacks ++ [Callback.mk d s.now] })
        (popIfOutRanks now (s.container c).heap)
        (fun t ht => popIfOutRanks_due ht) (hnow ▸ hin.2)
      rw [← hu, h2]
      refine ⟨h1, fun cb hcb => ?_⟩
      rcases List.mem_append.mp hcb with hcb | hcb
      · exact hcalled cb hcb
      · obtain rfl := List.mem_singleton.mp hcb
        have hd : d = t := by simpa [punctual, hs, hm] using hp
        rw [hd]
        exact Timespec.le_trans hin.1 hin.2

theorem step_due {s u : TimerState} {e : TimerEvent} (hin : s.InHandDue) (hcalled : s.CalledDue)
    (hp : s.punctual e = true) (hu : s.step e = some u) : u.InHandDue ∧ u.CalledDue := by
  have hquiet : ∀ {u : TimerState}, u.proc = s.proc → s.now ≤ u.now →
      u.callbacks = s.callbacks → u.InHandDue ∧ u.CalledDue := by
    intro u hproc hnow hcb
    refine ⟨hin.of_later hproc hnow, ?_⟩
    unfold CalledDue
    rw [hcb]
    exact hcalled
  cases e with
  | clock now =>
    simp only [step, Option.ite_none_right_eq_some, Option.some.injEq] at hu
    obtain ⟨hnow, rfl⟩ := hu
    exact hquiet rfl hnow rfl
  | start client timeOutInMs wakeOnExpire =>
    simp only [step, Option.some.injEq] at hu
    subst hu
    unfold start
    split <;> exact hquiet rfl (Timespec.le_refl _) rfl
  | stop client =>
    simp only [step, Option.some.injEq] at hu
    subst hu
    unfold stop
    split <;> exact hquiet rfl (Timespec.le_refl _) rfl
  | kernelExpire c =>
    simp only [step, kernelExpire] at hu
    split at hu
    · split_ifs at hu
      cases hu
      exact hquiet rfl (Timespec.le_refl _) rfl
    · cases hu
  | epollWait first =>
    simp only [step, epollWait, Option.ite_none_right_eq_some, Option.some.injEq] at hu
    obtain ⟨-, rfl⟩ := hu
    exact hquiet rfl (Timespec.le_refl _) rfl
  | runPollTask =>
    simp only [step, runPollTask] at hu
    split at hu
    · cases hu
    · split at hu <;> cases hu <;> exact hquiet rfl (Timespec.le_refl _) rfl
  | runMsgTask => exact runMsgTask_due hin hcalled hp hu

theorem no_early_callback (now : Timespec) (es : List TimerEvent) (s : TimerState)
    (hp : Runs.Along step (fun s e => s.punctual e = true) (init now) es)
    (h : Runs.play step (init now) es = some s) :
    ∀ cb ∈ s.callbacks, cb.timer.mFutureTime ≤ cb.time :=
  (Runs.play_invariant (I := fun s => s.InHandDue ∧ s.CalledDue)
    (fun _ _ _ hs he ht => step_due hs.1 hs.2 he ht) ⟨trivial, by simp [CalledDue, init]⟩ hp h).2

def message : List TimerEvent := [.runMsgTask, .runMsgTask]

def firstExpires : List TimerEvent :=
  [.start 0 10 false, .start 1 100000 false] ++ message ++ [.runMsgTask] ++
    [.clock ⟨5, 10000000⟩, .kernelExpire .swTimers, .epollWait .swTimers]

theorem no_early_callback_first : ∃ s : TimerState, (∃ cb, cb ∈ s.callbacks) ∧
    ∀ cb ∈ s.callbacks, cb.timer.mFutureTime ≤ cb.time :=
  ⟨_, ⟨_, List.mem_singleton_self _⟩, no_early_callback ⟨5, 0⟩
    (firstExpires ++ List.replicate 3 .runPollTask ++ List.replicate 3 .runMsgTask) _
    (by decide) rfl⟩

/-- The first timer is stopped before its expiry is processed; the second one is called instead,
100 seconds too early. -/
theorem stopped_expiry_calls_next : ¬ ∀ (now : Timespec) (es : List TimerEvent) (s : TimerState),
    Runs.play step (init now) es = some s →
      ∀ cb ∈ s.callbacks, cb.timer.mFutureTime ≤ cb.time := by
  intro h
  have hearly := h ⟨5, 0⟩ (firstExpires ++ [TimerEvent.stop 0] ++ List.replicate 3 TimerEvent.runPollTask ++
    message ++ List.replicate 3 TimerEvent.runMsgTask) _ rfl _ (List.mem_singleton_self _)
  exact absurd hearly (by decide)

end TimerState

end Wt88047.Loc
