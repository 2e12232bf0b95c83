import Wt88047.Gps.DSStateMachine

/-! Data calls that cannot be started: who waits for another attempt, who is told, and when a retry
timer runs. -/

namespace Wt88047.Agps

open Subscriber AgpsStateMachine

namespace DSStateMachine

inductive Due
  | nothing | denial | timer
  deriving DecidableEq

/-- One output after the others, `r` busy starts having failed since the last denial. A start that
fails for good is denied at once, one that is busy may set a timer, and neither happens for any
other reason. -/
def note : UInt8 × Due → Output DSSubscriber → Option (UInt8 × Due)
  | (_, .denial), .call (.requestATL _ _) => some (0, .nothing)
  | (_, .denial), _ => none
  | (r, .timer), .retryTimer => some (r, .nothing)
  | (r, _), .dataCall _ ret =>
    if ret = errEngineBusy then
      if r + 1 > maxStartDataCallRetries then some (r, .denial) else some (r + 1, .timer)
    else if ret = errUnsupported ∨ ret = -1 then some (r, .denial)
    else some (r, .nothing)
  | (r, _), .notified n => some (if n.status = .denied then 0 else r, .nothing)
  | (_, _), .call (.requestATL _ _) => none
  | (r, _), .call _ => some (r, .nothing)
  | (_, .nothing), .retryTimer => none
  | (_, _), .request _ => none

def isRetryTimer : Output DSSubscriber → Bool
  | .retryTimer => true
  | _ => false

/-- What is logged from one machine to the next, starting with no denial due. -/
structure Logs (u v : DSStateMachine) (new : List (Output DSSubscriber)) : Prop where
  sent : v.sent = u.sent ++ new
  noted : ∀ due ≠ .denial, ∃ due' ≠ .denial,
    new.foldlM note (mRetries u, due) = some (mRetries v, due')
  timers : timers v ≤ timers u + new.countP isRetryTimer

def isDenial : Output DSSubscriber → Bool
  | .call (.requestATL _ _) => true
  | _ => false

def Quiet (u v : DSStateMachine) : Prop :=
  ∃ new, Logs u v new ∧ (∀ out ∈ new, isDenial out = false) ∧
    ∀ action ret, .dataCall action ret ∉ new

variable {u v w : DSStateMachine}

theorem Logs.trans {new more : List (Output DSSubscriber)} (h : Logs u v new) (h' : Logs v w more) :
    Logs u w (new ++ more) := by
  refine ⟨by rw [h'.sent, h.sent, List.append_assoc], fun due hdue => ?_, ?_⟩
  · obtain ⟨due', hdue', hfold⟩ := h.noted due hdue
    obtain ⟨due'', hdue'', hfold'⟩ := h'.noted due' hdue'
    exact ⟨due'', hdue'', by simp [List.foldlM_append, hfold, hfold']⟩
  · have ht := h.timers
    have ht' := h'.timers
    rw [List.countP_append]
    omega

theorem Quiet.refl (u : DSStateMachine) : Quiet u u :=
  ⟨[], ⟨by simp, fun due hdue => ⟨due, hdue, rfl⟩, by simp⟩, by simp, by simp⟩

theorem Quiet.trans (h : Quiet u v) (h' : Quiet v w) : Quiet u w := by
  obtain ⟨new, hlog, hden, hcall⟩ := h
  obtain ⟨more, hlog', hden', hcall'⟩ := h'
  refine ⟨new ++ more, hlog.trans hlog', ?_, ?_⟩
  · intro out ho
    exact (List.mem_append.mp ho).elim (hden out) (hden' out)
  · intro action ret ho
    exact (List.mem_append.mp ho).elim (hcall action ret) (hcall' action ret)

theorem Logs.congr {new : List (Output DSSubscriber)} (h : Logs u v new) (hs : w.sent = v.sent)
    (hd : w.data = v.data) : Logs u w new := by
  have hr : mRetries w = mRetries v := congrArg DSData.mRetries hd
  have ht : DSStateMachine.timers w = DSStateMachine.timers v := congrArg DSData.timers hd
  refine ⟨hs.trans h.sent, ?_, ?_⟩
  · rw [hr]
    exact h.noted
  · rw [ht]
    exact h.timers

theorem Quiet.congr (h : Quiet u v) (hs : w.sent = v.sent) (hd : w.data = v.data) : Quiet u w := by
  obtain ⟨new, hlog, hrest⟩ := h
  exact ⟨new, hlog.congr hs hd, hrest⟩

theorem note_notified {due : Due} (hdue : due ≠ .denial) (r : UInt8) (n : Notice DSSubscriber) :
    note (r, due) (.notified n) = some (if n.status = .denied then 0 else r, .nothing) := by
  cases due with
  | denial => exact absurd rfl hdue
  | nothing => rfl
  | timer => rfl

theorem noted_fold (notices : List (Notice DSSubscriber)) (d : DSData) (due : Due)
    (hdue : due ≠ .denial) : ∃ due' ≠ .denial,
      (notices.map Output.notified).foldlM note (d.mRetries, due) =
        some (DSData.mRetries (notices.foldl (fun d n => informStatusData n.status d) d), due') := by
  induction notices generalizing d due with
  | nil => exact ⟨due, hdue, rfl⟩
  | cons n ns ih =>
    obtain ⟨due', hdue', h⟩ := ih (informStatusData n.status d) .nothing (by decide)
    refine ⟨due', hdue', ?_⟩
    have hr : (informStatusData n.status d).mRetries =
        if n.status = .denied then 0 else d.mRetries := by
      cases n.status <;> rfl
    rw [hr] at h
    simpa [note_notified hdue] using h

theorem tell_quiet (notices : List (Notice DSSubscriber)) (m : DSStateMachine) :
    Quiet m (m.tell notices) := by
  refine ⟨notices.map .notified, ⟨rfl, ?_, ?_⟩, by simp [isDenial], by simp⟩
  · intro due hdue
    exact noted_fold notices m.data due hdue
  · have ht : ∀ d : DSData, DSData.timers (notices.foldl (fun d n => informStatusData n.status d) d) =
        d.timers := by
      induction notices with
      | nil => exact fun d => rfl
      | cons n ns ih =>
        intro d
        rw [List.foldl_cons, ih]
        cases n.status <;> rfl
    exact (ht m.data).le.trans (Nat.le_add_right ..)

theorem notifyOne_quiet (n : Notification DSSubscriber) (s : DSSubscriber) (m : DSStateMachine) :
    Quiet m (m.notifyOne n s) := tell_quiet _ m

theorem notifySubscribers_quiet (n : Notification DSSubscriber) (m : DSStateMachine) :
    Quiet m (m.notifySubscribers n) := by
  unfold notifySubscribers
  split
  · exact (tell_quiet _ m).congr rfl rfl
  · exact tell_quiet _ m

theorem addSubscriber_quiet (s : DSSubscriber) (o : Outcome) (m : DSStateMachine) :
    Quiet m (m.addSubscriber s o) := by
  unfold addSubscriber
  split
  · exact (Quiet.refl m).congr rfl rfl
  · exact .refl m

theorem note_call {due : Due} (hdue : due ≠ .denial) (r : UInt8) {c : LocCall}
    (hc : isDenial (.call c) = false) : note (r, due) (.call c) = some (r, .nothing) := by
  cases due with
  | denial => exact absurd rfl hdue
  | nothing => cases c <;> first | rfl | simp [isDenial] at hc
  | timer => cases c <;> first | rfl | simp [isDenial] at hc

theorem emit_call_quiet {c : LocCall} (hc : isDenial (.call c) = false) (m : DSStateMachine) :
    Quiet m (m.emit (.call c)) := by
  refine ⟨[.call c], ⟨rfl, fun due hdue => ⟨.nothing, by decide, ?_⟩, Nat.le_add_right ..⟩,
    by simpa using hc, by simp⟩
  simp only [List.foldlM_cons, List.foldlM_nil, note_call hdue _ hc]
  rfl

theorem leave_quiet (s : DSSubscriber) (m : DSStateMachine) : Quiet m (m.leave s) :=
  (emit_call_quiet (c := .atlCloseStatus s.ID true) rfl m).congr rfl rfl

def connHandle (m : DSStateMachine) : UInt32 :=
  (m.activeSubscriber.map DSSubscriber.ID).getD (-1)

def Carried (u v : DSStateMachine) : Prop :=
  ∃ new, Logs u v new ∧ ∀ h t, .call (.requestATL h t) ∈ new → h = connHandle v

theorem Quiet.carried (h : Quiet u v) : Carried u v := by
  obtain ⟨new, hlog, hden, -⟩ := h
  exact ⟨new, hlog, fun c t hc => by simpa [isDenial] using hden _ hc⟩

theorem Quiet.then_carried (h : Quiet u v) (h' : Carried v w) : Carried u w := by
  obtain ⟨new, hlog, hden, -⟩ := h
  obtain ⟨more, hlog', hden'⟩ := h'
  refine ⟨new ++ more, hlog.trans hlog', fun c t hc => ?_⟩
  obtain hc | hc := List.mem_append.mp hc
  · simpa [isDenial] using hden _ hc
  · exact hden' c t hc

theorem Carried.congr (h : Carried u v) (hs : w.sent = v.sent) (hd : w.data = v.data)
    (hl : w.mSubscribers = v.mSubscribers) : Carried u w := by
  obtain ⟨new, hlog, hden⟩ := h
  have hconn : connHandle w = connHandle v := by
    unfold connHandle
    rw [activeSubscriber_eq, activeSubscriber_eq, hl]
  exact ⟨new, hlog.congr hs hd, by rwa [hconn]⟩

theorem note_dataCall {due : Due} (hdue : due ≠ .denial) (r : UInt8) (action : AGpsStatusValue)
    (ret : Int) : note (r, due) (.dataCall action ret) =
      if ret = errEngineBusy then
        if r + 1 > maxStartDataCallRetries then some (r, .denial) else some (r + 1, .timer)
      else if ret = errUnsupported ∨ ret = -1 then some (r, .denial)
      else some (r, .nothing) := by
  cases due with
  | denial => exact absurd rfl hdue
  | nothing => rfl
  | timer => rfl

theorem send_carried (action : AGpsStatusValue) (o : Outcome) (m : DSStateMachine) :
    Carried m (sendRsrcRequest action o m).2 := by
  obtain ⟨d, out, ret, hsend, hends⟩ := sendRsrcRequest_ends action o m
  have hconn : connHandle (sendRsrcRequest action o m).2 = connHandle m := by
    rw [hsend]
    rfl
  refine ⟨.dataCall action (dataCallCb action o) :: out, ⟨by rw [hsend], ?_, ?_⟩, ?_⟩
  · intro due hdue
    have hr : mRetries m = DSData.mRetries m.data := rfl
    have hd : mRetries (sendRsrcRequest action o m).2 = d.mRetries := by
      rw [hsend]
      rfl
    rw [hd, List.foldlM_cons, note_dataCall hdue]
    cases hends with
    | exhausted hbusy hmax => exact ⟨.nothing, by decide, by simp [hbusy, hr, hmax]; rfl⟩
    | retried hbusy hmax => exact ⟨.nothing, by decide, by simp [hbusy, hr, hmax]; rfl⟩
    | unarmed hbusy hmax => exact ⟨.timer, by decide, by simp [hbusy, hr, hmax]⟩
    | refused hfail =>
      have hnb : dataCallCb action o ≠ errEngineBusy := by
        obtain hf | hf := hfail <;> rw [hf] <;> decide
      exact ⟨.nothing, by decide, by simp [hnb, hfail]; rfl⟩
    | taken hbusy hun hneg => exact ⟨.nothing, by decide, by simp [hbusy, hun, hneg, hr]⟩
  · rw [hsend]
    show d.timers ≤ DSData.timers m.data + _
    cases hends <;> simp [isRetryTimer]
  · intro h t hmem
    rw [hconn]
    cases hends <;> simp_all [connHandle]

theorem send_mSubscribers (action : AGpsStatusValue) (o : Outcome) (m : DSStateMachine) :
    (sendRsrcRequest action o m).2.mSubscribers = m.mSubscribers := by
  obtain ⟨d, out, ret, hsend, -⟩ := sendRsrcRequest_ends action o m
  rw [hsend]

theorem leave_carried (s : DSSubscriber) (o : Outcome) (next : AgpsState) (m : DSStateMachine) :
    let t := m.leave s
    let r := if !t.hasSubscribers then
        (AgpsState.released, (sendRsrcRequest .releaseAgpsDataConn o t).2)
      else if !t.hasActiveSubscribers then
        (.releasing, (sendRsrcRequest .releaseAgpsDataConn o t).2)
      else (next, t)
    Carried m r.2 := by
  have hq := leave_quiet s m
  intro t r
  have hsend : Carried m (sendRsrcRequest .releaseAgpsDataConn o t).2 :=
    hq.then_carried (send_carried ..)
  by_cases hs : t.hasSubscribers = true
  · by_cases ha : t.hasActiveSubscribers = true
    · simpa [r, hs, ha] using hq.carried
    · simpa [r, hs, ha] using hsend
  · simpa [r, hs] using hsend

theorem closed_carried (status : AgpsRsrcStatus) (o : Outcome) (m : DSStateMachine) :
    Carried m (AgpsReleasingState.closed sendRsrcRequest o m status).2 := by
  have hq := notifySubscribers_quiet (.toGroup .inactive status true) m
  simp only [AgpsReleasingState.closed]
  split
  · exact hq.then_carried (send_carried ..)
  · exact hq.carried

theorem dispatch_carried (e : RsrcEvent DSSubscriber) (o : Outcome) (m : DSStateMachine) :
    Carried m (m.dispatch sendRsrcRequest e o) := by
  cases hs : m.mStatePtr with
  | released =>
    have hr : Carried m (AgpsReleasedState.onRsrcEvent sendRsrcRequest o m e).2 := by
      cases e with
      | subscribe s => exact (addSubscriber_quiet s o m).then_carried (send_carried ..)
      | unsubscribe s => exact (notifyOne_quiet _ s m).carried
      | _ => exact (Quiet.refl m).carried
    exact hr.congr (by simp only [dispatch, hs]) (by simp only [dispatch, hs])
      (by simp only [dispatch, hs])
  | pending =>
    have hr : Carried m (AgpsPendingState.onRsrcEvent sendRsrcRequest o m e).2 := by
      cases e with
      | subscribe s => exact (addSubscriber_quiet s o m).carried
      | unsubscribe s => exact leave_carried s o .pending m
      | granted => exact (notifySubscribers_quiet (.toGroup .active .granted false) m).carried
      | released => exact (Quiet.refl m).carried
      | denied => exact (notifySubscribers_quiet (.toGroup .all .denied true) m).carried
    exact hr.congr (by simp only [dispatch, hs]) (by simp only [dispatch, hs])
      (by simp only [dispatch, hs])
  | acquired =>
    have hr : Carried m (AgpsAcquiredState.onRsrcEvent sendRsrcRequest o m e).2 := by
      cases e with
      | subscribe s =>
        exact ((notifyOne_quiet _ s m).trans (addSubscriber_quiet s o _)).carried
      | unsubscribe s => exact leave_carried s o .acquired m
      | granted => exact (Quiet.refl m).carried
      | released => exact (notifySubscribers_quiet (.toGroup .all .released true) m).carried
      | denied => exact (Quiet.refl m).carried
    exact hr.congr (by simp only [dispatch, hs]) (by simp only [dispatch, hs])
      (by simp only [dispatch, hs])
  | releasing =>
    have hr : Carried m (AgpsReleasingState.onRsrcEvent sendRsrcRequest o m e).2 := by
      cases e with
      | subscribe s => exact (addSubscriber_quiet s o m).carried
      | unsubscribe s => exact (leave_quiet s m).carried
      | granted => exact (Quiet.refl m).carried
      | released => exact closed_carried .released o m
      | denied => exact closed_carried .denied o m
    exact hr.congr (by simp only [dispatch, hs]) (by simp only [dispatch, hs])
      (by simp only [dispatch, hs])

variable {m : DSStateMachine}

theorem released_ignored {o : Outcome}
    (h : (m.dispatch sendRsrcRequest .released o).mStatePtr = m.mStatePtr) :
    m.dispatch sendRsrcRequest .released o = m := by
  obtain ⟨state, subscribers, nif, enforce, data, sent⟩ := m
  cases state with
  | released => rfl
  | pending => rfl
  | acquired => simp [dispatch, AgpsAcquiredState.onRsrcEvent] at h
  | releasing =>
    simp only [dispatch, AgpsReleasingState.onRsrcEvent, AgpsReleasingState.closed] at h
    split at h <;> simp at h

theorem stepCall_rule {P : DSStateMachine → Prop} (hself : P m)
    (hevent : ∀ e o, P (m.dispatch sendRsrcRequest e o))
    (hdeny : ∀ s, P (m.notifyOne (.toGroup .all .denied true) s)) (hapn : ∀ apn, P (m.setAPN apn))
    (hbearer : ∀ bearer, P (m.setBearer bearer)) (r : Request DSSubscriber) : P (stepCall m r) := by
  cases r with
  | subscribeRsrc s o =>
    simp only [stepCall, subscribeRsrc]
    split
    · exact hdeny s
    · exact hevent ..
  | unsubscribeRsrc s o =>
    simp only [stepCall, unsubscribeRsrc]
    split
    · exact hevent ..
    · exact hself
  | onRsrcEvent e o =>
    cases e with
    | granted => exact hevent ..
    | denied => exact hevent ..
    | released =>
      simp only [stepCall, onRsrcEvent]
      split
      · exact hevent ..
      · next h =>
        rw [released_ignored (by simpa using h)]
        exact hevent ..
    | _ => exact hself
  | setAPN apn => exact hapn apn
  | setBearer bearer => exact hbearer bearer

theorem retryCallback_quiet (m : DSStateMachine) : Quiet m (retryCallback m) := by
  have hset : Quiet m (setData ⟨mRetries m, timers m - 1⟩ m) :=
    ⟨[], ⟨by simp [setData], fun due hdue => ⟨due, hdue, rfl⟩, Nat.sub_le ..⟩, by simp, by simp⟩
  simp only [retryCallback]
  split
  · exact .refl m
  · split
    · exact hset.trans (emit_call_quiet rfl _)
    · exact hset

theorem step_carried (m : DSStateMachine) (r : DSRequest) : Carried m (step m r) := by
  cases r with
  | call r =>
    exact stepCall_rule (Quiet.refl m).carried (fun e o => dispatch_carried e o m)
      (fun s => (notifyOne_quiet _ s m).carried)
      (fun apn => ((Quiet.refl m).congr (w := m.setAPN apn) rfl rfl).carried)
      (fun bearer => ((Quiet.refl m).congr (w := m.setBearer bearer) rfl rfl).carried) r
  | retryCallback => exact (retryCallback_quiet m).carried

def starts (m : DSStateMachine) : List Int :=
  m.sent.filterMap fun
    | .dataCall .requestAgpsDataConn ret => some ret
    | _ => none

/-- Only a failed start leaves subscribers on the list of a released machine, and they all wait. -/
def Waiting (m : DSStateMachine) : Prop :=
  m.mStatePtr = .released → (∀ s ∈ m.mSubscribers, isInactive s = false) ∧
    (m.mSubscribers ≠ [] → ∃ ret, (starts m).getLast? = some ret ∧ ret ≠ errSuccess)

theorem Quiet.starts (h : Quiet u v) : starts v = starts u := by
  obtain ⟨new, hlog, -, hcall⟩ := h
  have hnone : new.filterMap (fun
      | .dataCall .requestAgpsDataConn ret => some ret
      | _ => none) = ([] : List Int) := by
    rw [List.filterMap_eq_nil_iff]
    intro out ho
    cases out with
    | dataCall action ret => exact absurd ho (hcall action ret)
    | _ => rfl
  rw [DSStateMachine.starts, hlog.sent, List.filterMap_append, hnone, List.append_nil]
  rfl

theorem Waiting.quiet (h : Waiting u) (hq : Quiet u v) (hs : v.mStatePtr = u.mStatePtr)
    (hl : v.mSubscribers = u.mSubscribers) : Waiting v := by
  intro hv
  rw [hl, hq.starts]
  exact h (hs.symm.trans hv)

theorem Waiting.of_nil (h : m.mSubscribers = []) : Waiting m := by
  intro _
  simp [h]

theorem send_starts (o : Outcome) (m : DSStateMachine) :
    starts (sendRsrcRequest .requestAgpsDataConn o m).2 = starts m ++ [o.startDataCall] := by
  obtain ⟨d, out, ret, hsend, hends⟩ := sendRsrcRequest_ends .requestAgpsDataConn o m
  rw [hsend]
  cases hends <;> simp [starts, dataCallCb]

theorem send_failed {o : Outcome} (h : (sendRsrcRequest .requestAgpsDataConn o m).1 ≠ 0) :
    o.startDataCall ≠ errSuccess := by
  obtain ⟨d, out, ret, hsend, hends⟩ := sendRsrcRequest_ends .requestAgpsDataConn o m
  rw [hsend] at h
  rintro h0
  have hret : dataCallCb .requestAgpsDataConn o = 0 := h0
  rw [hret] at hends
  cases hends with
  | retried hbusy => exact absurd hbusy (by decide)
  | exhausted hbusy => exact absurd hbusy (by decide)
  | unarmed => exact h rfl
  | refused => exact h rfl
  | taken => exact h rfl

theorem dispatch_waiting {e : RsrcEvent DSSubscriber} {o : Outcome} (h : Waiting m) :
    Waiting (m.dispatch sendRsrcRequest e o) := by
  cases hs : m.mStatePtr with
  | released =>
    obtain ⟨hact, hfail⟩ := h hs
    cases e with
    | subscribe s =>
      intro hv
      have hret : (sendRsrcRequest .requestAgpsDataConn o (m.addSubscriber s o)).1 ≠ 0 := by
        intro h0
        simp [dispatch, hs, AgpsReleasedState.onRsrcEvent, h0] at hv
      simp only [dispatch, hs, AgpsReleasedState.onRsrcEvent, send_mSubscribers]
      refine ⟨fun x hx => ?_, fun _ => ⟨o.startDataCall, ?_, send_failed hret⟩⟩
      · obtain hx | ⟨-, rfl⟩ := mem_addSubscriber hx
        · exact hact x hx
        · exact isInactive_clone s
      · have hst := send_starts o (m.addSubscriber s o)
        simp only [starts] at hst ⊢
        rw [hst]
        simp
    | unsubscribe s =>
      refine h.quiet ((notifyOne_quiet (.toOne s .unsubscribe false) s m).congr ?_ ?_) ?_ ?_
      all_goals simp [dispatch, hs, AgpsReleasedState.onRsrcEvent]
    | _ =>
      refine h.quiet ((Quiet.refl m).congr ?_ ?_) ?_ ?_
      all_goals simp [dispatch, hs, AgpsReleasedState.onRsrcEvent]
  | _ =>
    intro hv
    exact Waiting.of_nil (dispatch_released send_mSubscribers (by simp [hs]) hv) hv

theorem step_waiting (h : Waiting m) (r : DSRequest) : Waiting (step m r) := by
  cases r with
  | call r =>
    exact stepCall_rule h (fun e o => dispatch_waiting h)
      (fun s => h.quiet (notifyOne_quiet _ s m) rfl rfl)
      (fun apn => h.quiet ((Quiet.refl m).congr (w := m.setAPN apn) rfl rfl) rfl rfl)
      (fun bearer => h.quiet ((Quiet.refl m).congr (w := m.setBearer bearer) rfl rfl) rfl rfl) r
  | retryCallback =>
    have hsame : (retryCallback m).mStatePtr = m.mStatePtr ∧
        (retryCallback m).mSubscribers = m.mSubscribers := by
      simp only [retryCallback]
      split
      · exact ⟨rfl, rfl⟩
      · split <;> exact ⟨rfl, rfl⟩
    exact h.quiet (retryCallback_quiet m) hsame.1 hsame.2

theorem run_waiting (h : Waiting m) (rs : List DSRequest) : Waiting (run m rs) := by
  induction rs generalizing m with
  | nil => exact h
  | cons r rs ih => exact ih (step_waiting h r)

theorem run_logs (m : DSStateMachine) (rs : List DSRequest) : ∃ new, Logs m (run m rs) new := by
  induction rs generalizing m with
  | nil => exact ⟨[], by simp [run], fun due hdue => ⟨due, hdue, rfl⟩, Nat.le_add_right ..⟩
  | cons r rs ih =>
    obtain ⟨new, hlog, -⟩ := step_carried m r
    obtain ⟨more, hlog'⟩ := ih (step m r)
    exact ⟨new ++ more, hlog.trans hlog'⟩

theorem failed_starts_settled (rs : List DSRequest) :
    let m := run make rs
    Waiting m ∧
      (∃ due ≠ .denial, m.sent.foldlM note (0, .nothing) = some (mRetries m, due)) ∧
      timers m ≤ m.sent.countP isRetryTimer ∧
      ∀ r h t, .call (.requestATL h t) ∈ (step m r).sent.drop m.sent.length →
        h = connHandle (step m r) := by
  intro m
  have hwait : Waiting m := run_waiting (.of_nil rfl) rs
  obtain ⟨new, hlog⟩ := run_logs make rs
  have hsent : m.sent = new := hlog.sent
  refine ⟨hwait, ?_, ?_, fun r h t hmem => ?_⟩
  · rw [hsent]
    exact hlog.noted .nothing (by decide)
  · have ht := hlog.timers
    have h0 : timers make = 0 := rfl
    rw [h0, Nat.zero_add] at ht
    rw [hsent]
    exact ht
  · obtain ⟨more, hmore, hden⟩ := step_carried m r
    rw [hmore.sent, List.drop_left] at hmem
    exact hden h t hmem

def busy : Outcome := ⟨true, errEngineBusy, true⟩

/-- A busy start leaves the subscriber on the list of the released machine, with its timer. -/
theorem retry_waits_in_released : ¬ ∀ rs : List DSRequest, let m := run make rs
    (m.mStatePtr = .released → m.mSubscribers = []) ∧
      (0 < timers m → m.mStatePtr ≠ .released) := by
  intro h
  have hnil := (h [.call (.subscribeRsrc ⟨1, false⟩ busy)]).1 rfl
  exact absurd hnil (by decide)

end DSStateMachine

end Wt88047.Agps
