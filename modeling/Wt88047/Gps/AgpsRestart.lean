import Wt88047.Gps.AgpsSubscription
import Wt88047.Gps.DSFailedStart

/-! What a restart of the modem leaves of the AGPS machines, compared with new ones. -/

namespace Wt88047.Agps

open Subscriber AgpsStateMachine

variable {S : Type} [Subscriber S]

def Delivered (S : Type) [Subscriber S] (status : AgpsRsrcStatus) : Prop :=
  status = .granted ∨ status = .released ∨ status = .denied ∨
    (status = .unsubscribe ∧ waitForCloseComplete S = false)

structure Twin (R : MachineData S → MachineData S → Prop) (u v : AgpsStateMachine S) : Prop where
  state : v.mStatePtr = u.mStatePtr
  list : v.mSubscribers = u.mSubscribers
  enforce : v.mEnforceSingleSubscriber = u.mEnforceSingleSubscriber
  type : v.nif.type = u.nif.type
  data : R u.data v.data
  calls : ∀ (s : S) (status : AgpsRsrcStatus), Delivered S status →
    rsrcStatusCalls v.nif s status = rsrcStatusCalls u.nif s status

def Alike (R : MachineData S → MachineData S → Prop) (u v u' v' : AgpsStateMachine S) : Prop :=
  Twin R u' v' ∧ ∃ out, u'.sent = u.sent ++ out ∧ v'.sent = v.sent ++ out

variable {n : Notification S} {s : S} {status : AgpsRsrcStatus}

section Twins

variable {R : MachineData S → MachineData S → Prop} {u v u' v' : AgpsStateMachine S}

theorem Twin.alike (h : Twin R u v) : Alike R u v u v := ⟨h, [], by simp, by simp⟩

theorem Alike.trans {u'' v'' : AgpsStateMachine S} (h : Alike R u v u' v')
    (h' : Alike R u' v' u'' v'') : Alike R u v u'' v'' := by
  obtain ⟨-, out, hu, hv⟩ := h
  obtain ⟨ht, more, hu', hv'⟩ := h'
  exact ⟨ht, out ++ more, by rw [hu', hu, List.append_assoc], by rw [hv', hv, List.append_assoc]⟩

theorem Twin.search (h : Twin R u v) (n : Notification S) : v.search n = u.search n := by
  rw [search_eq, search_eq, h.list]

theorem Twin.activeSubscriber (h : Twin R u v) : v.activeSubscriber = u.activeSubscriber :=
  h.search _

theorem Twin.hasActiveSubscribers (h : Twin R u v) :
    v.hasActiveSubscribers = u.hasActiveSubscribers := by
  simp only [AgpsStateMachine.hasActiveSubscribers, h.activeSubscriber]

theorem Twin.hasSubscribers (h : Twin R u v) : v.hasSubscribers = u.hasSubscribers := by
  simp only [AgpsStateMachine.hasSubscribers, h.list]

theorem Twin.setState (h : Twin R u v) (a : AgpsState) :
    Twin R { u with mStatePtr := a } { v with mStatePtr := a } :=
  ⟨rfl, h.list, h.enforce, h.type, h.data, h.calls⟩

theorem Twin.setList (h : Twin R u v) (l : List S) :
    Twin R { u with mSubscribers := l } { v with mSubscribers := l } :=
  ⟨h.state, rfl, h.enforce, h.type, h.data, h.calls⟩

theorem notifyRsrcStatus_congr
    (hn : rsrcStatusCalls v.nif s n.rsrcStatus = rsrcStatusCalls u.nif s n.rsrcStatus) :
    Agps.notifyRsrcStatus v.nif n s = Agps.notifyRsrcStatus u.nif n s := by
  simp only [Agps.notifyRsrcStatus, hn]

theorem addSubscriber_alike (h : Twin R u v) (s : S) (o : Outcome) :
    Alike R u v (u.addSubscriber s o) (v.addSubscriber s o) := by
  unfold addSubscriber
  rw [h.search]
  split
  · exact ⟨⟨h.state, by simp [h.list], h.enforce, h.type, h.data, h.calls⟩, [], by simp, by simp⟩
  · exact h.alike

variable (hnoted : ∀ status a b, R a b → R (noted status a) (noted status b))

include hnoted

theorem tell_alike (h : Twin R u v) (notices : List (Notice S)) :
    Alike R u v (u.tell notices) (v.tell notices) := by
  have hdata : ∀ a b, R a b →
      R (notices.foldl (fun d n => noted n.status d) a)
        (notices.foldl (fun d n => noted n.status d) b) := by
    induction notices with
    | nil => exact fun a b hab => hab
    | cons n ns ih => exact fun a b hab => ih _ _ (hnoted n.status a b hab)
  exact ⟨⟨h.state, h.list, h.enforce, h.type, hdata _ _ h.data, h.calls⟩, _, rfl, rfl⟩

theorem notifyOne_alike (h : Twin R u v)
    (hn : rsrcStatusCalls v.nif s n.rsrcStatus = rsrcStatusCalls u.nif s n.rsrcStatus) :
    Alike R u v (u.notifyOne n s) (v.notifyOne n s) := by
  unfold notifyOne
  rw [notifyRsrcStatus_congr hn]
  exact tell_alike hnoted h _

theorem notifySubscribers_alike (h : Twin R u v) (hn : Delivered S n.rsrcStatus) :
    Alike R u v (u.notifySubscribers n) (v.notifySubscribers n) := by
  have hsame : notifySubscriber v.nif n = notifySubscriber u.nif n := by
    funext s
    simp only [notifySubscriber, notifyRsrcStatus_congr (h.calls s _ hn)]
  unfold notifySubscribers
  rw [hsame, h.list]
  split
  · exact tell_alike hnoted (h.setList _) _
  · exact tell_alike hnoted h _

theorem leave_alike (h : Twin R u v) (s : S) : Alike R u v (u.leave s) (v.leave s) := by
  unfold leave
  split
  · exact ⟨⟨h.state, by simp [h.list], h.enforce, h.type, h.data, h.calls⟩, _, rfl, rfl⟩
  · next hw => exact notifySubscribers_alike hnoted h (Or.inr (Or.inr (Or.inr ⟨rfl, by simpa using hw⟩)))

variable {send : SendRsrcRequest S}
  (hsend : ∀ action o u v, Twin R u v → (send action o v).1 = (send action o u).1 ∧
    Alike R u v (send action o u).2 (send action o v).2)

include hsend

omit hnoted in
theorem afterLeave_alike (h : Twin R u v) (o : Outcome) (next : AgpsState) :
    let end_ := fun m : AgpsStateMachine S =>
      if !m.hasSubscribers then (AgpsState.released, (send .releaseAgpsDataConn o m).2)
      else if !m.hasActiveSubscribers then (.releasing, (send .releaseAgpsDataConn o m).2)
      else (next, m)
    (end_ v).1 = (end_ u).1 ∧ Alike R u v (end_ u).2 (end_ v).2 := by
  intro end_
  simp only [end_, h.hasSubscribers, h.hasActiveSubscribers]
  split_ifs
  · exact ⟨rfl, (hsend _ o u v h).2⟩
  · exact ⟨rfl, (hsend _ o u v h).2⟩
  · exact ⟨rfl, h.alike⟩

theorem closed_alike (h : Twin R u v) (o : Outcome) (hs : Delivered S status) :
    (AgpsReleasingState.closed send o v status).1 = (AgpsReleasingState.closed send o u status).1 ∧
      Alike R u v (AgpsReleasingState.closed send o u status).2
        (AgpsReleasingState.closed send o v status).2 := by
  have hn := notifySubscribers_alike hnoted h (n := .toGroup .inactive status true) hs
  simp only [AgpsReleasingState.closed, hn.1.hasActiveSubscribers]
  split_ifs
  · exact ⟨rfl, hn.trans (hsend _ o _ _ hn.1).2⟩
  · exact ⟨rfl, hn⟩

omit hnoted hsend in
theorem Alike.dispatched {r q : AgpsState × AgpsStateMachine S}
    (h : q.1 = r.1 ∧ Alike R u v r.2 q.2) :
    Alike R u v { r.2 with mStatePtr := r.1 } { q.2 with mStatePtr := q.1 } := by
  obtain ⟨hst, ht, hout⟩ := h
  rw [hst]
  exact ⟨ht.setState r.1, hout⟩

theorem dispatch_alike (h : Twin R u v) (e : RsrcEvent S) (o : Outcome)
    (he : ∀ s, e = .unsubscribe s → u.mStatePtr = .released →
      rsrcStatusCalls v.nif s .unsubscribe = rsrcStatusCalls u.nif s .unsubscribe) :
    Alike R u v (u.dispatch send e o) (v.dispatch send e o) := by
  have hgranted : Delivered S .granted := Or.inl rfl
  have hreleased : Delivered S .released := Or.inr (Or.inl rfl)
  have hdenied : Delivered S .denied := Or.inr (Or.inr (Or.inl rfl))
  have hstate := h.state
  cases hs : u.mStatePtr with
  | released =>
    rw [hs] at hstate
    simp only [dispatch, hs, hstate]
    apply Alike.dispatched
    cases e with
    | subscribe s =>
      have hadd := addSubscriber_alike h s o
      obtain ⟨hrc, hal⟩ := hsend .requestAgpsDataConn o _ _ hadd.1
      exact ⟨by simp only [AgpsReleasedState.onRsrcEvent, hrc], hadd.trans hal⟩
    | unsubscribe s => exact ⟨rfl, notifyOne_alike hnoted h (he s rfl hs)⟩
    | granted => exact ⟨rfl, h.alike⟩
    | released => exact ⟨rfl, h.alike⟩
    | denied => exact ⟨rfl, h.alike⟩
  | pending =>
    rw [hs] at hstate
    simp only [dispatch, hs, hstate]
    apply Alike.dispatched
    cases e with
    | subscribe s => exact ⟨rfl, addSubscriber_alike h s o⟩
    | unsubscribe s =>
      have hl := leave_alike hnoted h s
      obtain ⟨hst, hal⟩ := afterLeave_alike hsend hl.1 o .pending
      exact ⟨hst, hl.trans hal⟩
    | granted =>
      exact ⟨rfl, notifySubscribers_alike hnoted h (n := .toGroup .active .granted false) hgranted⟩
    | released => exact ⟨rfl, h.alike⟩
    | denied =>
      exact ⟨rfl, notifySubscribers_alike hnoted h (n := .toGroup .all .denied true) hdenied⟩
  | acquired =>
    rw [hs] at hstate
    simp only [dispatch, hs, hstate]
    apply Alike.dispatched
    cases e with
    | subscribe s =>
      have htell := notifyOne_alike hnoted h (n := .toOne s .granted false) (s := s)
        (h.calls s .granted hgranted)
      exact ⟨rfl, htell.trans (addSubscriber_alike htell.1 s o)⟩
    | unsubscribe s =>
      have hl := leave_alike hnoted h s
      obtain ⟨hst, hal⟩ := afterLeave_alike hsend hl.1 o .acquired
      exact ⟨hst, hl.trans hal⟩
    | granted => exact ⟨rfl, h.alike⟩
    | released =>
      exact ⟨rfl, notifySubscribers_alike hnoted h (n := .toGroup .all .released true) hreleased⟩
    | denied => exact ⟨rfl, h.alike⟩
  | releasing =>
    rw [hs] at hstate
    simp only [dispatch, hs, hstate]
    apply Alike.dispatched
    cases e with
    | subscribe s => exact ⟨rfl, addSubscriber_alike h s o⟩
    | unsubscribe s =>
      have hl := leave_alike hnoted h s
      exact ⟨by simp only [AgpsReleasingState.onRsrcEvent, hl.1.hasSubscribers], hl⟩
    | granted => exact ⟨rfl, h.alike⟩
    | released => exact closed_alike hnoted hsend h o hreleased
    | denied => exact closed_alike hnoted hsend h o hdenied

end Twins

def Request.isResource : Request S → Bool
  | .subscribeRsrc .. | .unsubscribeRsrc .. | .onRsrcEvent .. => true
  | .setAPN _ | .setBearer _ => false

def BehavesAs (run : AgpsStateMachine S → List (Request S) → AgpsStateMachine S)
    (u v : AgpsStateMachine S) : Prop :=
  ∀ rs, (∀ r ∈ rs, r.isResource = true) →
    (run u rs).sent.drop u.sent.length = (run v rs).sent.drop v.sent.length

def Emptied (m : AgpsStateMachine S) : Prop := m.mStatePtr = .released → m.mSubscribers = []

def SameOwner (u v : AgpsStateMachine S) : Prop :=
  v.nif = u.nif ∧ v.mEnforceSingleSubscriber = u.mEnforceSingleSubscriber

section Owner

theorem SameOwner.trans {u v w : AgpsStateMachine S} (h : SameOwner u v) (h' : SameOwner v w) :
    SameOwner u w := ⟨h'.1.trans h.1, h'.2.trans h.2⟩

theorem addSubscriber_owner (s : S) (o : Outcome) (m : AgpsStateMachine S) :
    SameOwner m (m.addSubscriber s o) := by
  unfold addSubscriber
  split <;> exact ⟨rfl, rfl⟩

theorem notifySubscribers_owner (n : Notification S) (m : AgpsStateMachine S) :
    SameOwner m (m.notifySubscribers n) := by
  unfold notifySubscribers
  split <;> exact ⟨rfl, rfl⟩

theorem leave_owner (s : S) (m : AgpsStateMachine S) : SameOwner m (m.leave s) := by
  unfold leave
  split
  · exact ⟨rfl, rfl⟩
  · exact notifySubscribers_owner ..

variable {send : SendRsrcRequest S} (hsend : ∀ action o m, SameOwner m (send action o m).2)

include hsend

theorem afterLeave_owner (s : S) (o : Outcome) (next : AgpsState) (m : AgpsStateMachine S) :
    let t := m.leave s
    SameOwner m (if !t.hasSubscribers then
        (AgpsState.released, (send .releaseAgpsDataConn o t).2)
      else if !t.hasActiveSubscribers then
        (.releasing, (send .releaseAgpsDataConn o t).2)
      else (next, t)).2 := by
  intro t
  have hl := leave_owner s m
  split_ifs
  · exact hl.trans (hsend ..)
  · exact hl.trans (hsend ..)
  · exact hl

theorem closed_owner (status : AgpsRsrcStatus) (o : Outcome) (m : AgpsStateMachine S) :
    SameOwner m (AgpsReleasingState.closed send o m status).2 := by
  have hn := notifySubscribers_owner (.toGroup .inactive status true) m
  simp only [AgpsReleasingState.closed]
  split_ifs
  · exact hn.trans (hsend ..)
  · exact hn

theorem dispatch_owner (e : RsrcEvent S) (o : Outcome) (m : AgpsStateMachine S) :
    SameOwner m (m.dispatch send e o) := by
  have hself : SameOwner m m := ⟨rfl, rfl⟩
  have hnotify := fun n => notifySubscribers_owner n m
  cases hs : m.mStatePtr with
  | released =>
    simp only [dispatch, hs]
    cases e with
    | subscribe s => exact (addSubscriber_owner s o m).trans (hsend .requestAgpsDataConn o _)
    | _ => exact hself
  | pending =>
    simp only [dispatch, hs]
    cases e with
    | subscribe s => exact addSubscriber_owner s o m
    | unsubscribe s => exact afterLeave_owner hsend s o .pending m
    | granted => exact hnotify (.toGroup .active .granted false)
    | released => exact hself
    | denied => exact hnotify (.toGroup .all .denied true)
  | acquired =>
    simp only [dispatch, hs]
    cases e with
    | subscribe s => exact addSubscriber_owner s o (m.notifyOne (.toOne s .granted false) s)
    | unsubscribe s => exact afterLeave_owner hsend s o .acquired m
    | released => exact hnotify (.toGroup .all .released true)
    | _ => exact hself
  | releasing =>
    simp only [dispatch, hs]
    cases e with
    | subscribe s => exact addSubscriber_owner s o m
    | unsubscribe s => exact leave_owner s m
    | granted => exact hself
    | released => exact closed_owner hsend .released o m
    | denied => exact closed_owner hsend .denied o m

end Owner

variable (action : AGpsStatusValue) (o : Outcome)

section Base

variable {u v : AgpsStateMachine S}

def anyData (_ _ : MachineData S) : Prop := True

theorem base_send_alike (u v : AgpsStateMachine S) (h : Twin anyData u v) :
    (v.sendRsrcRequest action o).1 = (u.sendRsrcRequest action o).1 ∧
      Alike anyData u v (u.sendRsrcRequest action o).2 (v.sendRsrcRequest action o).2 := by
  refine ⟨by rw [sendRsrcRequest_rc, sendRsrcRequest_rc], ?_⟩
  unfold sendRsrcRequest
  rw [h.activeSubscriber, h.type]
  split
  · exact ⟨⟨h.state, h.list, h.enforce, h.type, trivial, h.calls⟩, _, rfl, rfl⟩
  · exact h.alike

theorem dispatch_emptied {e : RsrcEvent S} {o : Outcome} (h : Emptied u)
    (he : ∀ s, e = .unsubscribe s → s ∈ u.mSubscribers) :
    Emptied (u.dispatch sendRsrcRequest e o) := by
  intro hv
  by_cases hs : u.mStatePtr = .released
  · have hnil := h hs
    cases e with
    | subscribe s => simp [dispatch, hs, AgpsReleasedState.onRsrcEvent, sendRsrcRequest_rc] at hv
    | unsubscribe s => simpa [hnil] using he s rfl
    | _ => simpa [dispatch, hs, AgpsReleasedState.onRsrcEvent] using hnil
  · exact dispatch_released (fun a o m => sendRsrcRequest_mSubscribers a o) hs hv

theorem step_emptied {r : Request S} (h : Emptied u) : Emptied (u.step r) := by
  cases r with
  | subscribeRsrc s o =>
    simp only [step, subscribeRsrc]
    split
    · exact h
    · exact dispatch_emptied h (by simp)
  | unsubscribeRsrc s o =>
    simp only [step, unsubscribeRsrc]
    split
    · next x hx => exact dispatch_emptied h (by simpa using (search_toOne hx).1)
    · exact h
  | onRsrcEvent e o =>
    cases e with
    | granted => exact dispatch_emptied h (by simp)
    | released => exact dispatch_emptied h (by simp)
    | denied => exact dispatch_emptied h (by simp)
    | _ => exact h
  | setAPN apn => exact h
  | setBearer bearer => exact h

theorem run_emptied (h : Emptied u) (rs : List (Request S)) : Emptied (u.run rs) := by
  induction rs generalizing u with
  | nil => exact h
  | cons r rs ih => exact ih (step_emptied h)

theorem base_noted (status : AgpsRsrcStatus) (a b : MachineData S) (_ : anyData a b) :
    anyData (noted status a) (noted status b) := trivial

theorem base_dispatch_alike (h : Twin anyData u v) (hu : Emptied u) (e : RsrcEvent S)
    (o : Outcome) (he : ∀ s, e = .unsubscribe s → s ∈ u.mSubscribers) :
    Alike anyData u v (u.dispatch sendRsrcRequest e o) (v.dispatch sendRsrcRequest e o) := by
  refine dispatch_alike base_noted base_send_alike h e o fun s hs hrel => ?_
  have hmem := he s hs
  simp [hu hrel] at hmem

theorem step_alike (h : Twin anyData u v) (hu : Emptied u) {r : Request S}
    (hr : r.isResource = true) : Alike anyData u v (u.step r) (v.step r) := by
  cases r with
  | subscribeRsrc s o =>
    simp only [step, subscribeRsrc, h.enforce, h.hasSubscribers]
    split
    · exact notifyOne_alike base_noted h (h.calls s _ (Or.inr (Or.inr (Or.inl rfl))))
    · exact base_dispatch_alike h hu _ o (by simp)
  | unsubscribeRsrc s o =>
    simp only [step, unsubscribeRsrc, h.search]
    split
    · next x hx => exact base_dispatch_alike h hu _ o (by simpa using (search_toOne hx).1)
    · exact h.alike
  | onRsrcEvent e o =>
    cases e with
    | granted => exact base_dispatch_alike h hu _ o (by simp)
    | released => exact base_dispatch_alike h hu _ o (by simp)
    | denied => exact base_dispatch_alike h hu _ o (by simp)
    | _ => exact h.alike
  | setAPN apn => simp [Request.isResource] at hr
  | setBearer bearer => simp [Request.isResource] at hr

theorem run_alike (h : Twin anyData u v) (hu : Emptied u) {rs : List (Request S)}
    (hrs : ∀ r ∈ rs, r.isResource = true) : Alike anyData u v (u.run rs) (v.run rs) := by
  induction rs generalizing u v with
  | nil => exact h.alike
  | cons r rs ih =>
    have hstep := step_alike h hu (hrs r (List.mem_cons_self ..))
    exact hstep.trans (ih hstep.1 (step_emptied hu) fun q hq => hrs q (List.mem_cons_of_mem _ hq))

def describe (m : AgpsStateMachine S) (s : S) : NifRequest :=
  ⟨m.nif.type, .requestAgpsDataConn, none, true, (wifiInfo s).1, (wifiInfo s).2⟩

variable {m : AgpsStateMachine S}

theorem step_first (hs : m.mStatePtr = .released) (hl : m.mSubscribers = []) (s : S) :
    m.step (.subscribeRsrc s allGood) = { m with
      mStatePtr := .pending
      mSubscribers := [clone s]
      sent := m.sent ++ [.request (describe m (clone s))] } := by
  simp [step, subscribeRsrc, hasSubscribers, hl, dispatch, hs, AgpsReleasedState.onRsrcEvent,
    addSubscriber, search_eq, allGood, sendRsrcRequest, activeSubscriber_eq, emit, describe]

theorem step_again (hs : m.mStatePtr ≠ .released) (s : S) (r : NifRequest) :
    .request r ∉ (m.step (.subscribeRsrc s allGood)).sent.drop m.sent.length := by
  simp only [step, subscribeRsrc]
  split
  · simp [notifyOne, AgpsStateMachine.tell]
  · cases hu : m.mStatePtr with
    | released => exact absurd hu hs
    | pending => simp [dispatch, hu, AgpsPendingState.onRsrcEvent, addSubscriber_sent]
    | acquired =>
      simp [dispatch, hu, AgpsAcquiredState.onRsrcEvent, addSubscriber_sent, notifyOne, AgpsStateMachine.tell]
    | releasing => simp [dispatch, hu, AgpsReleasingState.onRsrcEvent, addSubscriber_sent]

theorem notify_lone {x : S} {calls : List LocCall} (hl : m.mSubscribers = [x])
    (hme : forMe n x = true) (hc : rsrcStatusCalls m.nif x n.rsrcStatus = some calls) :
    (m.notifySubscribers n).sent = m.sent ++ [.notified ⟨x, n.rsrcStatus, calls⟩] := by
  have hx : notifySubscriber m.nif n x = (n.postNotifyDelete, [⟨x, n.rsrcStatus, calls⟩]) := by
    simp [notifySubscriber, notifyRsrcStatus, hme, hc]
  cases hd : n.postNotifyDelete with
  | true => simp [notifySubscribers, hd, hl, deleteMatching, linkedListSearch, hx, AgpsStateMachine.tell]
  | false => simp [notifySubscribers, hd, hl, linkedListSearch, hx, AgpsStateMachine.tell]

theorem step_granted (hs : m.mStatePtr = .pending) (hl : m.mSubscribers = [clone s]) :
    let v := m.step (.onRsrcEvent .granted allGood)
    v.mStatePtr = .acquired ∧ v.mSubscribers = [clone s] ∧ v.nif = m.nif ∧
      ∀ calls, rsrcStatusCalls m.nif s .granted = some calls →
        v.sent = m.sent ++ [.notified ⟨clone s, .granted, calls⟩] := by
  intro v
  have hv : v = { m.notifySubscribers (.toGroup .active .granted false) with
      mStatePtr := .acquired } := by
    simp [v, step, onRsrcEvent, dispatch, hs, AgpsPendingState.onRsrcEvent]
  refine ⟨by rw [hv], ?_, by rw [hv]; exact (notifySubscribers_owner ..).1, fun calls hc => ?_⟩
  · rw [hv]
    simp [notifySubscribers, Notification.toGroup, AgpsStateMachine.tell, hl]
  · rw [hv]
    exact notify_lone hl (by simp) (by rw [calls_clone]; exact hc)

theorem step_refused
    (hs : m.mStatePtr = .pending ∧ status = .denied ∨ m.mStatePtr = .acquired ∧ status = .released)
    (hl : m.mSubscribers = [clone s]) (calls : List LocCall)
    (hc : rsrcStatusCalls m.nif s status = some calls) :
    (m.step (.onRsrcEvent status allGood)).sent =
      m.sent ++ [.notified ⟨clone s, status, calls⟩] := by
  have hlone := notify_lone (m := m) (n := .toGroup .all status true) hl (by simp)
    (by rw [calls_clone]; exact hc)
  rcases hs with ⟨hp, rfl⟩ | ⟨ha, rfl⟩
  · simpa [step, onRsrcEvent, dispatch, hp, AgpsPendingState.onRsrcEvent] using hlone
  · simpa [step, onRsrcEvent, dispatch, ha, AgpsAcquiredState.onRsrcEvent] using hlone

theorem step_gone (hs : m.mStatePtr = .pending) (hl : m.mSubscribers = [clone s])
    (hw : waitForCloseComplete S = false) (calls : List LocCall)
    (hc : rsrcStatusCalls m.nif s .unsubscribe = some calls) :
    ∃ more, (m.step (.unsubscribeRsrc s allGood)).sent =
      m.sent ++ .notified ⟨clone s, .unsubscribe, calls⟩ :: more := by
  have hfound : m.search (.toOne s .max false) = some (clone s) := by
    simp [search_eq, hl]
  have hlone := notify_lone (m := m) (n := .toOne (clone s) .unsubscribe true) hl (by simp)
    (by rw [calls_clone]; exact hc)
  have hleave : m.leave (clone s) = m.notifySubscribers (.toOne (clone s) .unsubscribe true) := by
    simp [leave, hw]
  have hsent : ∀ action u, ∃ more : List (Output S),
      (sendRsrcRequest action allGood u).2.sent = u.sent ++ more := by
    intro action u
    unfold sendRsrcRequest
    split
    · exact ⟨_, rfl⟩
    · exact ⟨[], by simp⟩
  have hends : ∃ more, (m.step (.unsubscribeRsrc s allGood)).sent =
      (m.leave (clone s)).sent ++ more := by
    simp only [step, unsubscribeRsrc, hfound, dispatch, hs, AgpsPendingState.onRsrcEvent]
    split_ifs
    · exact hsent ..
    · exact hsent ..
    · exact ⟨[], by simp⟩
  obtain ⟨more, hmore⟩ := hends
  exact ⟨more, by rw [hmore, hleave, hlone, List.append_assoc]; rfl⟩

theorem delivered_run (hd : Delivered S status) (s : S) :
    ∃ (rs : List (Request S)) (k : Nat), (∀ r ∈ rs, r.isResource = true) ∧
      ∀ m : AgpsStateMachine S, m.mStatePtr = .released → m.mSubscribers = [] →
        ∀ calls, rsrcStatusCalls m.nif s status = some calls →
          ((m.run rs).sent.drop m.sent.length)[k]? = some (.notified ⟨clone s, status, calls⟩) := by
  rcases hd with rfl | rfl | rfl | ⟨rfl, hw⟩
  · refine ⟨[.subscribeRsrc s allGood, .onRsrcEvent .granted allGood], 1,
      by simp [Request.isResource], fun m hs hl calls hc => ?_⟩
    have h := (step_granted (m := m.step (.subscribeRsrc s allGood)) (s := s)
      (by rw [step_first hs hl]) (by rw [step_first hs hl])).2.2.2 calls
      (by rw [step_first hs hl]; exact hc)
    have hrun : m.run [.subscribeRsrc s allGood, .onRsrcEvent .granted allGood] =
      (m.step (.subscribeRsrc s allGood)).step (.onRsrcEvent .granted allGood) := rfl
    rw [hrun, h, step_first hs hl]
    simp
  · refine ⟨[.subscribeRsrc s allGood, .onRsrcEvent .granted allGood,
      .onRsrcEvent .released allGood], 2, by simp [Request.isResource], fun m hs hl calls hc => ?_⟩
    obtain ⟨hstate, hlist, hnif, hsent⟩ :=
      step_granted (m := m.step (.subscribeRsrc s allGood)) (s := s)
        (by rw [step_first hs hl]) (by rw [step_first hs hl])
    obtain ⟨granted, hg⟩ := Option.isSome_iff_exists.mp
      (handled (m.step (.subscribeRsrc s allGood)).nif s .granted (by decide) (by decide))
    have h := step_refused (Or.inr ⟨hstate, rfl⟩) hlist calls
      (by rw [hnif, step_first hs hl]; exact hc)
    have hrun : m.run [.subscribeRsrc s allGood, .onRsrcEvent .granted allGood,
      .onRsrcEvent .released allGood] = ((m.step (.subscribeRsrc s allGood)).step
        (.onRsrcEvent .granted allGood)).step (.onRsrcEvent .released allGood) := rfl
    rw [hrun, h, hsent granted hg, step_first hs hl]
    simp
  · refine ⟨[.subscribeRsrc s allGood, .onRsrcEvent .denied allGood], 1,
      by simp [Request.isResource], fun m hs hl calls hc => ?_⟩
    have h := step_refused (m := m.step (.subscribeRsrc s allGood)) (s := s)
      (Or.inl ⟨by rw [step_first hs hl], rfl⟩) (by rw [step_first hs hl]) calls
      (by rw [step_first hs hl]; exact hc)
    have hrun : m.run [.subscribeRsrc s allGood, .onRsrcEvent .denied allGood] =
      (m.step (.subscribeRsrc s allGood)).step (.onRsrcEvent .denied allGood) := rfl
    rw [hrun, h, step_first hs hl]
    simp
  · refine ⟨[.subscribeRsrc s allGood, .unsubscribeRsrc s allGood], 1,
      by simp [Request.isResource], fun m hs hl calls hc => ?_⟩
    obtain ⟨more, h⟩ := step_gone (m := m.step (.subscribeRsrc s allGood)) (s := s)
      (by rw [step_first hs hl]) (by rw [step_first hs hl]) hw calls
      (by rw [step_first hs hl]; exact hc)
    have hrun : m.run [.subscribeRsrc s allGood, .unsubscribeRsrc s allGood] =
      (m.step (.subscribeRsrc s allGood)).step (.unsubscribeRsrc s allGood) := rfl
    rw [hrun, h, step_first hs hl]
    simp

theorem base_send_owner (m : AgpsStateMachine S) : SameOwner m (m.sendRsrcRequest action o).2 := by
  unfold sendRsrcRequest
  split <;> exact ⟨rfl, rfl⟩

theorem run_owner (m : AgpsStateMachine S) (rs : List (Request S)) :
    (m.run rs).nif.type = m.nif.type ∧
      (m.run rs).mEnforceSingleSubscriber = m.mEnforceSingleSubscriber := by
  induction rs generalizing m with
  | nil => exact ⟨rfl, rfl⟩
  | cons r rs ih =>
    have hstep : (m.step r).nif.type = m.nif.type ∧
        (m.step r).mEnforceSingleSubscriber = m.mEnforceSingleSubscriber := by
      have hevent : ∀ e o, SameOwner m (m.dispatch sendRsrcRequest e o) := fun e o =>
        dispatch_owner base_send_owner e o m
      have hself : SameOwner m m := ⟨rfl, rfl⟩
      have hlift : ∀ {w}, SameOwner m w → w.nif.type = m.nif.type ∧
          w.mEnforceSingleSubscriber = m.mEnforceSingleSubscriber := fun h => ⟨by rw [h.1], h.2⟩
      cases r with
      | subscribeRsrc s o =>
        simp only [step, subscribeRsrc]
        split
        · exact hlift hself
        · exact hlift (hevent ..)
      | unsubscribeRsrc s o =>
        simp only [step, unsubscribeRsrc]
        split
        · exact hlift (hevent ..)
        · exact hlift hself
      | onRsrcEvent e o =>
        cases e with
        | granted => exact hlift (hevent ..)
        | released => exact hlift (hevent ..)
        | denied => exact hlift (hevent ..)
        | _ => exact hlift hself
      | setAPN apn => exact ⟨rfl, rfl⟩
      | setBearer bearer => exact ⟨rfl, rfl⟩
    have hrest := ih (m.step r)
    exact ⟨hrest.1.trans hstep.1, hrest.2.trans hstep.2⟩

def FreshNif (m : AgpsStateMachine S) : Prop :=
  ∀ (s : S) (status : AgpsRsrcStatus), Delivered S status →
    rsrcStatusCalls m.nif s status =
      rsrcStatusCalls ⟨m.nif.type, none, agpsApnBearerInvalid⟩ s status

theorem base_behavesAs [Inhabited S] (he : Emptied m) :
    BehavesAs run m (make m.nif.type m.mEnforceSingleSubscriber) ↔
      m.mStatePtr = .released ∧ FreshNif m := by
  constructor
  · intro h
    have hrel : m.mStatePtr = .released := by
      by_contra hne
      let new : AgpsStateMachine S := make m.nif.type m.mEnforceSingleSubscriber
      have hfirst := step_first (m := new) rfl rfl (default : S)
      have hmem : .request (describe new (clone default)) ∈
          (run new [.subscribeRsrc default allGood]).sent.drop new.sent.length := by
        have hrun : run new [.subscribeRsrc default allGood] =
          new.step (.subscribeRsrc default allGood) := rfl
        rw [hrun, hfirst, List.drop_left]
        exact List.mem_singleton_self _
      rw [← h [.subscribeRsrc default allGood] (by simp [Request.isResource])] at hmem
      exact step_again hne default _ hmem
    refine ⟨hrel, fun s status hd => ?_⟩
    obtain ⟨rs, k, hrs, htell⟩ := delivered_run hd s
    have hne : status ≠ .subscribe ∧ status ≠ .max := by
      rcases hd with rfl | rfl | rfl | ⟨rfl, -⟩ <;> decide
    obtain ⟨calls, hcalls⟩ := Option.isSome_iff_exists.mp
      (handled m.nif s status hne.1 hne.2)
    obtain ⟨fresh, hfresh⟩ := Option.isSome_iff_exists.mp
      (handled ⟨m.nif.type, none, agpsApnBearerInvalid⟩ s status hne.1 hne.2)
    have hold := htell m hrel (he hrel) calls hcalls
    have hnew := htell (make m.nif.type m.mEnforceSingleSubscriber) rfl rfl fresh hfresh
    rw [h rs hrs, hnew] at hold
    have heq : fresh = calls := by simpa using hold
    rw [hcalls, hfresh, heq]
  · rintro ⟨hrel, hnif⟩ rs hrs
    have htwin : Twin anyData m (make m.nif.type m.mEnforceSingleSubscriber) :=
      ⟨hrel.symm, (he hrel).symm, rfl, rfl, trivial, fun s status hd => (hnif s status hd).symm⟩
    obtain ⟨-, out, hold, hnew⟩ := run_alike htwin he hrs
    rw [hold, hnew, List.drop_left, List.drop_left]

end Base

namespace DSStateMachine

variable {u v : DSStateMachine}

def sameRetries (a b : DSData) : Prop := b.mRetries = a.mRetries

theorem noted_sameRetries (status : AgpsRsrcStatus) (a b : DSData) (h : sameRetries a b) :
    sameRetries (informStatusData status a) (informStatusData status b) := by
  cases status with
  | denied => rfl
  | _ => exact h

theorem send_alike (u v : DSStateMachine) (h : Twin sameRetries u v) :
    (sendRsrcRequest action o v).1 = (sendRsrcRequest action o u).1 ∧
      Alike sameRetries u v (sendRsrcRequest action o u).2 (sendRsrcRequest action o v).2 := by
  obtain ⟨hret, hdata, hout⟩ := afterCall_congr (dataCallCb action o) o.timerOk
    ((u.activeSubscriber.map DSSubscriber.ID).getD (-1)) h.data
  rw [sendRsrcRequest_eq, sendRsrcRequest_eq, h.activeSubscriber]
  exact ⟨hret, ⟨h.state, h.list, h.enforce, h.type, hdata, h.calls⟩, _, rfl, by rw [hout]⟩

theorem event_alike (h : Twin sameRetries u v) (e : RsrcEvent DSSubscriber) (o : Outcome) :
    Alike sameRetries u v (u.dispatch sendRsrcRequest e o) (v.dispatch sendRsrcRequest e o) :=
  dispatch_alike noted_sameRetries send_alike h e o fun _ _ _ => rfl

theorem stepCall_alike (h : Twin sameRetries u v) {r : Request DSSubscriber}
    (hr : r.isResource = true) : Alike sameRetries u v (stepCall u r) (stepCall v r) := by
  cases r with
  | subscribeRsrc s o =>
    simp only [stepCall, subscribeRsrc, h.enforce, h.hasSubscribers]
    split
    · exact notifyOne_alike noted_sameRetries h rfl
    · exact event_alike h ..
  | unsubscribeRsrc s o =>
    simp only [stepCall, unsubscribeRsrc, h.search]
    split
    · exact event_alike h ..
    · exact h.alike
  | onRsrcEvent e o =>
    cases e with
    | granted => exact event_alike h ..
    | released =>
      have hrel := event_alike h .released o
      simp only [stepCall, onRsrcEvent, hrel.1.state, h.state]
      split
      · exact hrel
      · exact hrel.trans (event_alike hrel.1 .denied o)
    | denied => exact event_alike h ..
    | _ => exact h.alike
  | setAPN apn => simp [Request.isResource] at hr
  | setBearer bearer => simp [Request.isResource] at hr

def calls (m : DSStateMachine) (rs : List (Request DSSubscriber)) : DSStateMachine :=
  rs.foldl stepCall m

theorem calls_alike (h : Twin sameRetries u v) {rs : List (Request DSSubscriber)}
    (hrs : ∀ r ∈ rs, r.isResource = true) : Alike sameRetries u v (calls u rs) (calls v rs) := by
  induction rs generalizing u v with
  | nil => exact h.alike
  | cons r rs ih =>
    have hstep := stepCall_alike h (hrs r (List.mem_cons_self ..))
    exact hstep.trans (ih hstep.1 fun q hq => hrs q (List.mem_cons_of_mem _ hq))

theorem ds_step_first {m : DSStateMachine} (hs : m.mStatePtr = .released)
    (he : m.mEnforceSingleSubscriber = false) (s : DSSubscriber) :
    .dataCall .requestAgpsDataConn 0 ∈
      (stepCall m (.subscribeRsrc s allGood)).sent.drop m.sent.length := by
  have hsent : (m.addSubscriber s allGood).sent = m.sent := addSubscriber_sent ..
  simp only [stepCall, subscribeRsrc, he, dispatch, hs, AgpsReleasedState.onRsrcEvent,
    sendRsrcRequest_eq, hsent]
  simp [dataCallCb, allGood]

theorem ds_step_again {m : DSStateMachine} (hs : m.mStatePtr ≠ .released) (s : DSSubscriber) :
    .dataCall .requestAgpsDataConn 0 ∉
      (stepCall m (.subscribeRsrc s allGood)).sent.drop m.sent.length := by
  simp only [stepCall, subscribeRsrc]
  split
  · simp [notifyOne, AgpsStateMachine.tell]
  · cases hu : m.mStatePtr with
    | released => exact absurd hu hs
    | pending => simp [dispatch, hu, AgpsPendingState.onRsrcEvent, addSubscriber_sent]
    | acquired =>
      simp [dispatch, hu, AgpsAcquiredState.onRsrcEvent, addSubscriber_sent, notifyOne, AgpsStateMachine.tell]
    | releasing => simp [dispatch, hu, AgpsReleasingState.onRsrcEvent, addSubscriber_sent]

theorem ds_step_leaves {m : DSStateMachine} (hs : m.mStatePtr = .released)
    {s : DSSubscriber} (hmem : s ∈ m.mSubscribers) :
    (stepCall m (.unsubscribeRsrc s allGood)).sent.drop m.sent.length ≠ [] := by
  obtain ⟨x, hx⟩ : ∃ x, m.search (.toOne s .max false) = some x := by
    rw [search_eq, ← Option.isSome_iff_exists, List.find?_isSome]
    exact ⟨s, hmem, by simp⟩
  simp [stepCall, unsubscribeRsrc, hx, dispatch, hs, AgpsReleasedState.onRsrcEvent, notifyOne,
    AgpsStateMachine.tell, Agps.notifyRsrcStatus, Subscriber.rsrcStatusCalls, informStatusCalls]

def busySubscribe (s : DSSubscriber) : Request DSSubscriber := .subscribeRsrc s busy

theorem busy_step {m : DSStateMachine} (hs : m.mStatePtr = .released)
    (he : m.mEnforceSingleSubscriber = false) (s : DSSubscriber) :
    let v := stepCall m (busySubscribe s)
    v.mStatePtr = .released ∧ v.mEnforceSingleSubscriber = false ∧
      ((mRetries m).toNat < 4 → (mRetries v).toNat = (mRetries m).toNat + 1 ∧
        ∃ out, v.sent = m.sent ++ out ∧ out.all (!isDenial ·)) ∧
      ((mRetries m).toNat = 4 → ∃ out, v.sent = m.sent ++ out ∧ out.any isDenial) := by
  intro v
  have hsent : (m.addSubscriber s busy).sent = m.sent := addSubscriber_sent ..
  have hdata : (m.addSubscriber s busy).data = m.data := by
    unfold addSubscriber
    split <;> rfl
  have henf : (m.addSubscriber s busy).mEnforceSingleSubscriber = false := by
    rw [(addSubscriber_owner s busy m).2, he]
  have hv : v = { (sendRsrcRequest .requestAgpsDataConn busy (m.addSubscriber s busy)).2 with
      mStatePtr := if (sendRsrcRequest .requestAgpsDataConn busy (m.addSubscriber s busy)).1 = 0
        then .pending else .released } := by
    simp [v, stepCall, busySubscribe, subscribeRsrc, he, dispatch, hs,
      AgpsReleasedState.onRsrcEvent]
  have hret : dataCallCb .requestAgpsDataConn busy = errEngineBusy := rfl
  have htoNat : (DSData.mRetries m.data).toNat = (mRetries m).toNat := rfl
  rw [sendRsrcRequest_eq, hdata, hret] at hv
  by_cases hmax : DSData.mRetries m.data + 1 > maxStartDataCallRetries
  · have h4 : ¬ (mRetries m).toNat < 4 := by
      have := UInt8.lt_iff_toNat_lt.mp hmax
      rw [UInt8.toNat_add] at this
      change 4 < _ at this
      simp only [UInt8.toNat_one] at this
      omega
    simp only [afterCall, hmax, if_true, hsent] at hv
    refine ⟨by rw [hv]; rfl, by rw [hv]; exact henf, fun hlt => absurd hlt h4, fun _ => ?_⟩
    exact ⟨_, by rw [hv], by simp [isDenial]⟩
  · have h4 : (mRetries m).toNat ≠ 4 := by
      intro h4
      apply hmax
      rw [gt_iff_lt, UInt8.lt_iff_toNat_lt, UInt8.toNat_add, htoNat, h4]
      decide
    have htimer : busy.timerOk = true := rfl
    simp only [afterCall, hmax, htimer, if_true, if_false, hsent] at hv
    refine ⟨by rw [hv]; rfl, by rw [hv]; exact henf, fun hlt => ⟨?_, ?_⟩, fun h => absurd h h4⟩
    · rw [hv]
      show (DSData.mRetries m.data + 1).toNat = _
      rw [UInt8.toNat_add, htoNat, UInt8.toNat_one]
      omega
    · exact ⟨_, by rw [hv], by simp [isDenial]⟩

theorem busy_steps (s : DSSubscriber) (n : Nat) {m : DSStateMachine}
    (hs : m.mStatePtr = .released) (he : m.mEnforceSingleSubscriber = false)
    (hn : (mRetries m).toNat + n ≤ 4) :
    let v := calls m (List.replicate n (busySubscribe s))
    v.mStatePtr = .released ∧ v.mEnforceSingleSubscriber = false ∧
      (mRetries v).toNat = (mRetries m).toNat + n ∧
      ∃ out, v.sent = m.sent ++ out ∧ out.all (!isDenial ·) := by
  induction n generalizing m with
  | zero => exact ⟨hs, he, rfl, [], by simp [calls], rfl⟩
  | succ n ih =>
    obtain ⟨hs', he', hlow, -⟩ := busy_step hs he s
    obtain ⟨hr, out, hout, hall⟩ := hlow (by omega)
    obtain ⟨hs'', he'', hr', more, hmore, hall'⟩ := ih hs' he' (by omega)
    refine ⟨hs'', he'', ?_, out ++ more, ?_, ?_⟩
    · have hcalls : calls m (List.replicate (n + 1) (busySubscribe s)) =
        calls (stepCall m (busySubscribe s)) (List.replicate n (busySubscribe s)) := rfl
      rw [hcalls, hr', hr]
      omega
    · have hcalls : calls m (List.replicate (n + 1) (busySubscribe s)) =
        calls (stepCall m (busySubscribe s)) (List.replicate n (busySubscribe s)) := rfl
      rw [hcalls, hmore, hout, List.append_assoc]
    · rw [List.all_append, hall, hall']
      rfl

theorem busy_denied (s : DSSubscriber) {m : DSStateMachine} (hs : m.mStatePtr = .released)
    (he : m.mEnforceSingleSubscriber = false) (hr : (mRetries m).toNat ≤ 4) :
    ∃ out, (calls m (List.replicate (5 - (mRetries m).toNat) (busySubscribe s))).sent =
      m.sent ++ out ∧ out.any isDenial := by
  obtain ⟨hs', he', hr', out, hout, -⟩ := busy_steps s (4 - (mRetries m).toNat) hs he (by omega)
  obtain ⟨-, -, -, hlast⟩ := busy_step hs' he' s
  obtain ⟨more, hmore, hany⟩ := hlast (by omega)
  refine ⟨out ++ more, ?_, by simp [List.any_append, hany]⟩
  have hlen : 5 - (mRetries m).toNat = 4 - (mRetries m).toNat + 1 := by omega
  have hcalls : calls m (List.replicate (5 - (mRetries m).toNat) (busySubscribe s)) =
      stepCall (calls m (List.replicate (4 - (mRetries m).toNat) (busySubscribe s)))
        (busySubscribe s) := by
    rw [hlen, List.replicate_succ', calls, List.foldl_append]
    rfl
  rw [hcalls, hmore, hout, List.append_assoc]

theorem note_le {r r' : UInt8} {d d' : Due} {out : Output DSSubscriber}
    (h : note (r, d) out = some (r', d')) (hr : r.toNat ≤ 4) : r'.toNat ≤ 4 := by
  have hnext : ¬ r + 1 > maxStartDataCallRetries → (r + 1).toNat ≤ 4 := by
    intro hmax
    have := (UInt8.lt_iff_toNat_lt.not.mp hmax)
    change ¬ 4 < _ at this
    omega
  cases out with
  | request q => cases d <;> simp [note] at h
  | dataCall action ret =>
    cases d with
    | denial => simp [note] at h
    | _ =>
      simp only [note] at h
      split_ifs at h with hbusy hmax
      all_goals simp only [Option.some.injEq, Prod.mk.injEq] at h
      · exact h.1 ▸ hr
      · exact h.1 ▸ hnext hmax
      · exact h.1 ▸ hr
      · exact h.1 ▸ hr
  | notified n =>
    cases d with
    | denial => simp [note] at h
    | _ =>
      simp only [note, Option.some.injEq, Prod.mk.injEq] at h
      rw [← h.1]
      split
      · decide
      · exact hr
  | call c =>
    cases d with
    | denial =>
      cases c with
      | requestATL k t =>
        simp only [note, Option.some.injEq, Prod.mk.injEq] at h
        rw [← h.1]
        decide
      | _ => simp [note] at h
    | _ =>
      cases c with
      | requestATL k t => simp [note] at h
      | _ =>
        simp only [note, Option.some.injEq, Prod.mk.injEq] at h
        rw [← h.1]
        exact hr
  | retryTimer =>
    cases d with
    | timer =>
      simp only [note, Option.some.injEq, Prod.mk.injEq] at h
      rw [← h.1]
      exact hr
    | _ => simp [note] at h

theorem notes_le {log : List (Output DSSubscriber)} {x y : UInt8 × Due}
    (h : log.foldlM note x = some y) (hr : x.1.toNat ≤ 4) : y.1.toNat ≤ 4 := by
  induction log generalizing x with
  | nil =>
    simp only [List.foldlM_nil, Option.pure_def, Option.some.injEq] at h
    exact h ▸ hr
  | cons out log ih =>
    rw [List.foldlM_cons, Option.bind_eq_bind, Option.bind_eq_some_iff] at h
    obtain ⟨z, hz, hrest⟩ := h
    exact ih hrest (note_le hz hr)

theorem run_mRetries (rs : List DSRequest) : (mRetries (run make rs)).toNat ≤ 4 := by
  obtain ⟨new, hlog⟩ := run_logs make rs
  obtain ⟨due, -, hfold⟩ := hlog.noted .nothing (by decide)
  exact notes_le hfold (by decide)

theorem ds_send_owner (m : DSStateMachine) : SameOwner m (sendRsrcRequest action o m).2 := by
  rw [sendRsrcRequest_eq]
  exact ⟨rfl, rfl⟩

theorem run_notEnforced (rs : List DSRequest) :
    (run make rs).nif.type = agpsTypeInvalid ∧
      (run make rs).mEnforceSingleSubscriber = false := by
  have hrun : ∀ (rs : List DSRequest) (m : DSStateMachine),
      (run m rs).nif.type = m.nif.type ∧
        (run m rs).mEnforceSingleSubscriber = m.mEnforceSingleSubscriber := by
    intro rs
    induction rs with
    | nil => exact fun m => ⟨rfl, rfl⟩
    | cons r rs ih =>
      intro m
      have hstep : (step m r).nif.type = m.nif.type ∧
          (step m r).mEnforceSingleSubscriber = m.mEnforceSingleSubscriber := by
        cases r with
        | call r =>
          exact stepCall_rule (P := fun v => v.nif.type = m.nif.type ∧
              v.mEnforceSingleSubscriber = m.mEnforceSingleSubscriber) ⟨rfl, rfl⟩
            (fun e o => by
              have h := dispatch_owner ds_send_owner e o m
              exact ⟨by rw [h.1], h.2⟩)
            (fun s => ⟨rfl, rfl⟩) (fun apn => ⟨rfl, rfl⟩) (fun bearer => ⟨rfl, rfl⟩) r
        | retryCallback =>
          simp only [step, retryCallback]
          split
          · exact ⟨rfl, rfl⟩
          · split <;> exact ⟨rfl, rfl⟩
      have hrest := ih (step m r)
      exact ⟨hrest.1.trans hstep.1, hrest.2.trans hstep.2⟩
  exact hrun rs make

theorem kept_behavesAs (rs : List DSRequest) :
    let m := run make rs
    BehavesAs calls m make ↔
      m.mStatePtr = .released ∧ m.mSubscribers = [] ∧ mRetries m = 0 := by
  intro m
  obtain ⟨htype, henf⟩ := run_notEnforced rs
  constructor
  · intro h
    have hrel : m.mStatePtr = .released := by
      by_contra hne
      have hsame := h [.subscribeRsrc ⟨0, false⟩ allGood] (by simp [Request.isResource])
      have hnew := ds_step_first (m := make) rfl rfl ⟨0, false⟩
      exact ds_step_again hne ⟨0, false⟩ (hsame ▸ hnew)
    have hnil : m.mSubscribers = [] := by
      by_contra hne
      obtain ⟨s, hmem⟩ := List.exists_mem_of_ne_nil _ hne
      exact ds_step_leaves hrel hmem
        (h [.unsubscribeRsrc s allGood] (by simp [Request.isResource]))
    refine ⟨hrel, hnil, ?_⟩
    by_contra hne
    have hpos : (mRetries m).toNat ≠ 0 := fun h0 => hne (UInt8.toNat_inj.mp h0)
    have hle : (mRetries m).toNat ≤ 4 := run_mRetries rs
    obtain ⟨out, hout, hany⟩ := busy_denied ⟨0, false⟩ hrel henf hle
    obtain ⟨-, -, -, fresh, hfresh, hall⟩ := busy_steps (m := make) ⟨0, false⟩
      (5 - (mRetries m).toNat) rfl rfl (by
        have h0 : (mRetries make).toNat = 0 := rfl
        omega)
    have hsame := h (List.replicate (5 - (mRetries m).toNat) (busySubscribe ⟨0, false⟩)) (by
      intro r hr
      rw [List.eq_of_mem_replicate hr]
      rfl)
    rw [hout, hfresh, List.drop_left, List.drop_left] at hsame
    rw [← hsame, List.all_eq_not_any_not] at hall
    simp [hany] at hall
  · rintro ⟨hrel, hnil, hr⟩ qs hqs
    have htwin : Twin sameRetries m make :=
      ⟨hrel.symm, hnil.symm, henf.symm, htype.symm, hr.symm, fun _ _ _ => rfl⟩
    obtain ⟨-, out, hold, hnew⟩ := calls_alike htwin hqs
    rw [hold, hnew, List.drop_left, List.drop_left]

end DSStateMachine

structure LocEng (S T : Type) [Subscriber S] [Subscriber T] where
  agpsStatusCb : Bool
  agnssNif : Option (AgpsStateMachine S)
  internetNif : Option (AgpsStateMachine T)
  dsNif : Option DSStateMachine

def agpsTypeWwanAny : Int := 3

/-- What one modem lifetime asks of the machines, `none` where the machine was not created. -/
structure Lifetime (S T : Type) where
  agnss : Option (List (Request S))
  internet : Option (List (Request T))
  ds : Option (List DSRequest)

section Engine

variable {S T : Type} [Subscriber S] [Subscriber T]

def LocEng.after (agpsStatusCb : Bool) (l : Lifetime S T) : LocEng S T where
  agpsStatusCb := agpsStatusCb
  agnssNif := l.agnss.map ((make agpsTypeSupl false).run ·)
  internetNif := l.internet.map ((make agpsTypeWwanAny false).run ·)
  dsNif := l.ds.map (DSStateMachine.run DSStateMachine.make ·)

/-- `loc_eng_handle_engine_up`, up to `loc_eng_agps_reinit`. -/
def LocEng.handleEngineUp (e : LocEng S T) : LocEng S T :=
  if e.agpsStatusCb then
    { e with
      agnssNif := e.agnssNif.map dropAllSubscribers
      internetNif := e.internetNif.map dropAllSubscribers }
  else e

def LocEng.AsNew (e : LocEng S T) : Prop :=
  (∀ m ∈ e.agnssNif, BehavesAs run m (make agpsTypeSupl false)) ∧
    (∀ m ∈ e.internetNif, BehavesAs run m (make agpsTypeWwanAny false)) ∧
      ∀ m ∈ e.dsNif, BehavesAs DSStateMachine.calls m DSStateMachine.make

def LocEng.AtRest (e : LocEng S T) : Prop :=
  (∀ m ∈ e.agnssNif, m.mStatePtr = .released ∧ FreshNif m) ∧
    (∀ m ∈ e.internetNif, m.mStatePtr = .released ∧ FreshNif m) ∧
      ∀ m ∈ e.dsNif, m.mStatePtr = .released ∧ m.mSubscribers = [] ∧ DSStateMachine.mRetries m = 0

theorem cleaned_behavesAs {U : Type} [Subscriber U] [Inhabited U] (type : Int)
    (cleaned : Bool) (rs : List (Request U)) :
    let m := (make type false).run rs
    BehavesAs run (if cleaned then m.dropAllSubscribers else m) (make type false) ↔
      m.mStatePtr = .released ∧ FreshNif m := by
  intro m
  obtain ⟨htype, henf⟩ := run_owner (make type false : AgpsStateMachine U) rs
  have hempty : Emptied m := run_emptied (fun _ => rfl) rs
  have hnew : (make type false : AgpsStateMachine U) =
      make m.nif.type m.mEnforceSingleSubscriber := by
    rw [htype, henf]
    rfl
  rw [hnew]
  cases cleaned with
  | true => exact base_behavesAs (m := m.dropAllSubscribers) fun _ => rfl
  | false => exact base_behavesAs hempty

theorem restart_as_new [Inhabited S] [Inhabited T] (agpsStatusCb : Bool) (l : Lifetime S T) :
    (LocEng.after agpsStatusCb l).handleEngineUp.AsNew ↔ (LocEng.after agpsStatusCb l).AtRest := by
  obtain ⟨agnss, internet, ds⟩ := l
  have hbase : ∀ {U : Type} [Subscriber U] [Inhabited U] (type : Int)
      (l : Option (List (Request U))),
      (∀ m ∈ (l.map ((make type false : AgpsStateMachine U).run ·)).map
          (fun m => if agpsStatusCb then m.dropAllSubscribers else m),
        BehavesAs run m (make type false)) ↔
      ∀ m ∈ l.map ((make type false : AgpsStateMachine U).run ·),
        m.mStatePtr = .released ∧ FreshNif m := by
    intro U _ _ type l
    cases l with
    | none => simp
    | some rs => simpa using cleaned_behavesAs type agpsStatusCb rs
  have hds : (∀ m ∈ ds.map (DSStateMachine.run DSStateMachine.make ·),
        BehavesAs DSStateMachine.calls m DSStateMachine.make) ↔
      ∀ m ∈ ds.map (DSStateMachine.run DSStateMachine.make ·), m.mStatePtr = .released ∧
        m.mSubscribers = [] ∧ DSStateMachine.mRetries m = 0 := by
    cases ds with
    | none => simp
    | some rs => simpa using DSStateMachine.kept_behavesAs rs
  have hup : (LocEng.after agpsStatusCb ⟨agnss, internet, ds⟩ : LocEng S T).handleEngineUp =
      { LocEng.after agpsStatusCb ⟨agnss, internet, ds⟩ with
        agnssNif := (agnss.map ((make agpsTypeSupl false).run ·)).map
          fun m => if agpsStatusCb then m.dropAllSubscribers else m
        internetNif := (internet.map ((make agpsTypeWwanAny false).run ·)).map
          fun m => if agpsStatusCb then m.dropAllSubscribers else m } := by
    cases agpsStatusCb with
    | true => rfl
    | false => simp [LocEng.handleEngineUp, LocEng.after, Function.comp_def]
  rw [hup]
  exact and_congr (hbase agpsTypeSupl agnss) (and_congr (hbase agpsTypeWwanAny internet) hds)

end Engine

instance : Inhabited ATLSubscriber := ⟨⟨0, false⟩⟩

instance : Inhabited BITSubscriber := ⟨⟨0, Vector.replicate 16 0⟩⟩

/-- The modem restarts while the NIF is being requested; the next client is put on the list of a
pending machine and waits for an answer to a request that is never sent. -/
theorem restart_while_pending : ¬ ∀ (agpsStatusCb : Bool)
    (l : Lifetime ATLSubscriber BITSubscriber), agpsStatusCb = true →
      (LocEng.after agpsStatusCb l).handleEngineUp.AsNew := by
  intro h
  have hnew := (h true ⟨some [.subscribeRsrc ⟨1, false⟩ allGood], none, none⟩ rfl).1 _ rfl
    [.subscribeRsrc ⟨1, false⟩ allGood] (by simp [Request.isResource])
  exact absurd (congrArg List.length hnew) (by decide)

end Wt88047.Agps
