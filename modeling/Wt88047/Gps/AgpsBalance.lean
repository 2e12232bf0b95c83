import Wt88047.Gps.AgpsInvariant
import Wt88047.Lib.Runs

/-! The messages between a base machine and its servicer. Every status event answers one message
that has been sent; the machine cannot tell which. -/

namespace Wt88047.Agps

open Subscriber AgpsStateMachine

variable {S : Type} [Subscriber S] {m : AgpsStateMachine S}

def Output.asked {S : Type} : Output S → Option AGpsStatusValue
  | .request r => some r.status
  | .dataCall .. | .notified _ | .call _ | .retryTimer => none

def AgpsStateMachine.asked (m : AgpsStateMachine S) : List AGpsStatusValue :=
  m.sent.filterMap Output.asked

section Asked

@[simp] theorem tell_asked (notices : List (Notice S)) : (m.tell notices).asked = m.asked := by
  have hnone : (notices.map Output.notified).filterMap Output.asked = [] := by
    simp [Output.asked]
  simp only [asked, AgpsStateMachine.tell, List.filterMap_append, hnone, List.append_nil]

theorem calls_asked {S : Type} (calls : List LocCall) :
    (calls.map (Output.call (S := S))).filterMap Output.asked = [] := by
  simp [Output.asked]

@[simp] theorem notifyOne_asked (n : Notification S) (s : S) :
    (m.notifyOne n s).asked = m.asked := tell_asked _

@[simp] theorem notifySubscribers_asked (n : Notification S) :
    (m.notifySubscribers n).asked = m.asked := by
  unfold notifySubscribers
  split
  · exact tell_asked _
  · exact tell_asked _

@[simp] theorem addSubscriber_asked (s : S) (o : Outcome) :
    (m.addSubscriber s o).asked = m.asked := by
  unfold addSubscriber
  split <;> rfl

@[simp] theorem leave_asked (s : S) : (m.leave s).asked = m.asked := by
  unfold leave
  split
  · simp only [asked, List.filterMap_append, calls_asked, List.append_nil]
  · exact notifySubscribers_asked _

theorem send_request {o : Outcome} (h : m.hasActiveSubscribers = true) :
    (m.sendRsrcRequest .requestAgpsDataConn o).2.asked = m.asked ++ [.requestAgpsDataConn] := by
  obtain ⟨s, hs⟩ := Option.isSome_iff_exists.mp h
  simp [sendRsrcRequest, hs, asked, emit, Output.asked]

theorem send_release {o : Outcome} (h : m.hasActiveSubscribers = false) :
    (m.sendRsrcRequest .releaseAgpsDataConn o).2.asked = m.asked ++ [.releaseAgpsDataConn] := by
  have hs : m.activeSubscriber = none := by simpa [hasActiveSubscribers] using h
  simp [sendRsrcRequest, hs, asked, emit, Output.asked]

end Asked

inductive Moves {S : Type} : AgpsState → RsrcEvent S → AgpsState → List AGpsStatusValue → Prop
  | openNif (s : S) : Moves .released (.subscribe s) .pending [.requestAgpsDataConn]
  | reopen {e : RsrcEvent S} : e = .released ∨ e = .denied →
      Moves .releasing e .pending [.requestAgpsDataConn]
  | close {a b : AgpsState} (s : S) : a = .pending ∨ a = .acquired →
      b = .released ∨ b = .releasing → Moves a (.unsubscribe s) b [.releaseAgpsDataConn]
  | granted : Moves .pending .granted .acquired []
  | denied : Moves .pending .denied .released []
  | forced : Moves .acquired .released .released []
  | closed {e : RsrcEvent S} : Moves .releasing e .released []
  | subscribed {a : AgpsState} (s : S) : a ≠ .released → Moves a (.subscribe s) a []
  | left {a : AgpsState} (s : S) : Moves a (.unsubscribe s) a []
  | ignored {a : AgpsState} {e : RsrcEvent S} : (a = .pending → e = .released) →
      (a = .acquired → e = .granted ∨ e = .denied) → Moves a e a []

theorem leave_moves {s : S} {o : Outcome} {next : AgpsState}
    (hnext : next = .pending ∨ next = .acquired) :
    let r := if !m.hasSubscribers then
        (AgpsState.released, (m.sendRsrcRequest .releaseAgpsDataConn o).2)
      else if !m.hasActiveSubscribers then
        (.releasing, (m.sendRsrcRequest .releaseAgpsDataConn o).2)
      else (next, m)
    ∃ new, r.2.asked = m.asked ++ new ∧ Moves next (.unsubscribe s) r.1 new := by
  by_cases hs : m.hasSubscribers = true
  · by_cases ha : m.hasActiveSubscribers = true
    · exact ⟨[], by simp [hs, ha], by simpa [hs, ha] using .left s⟩
    · have hrel := send_release (o := o) (by simpa using ha)
      exact ⟨_, by simpa [hs, ha] using hrel, by simpa [hs, ha] using .close s hnext (Or.inr rfl)⟩
  · have hnil : ¬ m.mSubscribers ≠ [] := fun hne => hs (hasSubscribers_iff.mpr hne)
    have hno : m.hasActiveSubscribers = false := by
      by_contra ha
      obtain ⟨x, hx, -⟩ := hasActiveSubscribers_iff.mp (by simpa using ha)
      exact hnil (List.ne_nil_of_mem hx)
    have hrel := send_release (o := o) hno
    exact ⟨_, by simpa [hs] using hrel, by simpa [hs] using .close s hnext (Or.inl rfl)⟩

theorem closed_moves {e : RsrcEvent S} {o : Outcome} {status : AgpsRsrcStatus}
    (he : e = .released ∨ e = .denied) : let r := AgpsReleasingState.closed sendRsrcRequest o m status
    ∃ new, r.2.asked = m.asked ++ new ∧ Moves .releasing e r.1 new := by
  simp only [AgpsReleasingState.closed]
  split
  · next ha =>
    refine ⟨_, ?_, .reopen he⟩
    rw [send_request ha, notifySubscribers_asked]
  · exact ⟨[], by simp, .closed⟩

theorem released_moves {e : RsrcEvent S} {o : Outcome} (hs : m.mStatePtr = .released)
    (h : Fits .released m.mSubscribers) (he : Sound m o e) :
    let r := AgpsReleasedState.onRsrcEvent sendRsrcRequest o m e
    ∃ new, r.2.asked = m.asked ++ new ∧ Moves .released e r.1 new := by
  have hnil : m.mSubscribers = [] := h
  cases e with
  | subscribe s =>
    have hmem : clone s ∈ (m.addSubscriber s o).mSubscribers :=
      clone_mem_addSubscriber (he hs) (by simp [hnil])
    have hact := hasActiveSubscribers_iff.mpr ⟨clone s, hmem, isInactive_clone s⟩
    have hsend := send_request (o := o) hact
    rw [addSubscriber_asked] at hsend
    refine ⟨_, hsend, ?_⟩
    simpa [AgpsReleasedState.onRsrcEvent, sendRsrcRequest_rc] using Moves.openNif s
  | unsubscribe s => simp [Sound, hnil] at he
  | granted => exact ⟨[], by simp [AgpsReleasedState.onRsrcEvent], .ignored (by simp) (by simp)⟩
  | released => exact ⟨[], by simp [AgpsReleasedState.onRsrcEvent], .ignored (by simp) (by simp)⟩
  | denied => exact ⟨[], by simp [AgpsReleasedState.onRsrcEvent], .ignored (by simp) (by simp)⟩

theorem pending_moves {e : RsrcEvent S} {o : Outcome} :
    let r := AgpsPendingState.onRsrcEvent sendRsrcRequest o m e
    ∃ new, r.2.asked = m.asked ++ new ∧ Moves .pending e r.1 new := by
  cases e with
  | subscribe s =>
    exact ⟨[], by simp [AgpsPendingState.onRsrcEvent], .subscribed s (by decide)⟩
  | unsubscribe s =>
    have hl := leave_moves (m := m.leave s) (s := s) (o := o) (Or.inl rfl)
    rw [leave_asked] at hl
    exact hl
  | granted => exact ⟨[], by simp [AgpsPendingState.onRsrcEvent], .granted⟩
  | released => exact ⟨[], by simp [AgpsPendingState.onRsrcEvent], .ignored (by simp) (by simp)⟩
  | denied => exact ⟨[], by simp [AgpsPendingState.onRsrcEvent], .denied⟩

theorem acquired_moves {e : RsrcEvent S} {o : Outcome} :
    let r := AgpsAcquiredState.onRsrcEvent sendRsrcRequest o m e
    ∃ new, r.2.asked = m.asked ++ new ∧ Moves .acquired e r.1 new := by
  cases e with
  | subscribe s =>
    exact ⟨[], by simp [AgpsAcquiredState.onRsrcEvent], .subscribed s (by decide)⟩
  | unsubscribe s =>
    have hl := leave_moves (m := m.leave s) (s := s) (o := o) (Or.inr rfl)
    rw [leave_asked] at hl
    exact hl
  | granted => exact ⟨[], by simp [AgpsAcquiredState.onRsrcEvent], .ignored (by simp) (by simp)⟩
  | released => exact ⟨[], by simp [AgpsAcquiredState.onRsrcEvent], .forced⟩
  | denied => exact ⟨[], by simp [AgpsAcquiredState.onRsrcEvent], .ignored (by simp) (by simp)⟩

theorem releasing_moves {e : RsrcEvent S} {o : Outcome} :
    let r := AgpsReleasingState.onRsrcEvent sendRsrcRequest o m e
    ∃ new, r.2.asked = m.asked ++ new ∧ Moves .releasing e r.1 new := by
  cases e with
  | subscribe s =>
    exact ⟨[], by simp [AgpsReleasingState.onRsrcEvent], .subscribed s (by decide)⟩
  | unsubscribe s =>
    refine ⟨[], by simp [AgpsReleasingState.onRsrcEvent], ?_⟩
    simp only [AgpsReleasingState.onRsrcEvent]
    split
    · exact .closed
    · exact .left s
  | granted => exact ⟨[], by simp [AgpsReleasingState.onRsrcEvent], .ignored (by simp) (by simp)⟩
  | released => exact closed_moves (Or.inl rfl)
  | denied => exact closed_moves (Or.inr rfl)

theorem dispatch_moves {e : RsrcEvent S} {o : Outcome} (h : Fitting m) (he : Sound m o e) :
    ∃ new, (m.dispatch sendRsrcRequest e o).asked = m.asked ++ new ∧
      Moves m.mStatePtr e (m.dispatch sendRsrcRequest e o).mStatePtr new := by
  unfold Fitting at h
  cases hs : m.mStatePtr with
  | released =>
    rw [hs] at h
    simpa only [dispatch, hs, asked] using released_moves hs h he
  | pending => simpa only [dispatch, hs, asked] using pending_moves (m := m) (e := e) (o := o)
  | acquired => simpa only [dispatch, hs, asked] using acquired_moves (m := m) (e := e) (o := o)
  | releasing =>
    simpa only [dispatch, hs, asked] using releasing_moves (m := m) (e := e) (o := o)

structure Line (S : Type) [Subscriber S] where
  machine : AgpsStateMachine S
  answers : List (Nat × AgpsRsrcStatus)

inductive Traffic (S : Type)
  | call (r : Request S)
  | answer (i : Nat) (e : AgpsRsrcStatus) (o : Outcome)

/-- GRANTED and DENIED answer a request, RELEASED a release, and no message is answered twice. -/
def Line.Answers (l : Line S) (i : Nat) (e : AgpsRsrcStatus) : Prop :=
  i ∉ l.answers.map Prod.fst ∧
    (l.machine.asked[i]? = some .requestAgpsDataConn ∧ (e = .granted ∨ e = .denied) ∨
      l.machine.asked[i]? = some .releaseAgpsDataConn ∧ e = .released)

instance (l : Line S) (i : Nat) (e : AgpsRsrcStatus) : Decidable (l.Answers i e) :=
  inferInstanceAs (Decidable (_ ∧ _))

def Line.step (l : Line S) : Traffic S → Option (Line S)
  | .call (.onRsrcEvent ..) => none
  | .call r => some { l with machine := l.machine.step r }
  | .answer i e o =>
    if l.Answers i e then
      some ⟨l.machine.onRsrcEvent e o, (i, e) :: l.answers⟩
    else none

def Line.make (type : Int) (enforceSingleSubscriber : Bool) : Line S :=
  ⟨.make type enforceSingleSubscriber, []⟩

def Line.RequestedOrHeld (l : Line S) : Prop :=
  l.machine.asked.getLast? = some .requestAgpsDataConn ∧
    (l.machine.asked.length - 1, .denied) ∉ l.answers

instance (l : Line S) : Decidable l.RequestedOrHeld := inferInstanceAs (Decidable (_ ∧ _))

def Line.Orderly (l : Line S) : Traffic S → Prop
  | .call r => Roomy l.machine r
  | .answer i e _ =>
    (l.machine.mStatePtr = .pending → e ≠ .released → i + 1 = l.machine.asked.length) ∧
      (l.machine.mStatePtr = .acquired → e ≠ .released)

def BalancedStep (u : Line S) (t : Traffic S) (v : Line S) : Prop :=
  let new := v.machine.asked.drop u.machine.asked.length
  (new = [] ∨ new = [.requestAgpsDataConn] ∧ ¬ u.RequestedOrHeld ∨
      new = [.releaseAgpsDataConn] ∧ u.RequestedOrHeld) ∧
    (v.machine.mStatePtr = .pending →
      u.machine.mStatePtr = .released ∨ u.machine.mStatePtr = .releasing →
        new = [.requestAgpsDataConn]) ∧
    (v.machine.mStatePtr = .releasing → u.machine.mStatePtr ≠ .releasing →
      new = [.releaseAgpsDataConn]) ∧
    (v.machine.mStatePtr = .released →
      u.machine.mStatePtr = .pending ∨ u.machine.mStatePtr = .acquired →
        ∀ r, t = .call r → new = [.releaseAgpsDataConn])

structure Line.Inv (l : Line S) : Prop where
  fitting : Fitting l.machine
  known : ∀ a ∈ l.answers, a.1 < l.machine.asked.length
  pending : l.machine.mStatePtr = .pending →
    l.machine.asked.getLast? = some .requestAgpsDataConn ∧
      ∀ e, (l.machine.asked.length - 1, e) ∉ l.answers
  acquired : l.machine.mStatePtr = .acquired →
    l.machine.asked.getLast? = some .requestAgpsDataConn ∧
      (l.machine.asked.length - 1, .granted) ∈ l.answers ∧
        (l.machine.asked.length - 1, .denied) ∉ l.answers
  idle : l.machine.mStatePtr = .released ∨ l.machine.mStatePtr = .releasing →
    ¬ l.RequestedOrHeld

theorem Line.Inv.request {l : Line S} {t : AgpsStateMachine S} {as : List (Nat × AgpsRsrcStatus)}
    (hfit : Fitting t) (hknown : ∀ a ∈ as, a.1 < l.machine.asked.length)
    (hasked : t.asked = l.machine.asked ++ [.requestAgpsDataConn]) (ht : t.mStatePtr = .pending) :
    Line.Inv ⟨t, as⟩ where
  fitting := hfit
  known a ha := by
    have hlt := hknown a ha
    simp only [hasked, List.length_append, List.length_singleton]
    omega
  pending _ := by
    refine ⟨by simp [hasked], fun e he => ?_⟩
    have hlt := hknown _ he
    simp only [hasked, List.length_append, List.length_singleton] at hlt
    omega
  acquired h := by simp [ht] at h
  idle h := by simp [ht] at h

theorem Line.Inv.release {l : Line S} {t : AgpsStateMachine S} {as : List (Nat × AgpsRsrcStatus)}
    (hfit : Fitting t) (hknown : ∀ a ∈ as, a.1 < l.machine.asked.length)
    (hasked : t.asked = l.machine.asked ++ [.releaseAgpsDataConn])
    (ht : t.mStatePtr = .released ∨ t.mStatePtr = .releasing) : Line.Inv ⟨t, as⟩ where
  fitting := hfit
  known a ha := by
    have hlt := hknown a ha
    simp only [hasked, List.length_append, List.length_singleton]
    omega
  pending h := by
    have hp : t.mStatePtr = .pending := h
    simp [hp] at ht
  acquired h := by
    have hp : t.mStatePtr = .acquired := h
    simp [hp] at ht
  idle _ hr := by simp [RequestedOrHeld, hasked] at hr

theorem Line.RequestedOrHeld.anti {l : Line S} {t : AgpsStateMachine S}
    {as : List (Nat × AgpsRsrcStatus)} (hsub : l.answers ⊆ as) (hasked : t.asked = l.machine.asked)
    (h : Line.RequestedOrHeld ⟨t, as⟩) : l.RequestedOrHeld := by
  obtain ⟨hlast, hden⟩ := h
  rw [hasked] at hlast hden
  exact ⟨hlast, fun hm => hden (hsub hm)⟩

theorem Line.Inv.quiet {l : Line S} {t : AgpsStateMachine S} {as : List (Nat × AgpsRsrcStatus)}
    (h : l.Inv) (hfit : Fitting t) (hknown : ∀ a ∈ as, a.1 < l.machine.asked.length)
    (hsub : l.answers ⊆ as) (hasked : t.asked = l.machine.asked)
    (ht : t.mStatePtr = l.machine.mStatePtr)
    (hlast : t.mStatePtr = .pending ∨ t.mStatePtr = .acquired →
      ∀ e, (l.machine.asked.length - 1, e) ∈ as → (l.machine.asked.length - 1, e) ∈ l.answers) :
    Line.Inv ⟨t, as⟩ where
  fitting := hfit
  known a ha := by
    rw [hasked]
    exact hknown a ha
  pending hp := by
    have hp' : t.mStatePtr = .pending := hp
    obtain ⟨hl, hno⟩ := h.pending (ht.symm.trans hp')
    rw [hasked]
    exact ⟨hl, fun e he => hno e (hlast (Or.inl hp') e he)⟩
  acquired hp := by
    have hp' : t.mStatePtr = .acquired := hp
    obtain ⟨hl, hyes, hno⟩ := h.acquired (ht.symm.trans hp')
    rw [hasked]
    exact ⟨hl, hsub hyes, fun he => hno (hlast (Or.inr hp') _ he)⟩
  idle hi hr := by
    refine h.idle ?_ (.anti hsub hasked hr)
    rw [← ht]
    exact hi

theorem Line.Inv.requestedOrHeld {l : Line S} (h : l.Inv)
    (hs : l.machine.mStatePtr = .pending ∨ l.machine.mStatePtr = .acquired) :
    l.RequestedOrHeld := by
  obtain hs | hs := hs
  · exact ⟨(h.pending hs).1, (h.pending hs).2 _⟩
  · exact ⟨(h.acquired hs).1, (h.acquired hs).2.2⟩

theorem new_of_asked {l : Line S} {t : AgpsStateMachine S} {new : List AGpsStatusValue}
    (h : t.asked = l.machine.asked ++ new) : t.asked.drop l.machine.asked.length = new := by
  simp [h]

theorem released_inv {l : Line S} {t : AgpsStateMachine S} {as : List (Nat × AgpsRsrcStatus)}
    (hfit : Fitting t) (hknown : ∀ a ∈ as, a.1 < l.machine.asked.length)
    (hasked : t.asked = l.machine.asked) (ht : t.mStatePtr = .released)
    (hidle : ¬ Line.RequestedOrHeld ⟨t, as⟩) : Line.Inv ⟨t, as⟩ where
  fitting := hfit
  known a ha := by
    rw [hasked]
    exact hknown a ha
  pending h := by simp [ht] at h
  acquired h := by simp [ht] at h
  idle _ := hidle

theorem call_balanced {l : Line S} {t : AgpsStateMachine S} {e : RsrcEvent S} {r : Request S}
    {new : List AGpsStatusValue} (h : l.Inv) (hfit : Fitting t)
    (he : e ≠ .granted ∧ e ≠ .released ∧ e ≠ .denied)
    (hasked : t.asked = l.machine.asked ++ new)
    (hmove : Moves l.machine.mStatePtr e t.mStatePtr new) :
    Line.Inv ⟨t, l.answers⟩ ∧ BalancedStep l (.call r) ⟨t, l.answers⟩ := by
  have hnew := new_of_asked hasked
  unfold BalancedStep
  simp only [hnew]
  generalize hu : l.machine.mStatePtr = a at hmove ⊢
  generalize hv : t.mStatePtr = b at hmove ⊢
  cases hmove with
  | openNif s =>
    have hidle := h.idle (Or.inl hu)
    exact ⟨.request hfit h.known hasked hv, by simp [hidle]⟩
  | reopen hr =>
    obtain hr | hr := hr
    · exact absurd hr he.2.1
    · exact absurd hr he.2.2
  | close s ha hb =>
    have hheld := h.requestedOrHeld (by rwa [hu])
    refine ⟨.release hfit h.known hasked (by rwa [hv]), Or.inr (Or.inr ⟨rfl, hheld⟩), ?_, ?_, ?_⟩
    · rintro rfl
      simp at hb
    · exact fun _ _ => rfl
    · exact fun _ _ _ _ => rfl
  | granted => exact absurd rfl he.1
  | denied => exact absurd rfl he.2.2
  | forced => exact absurd rfl he.2.1
  | closed =>
    have hq : t.asked = l.machine.asked := by simpa using hasked
    refine ⟨released_inv hfit h.known hq hv fun hr => ?_, by simp⟩
    exact h.idle (Or.inr hu) (.anti (List.Subset.refl _) hq hr)
  | subscribed s ha =>
    have hq : t.asked = l.machine.asked := by simpa using hasked
    refine ⟨h.quiet hfit h.known (List.Subset.refl _) hq (hv.trans hu.symm) (fun _ _ he => he), ?_⟩
    cases a <;> simp
  | left s =>
    have hq : t.asked = l.machine.asked := by simpa using hasked
    refine ⟨h.quiet hfit h.known (List.Subset.refl _) hq (hv.trans hu.symm) (fun _ _ he => he), ?_⟩
    cases a <;> simp
  | ignored hp ha =>
    have hq : t.asked = l.machine.asked := by simpa using hasked
    refine ⟨h.quiet hfit h.known (List.Subset.refl _) hq (hv.trans hu.symm) (fun _ _ he => he), ?_⟩
    cases a <;> simp

theorem answer_balanced {l : Line S} {t : AgpsStateMachine S} {i : Nat} {e : AgpsRsrcStatus}
    {f : RsrcEvent S} {o : Outcome} {new : List AGpsStatusValue} (h : l.Inv) (hfit : Fitting t)
    (hef : e = .granted ∧ f = .granted ∨ e = .released ∧ f = .released ∨
      e = .denied ∧ f = .denied)
    (hans : l.Answers i e) (hord : l.Orderly (.answer i e o))
    (hasked : t.asked = l.machine.asked ++ new)
    (hmove : Moves l.machine.mStatePtr f t.mStatePtr new) :
    Line.Inv ⟨t, (i, e) :: l.answers⟩ ∧
      BalancedStep l (.answer i e o) ⟨t, (i, e) :: l.answers⟩ := by
  obtain ⟨hopen, hfor⟩ := hans
  obtain ⟨hlatest, hkept⟩ := hord
  have hlt : i < l.machine.asked.length := by
    obtain ⟨hi, -⟩ | ⟨hi, -⟩ := hfor
    · exact (List.getElem?_eq_some_iff.mp hi).1
    · exact (List.getElem?_eq_some_iff.mp hi).1
  have hknown : ∀ a ∈ (i, e) :: l.answers, a.1 < l.machine.asked.length := by
    intro a ha
    obtain rfl | ha := List.mem_cons.mp ha
    · exact hlt
    · exact h.known a ha
  have hsub : l.answers ⊆ (i, e) :: l.answers := List.subset_cons_self ..
  have hnew := new_of_asked hasked
  unfold BalancedStep
  simp only [hnew]
  generalize hu : l.machine.mStatePtr = a at hmove ⊢
  generalize hv : t.mStatePtr = b at hmove ⊢
  cases hmove with
  | openNif s => simp at hef
  | reopen hr =>
    have hidle := h.idle (Or.inr hu)
    exact ⟨.request hfit hknown hasked hv, by simp [hidle]⟩
  | close s => simp at hef
  | granted =>
    have he : e = .granted := by simpa using hef
    have hq : t.asked = l.machine.asked := by simpa using hasked
    have hi : i = l.machine.asked.length - 1 := by
      have hlast := hlatest hu (by simp [he])
      omega
    obtain ⟨hl, hno⟩ := h.pending hu
    refine ⟨⟨hfit, ?_, ?_, ?_, ?_⟩, by simp⟩
    · intro x hx
      rw [hq]
      exact hknown x hx
    · intro hp
      have hp' : t.mStatePtr = .pending := hp
      simp [hv] at hp'
    · intro _
      rw [hq, ← hi, he]
      refine ⟨hl, List.mem_cons_self .., fun hden => ?_⟩
      obtain hden | hden := List.mem_cons.mp hden
      · simp at hden
      · exact hno .denied (hi ▸ hden)
    · rintro (hp | hp)
      · have hp' : t.mStatePtr = .released := hp
        simp [hv] at hp'
      · have hp' : t.mStatePtr = .releasing := hp
        simp [hv] at hp'
  | denied =>
    have he : e = .denied := by simpa using hef
    have hq : t.asked = l.machine.asked := by simpa using hasked
    have hi : i = l.machine.asked.length - 1 := by
      have hlast := hlatest hu (by simp [he])
      omega
    refine ⟨released_inv hfit hknown hq hv fun hr => hr.2 ?_, by simp⟩
    rw [hq, ← hi, he]
    exact List.mem_cons_self ..
  | forced =>
    have he : e = .released := by simpa using hef
    exact absurd he (hkept hu)
  | closed =>
    have hq : t.asked = l.machine.asked := by simpa using hasked
    refine ⟨released_inv hfit hknown hq hv fun hr => ?_, by simp⟩
    exact h.idle (Or.inr hu) (.anti hsub hq hr)
  | subscribed s ha => simp at hef
  | left s => simp at hef
  | ignored hp ha =>
    have hq : t.asked = l.machine.asked := by simpa using hasked
    refine ⟨h.quiet hfit hknown hsub hq (hv.trans hu.symm) ?_, by cases a <;> simp⟩
    -- the answer is for a message before the last one
    have hne : a = .pending ∨ a = .acquired → i ≠ l.machine.asked.length - 1 := by
      rintro (rfl | rfl) rfl
      · have he : e = .released := by simpa [hp rfl] using hef
        have hlast := (h.pending hu).1
        rw [List.getLast?_eq_getElem?] at hlast
        simp [hlast, he] at hfor
      · have hyes := (h.acquired hu).2.1
        exact hopen (List.mem_map_of_mem hyes)
    intro hs e' he'
    rw [hv] at hs
    obtain he' | he' := List.mem_cons.mp he'
    · exact absurd (congrArg Prod.fst he').symm (hne hs)
    · exact he'

theorem still_balanced {l : Line S} {t : AgpsStateMachine S} (r : Request S) (h : l.Inv)
    (hlist : t.mSubscribers = l.machine.mSubscribers) (hasked : t.asked = l.machine.asked)
    (ht : t.mStatePtr = l.machine.mStatePtr) :
    Line.Inv ⟨t, l.answers⟩ ∧ BalancedStep l (.call r) ⟨t, l.answers⟩ := by
  have hfit : Fitting t := by
    unfold Fitting
    rw [hlist, ht]
    exact h.fitting
  refine ⟨h.quiet hfit h.known (List.Subset.refl _) hasked ht (fun _ _ he => he), ?_⟩
  cases hs : l.machine.mStatePtr <;> simp [BalancedStep, hs, ht, hasked]

theorem step_line_balanced {l v : Line S} {t : Traffic S} (h : l.Inv) (hord : l.Orderly t)
    (hv : l.step t = some v) : v.Inv ∧ BalancedStep l t v := by
  cases t with
  | call r =>
    cases r with
    | subscribeRsrc s o =>
      obtain rfl := Option.some.inj hv
      simp only [step, subscribeRsrc]
      split
      · exact still_balanced _ h rfl (notifyOne_asked ..) rfl
      · obtain ⟨new, hnew, hmove⟩ := dispatch_moves h.fitting (e := .subscribe s) (o := o) hord
        exact call_balanced h (dispatch_fitting h.fitting hord) (by simp) hnew hmove
    | unsubscribeRsrc s o =>
      obtain rfl := Option.some.inj hv
      simp only [step, unsubscribeRsrc]
      split
      · next x hx =>
        have hmem := (search_toOne hx).1
        obtain ⟨new, hnew, hmove⟩ := dispatch_moves h.fitting (e := .unsubscribe x) (o := o) hmem
        exact call_balanced h (dispatch_fitting h.fitting hmem) (by simp) hnew hmove
      · exact still_balanced _ h rfl rfl rfl
    | onRsrcEvent e o => simp [Line.step] at hv
    | setAPN apn =>
      obtain rfl := Option.some.inj hv
      exact still_balanced _ h rfl rfl rfl
    | setBearer bearer =>
      obtain rfl := Option.some.inj hv
      exact still_balanced _ h rfl rfl rfl
  | answer i e o =>
    simp only [Line.step, Option.ite_none_right_eq_some, Option.some.injEq] at hv
    obtain ⟨hans, rfl⟩ := hv
    have hfor := hans.2
    cases e with
    | granted =>
      obtain ⟨new, hnew, hmove⟩ := dispatch_moves h.fitting (e := .granted) (o := o) trivial
      exact answer_balanced h (dispatch_fitting h.fitting trivial) (by simp) hans hord hnew hmove
    | released =>
      obtain ⟨new, hnew, hmove⟩ := dispatch_moves h.fitting (e := .released) (o := o) trivial
      exact answer_balanced h (dispatch_fitting h.fitting trivial) (by simp) hans hord hnew hmove
    | denied =>
      obtain ⟨new, hnew, hmove⟩ := dispatch_moves h.fitting (e := .denied) (o := o) trivial
      exact answer_balanced h (dispatch_fitting h.fitting trivial) (by simp) hans hord hnew hmove
    | _ => simp at hfor

theorem make_inv (type : Int) (enforce : Bool) : (Line.make type enforce : Line S).Inv where
  fitting := make_fitting type enforce
  known := by simp [Line.make]
  pending h := by simp [Line.make, make] at h
  acquired h := by simp [Line.make, make] at h
  idle _ hr := by simp [Line.RequestedOrHeld, Line.make, make, asked] at hr

theorem requests_balanced {type : Int} {enforce : Bool} {ts : List (Traffic S)} {l : Line S}
    (hord : Runs.Along Line.step Line.Orderly (Line.make type enforce) ts)
    (h : Runs.play Line.step (Line.make type enforce) ts = some l) :
    ∀ pre t post, ts = pre ++ t :: post → ∀ u v,
      Runs.play Line.step (Line.make type enforce) pre = some u → u.step t = some v →
        BalancedStep u t v := by
  rintro pre t post rfl u v hu hv
  have hinv : u.Inv := Runs.play_invariant
    (fun _ _ _ hi ho hstep => (step_line_balanced hi ho hstep).1)
    (make_inv type enforce) hord.append_left hu
  exact (step_line_balanced hinv (hord.append_right hu).head hv).2

instance (u : Line S) (t : Traffic S) : Decidable (u.Orderly t) :=
  match t with
  | .call (.subscribeRsrc ..) => inferInstanceAs (Decidable (_ → _))
  | .call (.unsubscribeRsrc ..) | .call (.onRsrcEvent ..) | .call (.setAPN _)
  | .call (.setBearer _) => isTrue trivial
  | .answer .. => inferInstanceAs (Decidable (_ ∧ _))

def atlClient : ATLSubscriber := ⟨1, false⟩

def wholeSession : List (Traffic ATLSubscriber) :=
  [.call (.subscribeRsrc atlClient allGood), .answer 0 .granted allGood,
    .call (.unsubscribeRsrc atlClient allGood), .answer 1 .released allGood]

/-- The client goes before the answer and comes back; then come the answers to its first visit,
and it subscribes once more. -/
def crossedAnswers : List (Traffic ATLSubscriber) :=
  [.call (.subscribeRsrc atlClient allGood), .call (.unsubscribeRsrc atlClient allGood),
    .call (.subscribeRsrc atlClient allGood), .answer 0 .granted allGood,
    .answer 1 .released allGood]

theorem requests_balanced_session : ∃ l,
    Runs.play Line.step (Line.make 1 false) wholeSession = some l ∧
      ∀ pre t post, wholeSession = pre ++ t :: post → ∀ u v,
        Runs.play Line.step (Line.make 1 false) pre = some u → u.step t = some v →
          BalancedStep u t v :=
  ⟨_, rfl, @requests_balanced ATLSubscriber _ 1 false wholeSession _ (by decide) rfl⟩

theorem crossed_answers_double_request : ¬ ∀ (type : Int) (enforce : Bool)
    (ts : List (Traffic ATLSubscriber)) (l : Line ATLSubscriber),
    Runs.play Line.step (Line.make type enforce) ts = some l →
      ∀ pre t post, ts = pre ++ t :: post → ∀ u v,
        Runs.play Line.step (Line.make type enforce) pre = some u → u.step t = some v →
          BalancedStep u t v := by
  intro h
  have hlast := h 1 false (crossedAnswers ++ [.call (.subscribeRsrc atlClient allGood)]) _ rfl
    crossedAnswers _ [] rfl _ _ rfl rfl
  exact absurd hlast.1 (by decide)

end Wt88047.Agps
