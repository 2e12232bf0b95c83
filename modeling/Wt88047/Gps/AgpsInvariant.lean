import Wt88047.Gps.AgpsSubscribers
import Mathlib.Data.List.Induction

/-! The subscriber list of a base machine in each of its states, over all runs. -/

namespace Wt88047.Agps

open Subscriber AgpsStateMachine

variable {S : Type} [Subscriber S] {m : AgpsStateMachine S}

def Fits : AgpsState → List S → Prop
  | .released, l => l = []
  | .pending, l | .acquired, l => ∃ s ∈ l, isInactive s = false
  | .releasing, l => ∃ s ∈ l, isInactive s = true

def Fitting (m : AgpsStateMachine S) : Prop := Fits m.mStatePtr m.mSubscribers

def Request.gotMemory : Request S → Bool
  | .subscribeRsrc _ o => o.elemOk
  | .unsubscribeRsrc .. | .onRsrcEvent .. | .setAPN _ | .setBearer _ => true

def Sound (m : AgpsStateMachine S) (o : Outcome) : RsrcEvent S → Prop
  | .subscribe _ => m.mStatePtr = .released → o.elemOk = true
  | .unsubscribe s => s ∈ m.mSubscribers
  | .granted | .released | .denied => True

/-- The `malloc` for the first subscriber of a released machine succeeds. -/
def Roomy (m : AgpsStateMachine S) : Request S → Prop
  | .subscribeRsrc _ o => m.mStatePtr = .released → o.elemOk = true
  | .unsubscribeRsrc .. | .onRsrcEvent .. | .setAPN _ | .setBearer _ => True

theorem Request.gotMemory_roomy {r : Request S} (h : r.gotMemory = true) : Roomy m r := by
  cases r with
  | subscribeRsrc s o => exact fun _ => h
  | _ => trivial

theorem fits_releasing {l : List S} (hne : l ≠ []) (h : ¬ ∃ s ∈ l, isInactive s = false) :
    Fits .releasing l := by
  obtain ⟨s, hs⟩ := List.exists_mem_of_ne_nil l hne
  refine ⟨s, hs, ?_⟩
  by_contra hx
  exact h ⟨s, hs, by simpa using hx⟩

theorem released_fits {e : RsrcEvent S} {o : Outcome} (hs : m.mStatePtr = .released)
    (h : Fits .released m.mSubscribers) (he : Sound m o e) :
    let r := AgpsReleasedState.onRsrcEvent sendRsrcRequest o m e
    Fits r.1 r.2.mSubscribers := by
  have hnil : m.mSubscribers = [] := h
  cases e with
  | subscribe s =>
    simp only [AgpsReleasedState.onRsrcEvent, sendRsrcRequest_rc, sendRsrcRequest_mSubscribers]
    have hs : clone s ∈ (m.addSubscriber s o).mSubscribers :=
      clone_mem_addSubscriber (he hs) (by simp [hnil])
    exact ⟨clone s, hs, isInactive_clone s⟩
  | unsubscribe s => simpa [AgpsReleasedState.onRsrcEvent] using h
  | granted => exact h
  | released => exact h
  | denied => exact h

theorem fits_after_leave {o : Outcome} {next : AgpsState}
    (hnext : next = .pending ∨ next = .acquired) :
    let r := if !m.hasSubscribers then
        (AgpsState.released, (m.sendRsrcRequest .releaseAgpsDataConn o).2)
      else if !m.hasActiveSubscribers then
        (.releasing, (m.sendRsrcRequest .releaseAgpsDataConn o).2)
      else (next, m)
    Fits r.1 r.2.mSubscribers := by
  by_cases hs : m.hasSubscribers = true
  · by_cases ha : m.hasActiveSubscribers = true
    · have hex := hasActiveSubscribers_iff.mp ha
      obtain rfl | rfl := hnext
      · simpa [hs, ha, Fits] using hex
      · simpa [hs, ha, Fits] using hex
    · have hne := hasSubscribers_iff.mp hs
      have hno : ¬ ∃ s ∈ m.mSubscribers, isInactive s = false := fun hh =>
        ha (hasActiveSubscribers_iff.mpr hh)
      simpa [hs, ha] using fits_releasing hne hno
  · have hnil : m.mSubscribers = [] := by
      by_contra hne
      exact hs (hasSubscribers_iff.mpr hne)
    simpa [hs, Fits] using hnil

theorem pending_fits {e : RsrcEvent S} {o : Outcome} (h : Fits .pending m.mSubscribers) :
    let r := AgpsPendingState.onRsrcEvent sendRsrcRequest o m e
    Fits r.1 r.2.mSubscribers := by
  obtain ⟨x, hx, hact⟩ := h
  cases e with
  | subscribe s => exact ⟨x, subset_addSubscriber s o hx, hact⟩
  | unsubscribe s => exact fits_after_leave (Or.inl rfl)
  | granted =>
    refine ⟨x, ?_, hact⟩
    rw [AgpsPendingState.onRsrcEvent, notifySubscribers_keep rfl]
    exact hx
  | released => exact ⟨x, hx, hact⟩
  | denied => exact all_deleted m _ (by decide) (by decide)

theorem acquired_fits {e : RsrcEvent S} {o : Outcome} (h : Fits .acquired m.mSubscribers) :
    let r := AgpsAcquiredState.onRsrcEvent sendRsrcRequest o m e
    Fits r.1 r.2.mSubscribers := by
  obtain ⟨x, hx, hact⟩ := h
  cases e with
  | subscribe s => exact ⟨x, subset_addSubscriber s o hx, hact⟩
  | unsubscribe s => exact fits_after_leave (Or.inr rfl)
  | granted => exact ⟨x, hx, hact⟩
  | released => exact all_deleted m _ (by decide) (by decide)
  | denied => exact ⟨x, hx, hact⟩

theorem closed_fits {status : AgpsRsrcStatus} {o : Outcome} (hs : status ≠ .subscribe)
    (hm : status ≠ .max) : let r := AgpsReleasingState.closed sendRsrcRequest o m status
      Fits r.1 r.2.mSubscribers := by
  by_cases ha : (m.notifySubscribers (.toGroup .inactive status true)).hasActiveSubscribers = true
  · simpa [AgpsReleasingState.closed, ha, Fits] using hasActiveSubscribers_iff.mp ha
  · have hr : (AgpsReleasingState.closed sendRsrcRequest o m status).1 = .released := by
      simp [AgpsReleasingState.closed, ha]
    have hnil := closed_released o m status hs hm hr
    simpa [hr, Fits] using hnil

theorem releasing_fits {e : RsrcEvent S} {o : Outcome} (h : Fits .releasing m.mSubscribers)
    (he : Sound m o e) : let r := AgpsReleasingState.onRsrcEvent sendRsrcRequest o m e
      Fits r.1 r.2.mSubscribers := by
  obtain ⟨x, hx, hin⟩ := h
  cases e with
  | subscribe s => exact ⟨x, subset_addSubscriber s o hx, hin⟩
  | unsubscribe s =>
    obtain ⟨y, hy, hyin⟩ := leave_inactive he hin
    have hs : (m.leave s).hasSubscribers = true :=
      hasSubscribers_iff.mpr (List.ne_nil_of_mem hy)
    simpa [AgpsReleasingState.onRsrcEvent, hs, Fits] using ⟨y, hy, hyin⟩
  | granted => exact ⟨x, hx, hin⟩
  | released => exact closed_fits (by decide) (by decide)
  | denied => exact closed_fits (by decide) (by decide)

theorem dispatch_fitting {e : RsrcEvent S} {o : Outcome} (h : Fitting m) (he : Sound m o e) :
    Fitting (m.dispatch sendRsrcRequest e o) := by
  unfold Fitting at h ⊢
  cases hs : m.mStatePtr with
  | released =>
    rw [hs] at h
    simpa [dispatch, hs] using released_fits hs h he
  | pending =>
    rw [hs] at h
    simpa [dispatch, hs] using pending_fits (e := e) (o := o) h
  | acquired =>
    rw [hs] at h
    simpa [dispatch, hs] using acquired_fits (e := e) (o := o) h
  | releasing =>
    rw [hs] at h
    simpa [dispatch, hs] using releasing_fits h he

theorem step_fitting {r : Request S} (h : Fitting m) (hr : Roomy m r) :
    Fitting (m.step r) := by
  cases r with
  | subscribeRsrc s o =>
    simp only [step, subscribeRsrc]
    split
    · exact h
    · exact dispatch_fitting h hr
  | unsubscribeRsrc s o =>
    simp only [step, unsubscribeRsrc]
    split
    · next x hx => exact dispatch_fitting h (search_toOne hx).1
    · exact h
  | onRsrcEvent e o =>
    cases e with
    | granted => exact dispatch_fitting h trivial
    | released => exact dispatch_fitting h trivial
    | denied => exact dispatch_fitting h trivial
    | _ => exact h
  | setAPN apn => exact h
  | setBearer bearer => exact h

theorem run_fitting {rs : List (Request S)} (h : Fitting m)
    (hrs : ∀ r ∈ rs, r.gotMemory = true) : Fitting (m.run rs) := by
  induction rs generalizing m with
  | nil => exact h
  | cons r rs ih =>
    have hr : Roomy m r := Request.gotMemory_roomy (hrs r (List.mem_cons_self ..))
    exact ih (step_fitting h hr)
      fun q hq => hrs q (List.mem_cons_of_mem _ hq)

theorem make_fitting (type : Int) (enforce : Bool) :
    Fitting (make type enforce : AgpsStateMachine S) := rfl

theorem run_append_one (rs : List (Request S)) (r : Request S) :
    m.run (rs ++ [r]) = (m.run rs).step r := by
  simp [run]

theorem leave_enters {o : Outcome} {next : AgpsState} (hnext : next ≠ .releasing) :
    let r := if !m.hasSubscribers then
        (AgpsState.released, (m.sendRsrcRequest .releaseAgpsDataConn o).2)
      else if !m.hasActiveSubscribers then
        (.releasing, (m.sendRsrcRequest .releaseAgpsDataConn o).2)
      else (next, m)
    r.1 = .releasing → ∀ s ∈ r.2.mSubscribers, isInactive s = true := by
  by_cases hs : m.hasSubscribers = true
  · by_cases ha : m.hasActiveSubscribers = true
    · simp [hs, ha, hnext]
    · intro r _ s hmem
      have hr : r.2.mSubscribers = m.mSubscribers := by simp [r, hs, ha]
      rw [hr] at hmem
      by_contra hx
      exact ha (hasActiveSubscribers_iff.mpr ⟨s, hmem, by simpa using hx⟩)
  · simp [hs]

theorem dispatch_enters {e : RsrcEvent S} {o : Outcome} (hm : m.mStatePtr ≠ .releasing)
    (ht : (m.dispatch sendRsrcRequest e o).mStatePtr = .releasing) :
    ∀ s ∈ (m.dispatch sendRsrcRequest e o).mSubscribers, isInactive s = true := by
  cases hs : m.mStatePtr with
  | released =>
    cases e <;> simp [dispatch, hs, AgpsReleasedState.onRsrcEvent, sendRsrcRequest_rc] at ht
  | pending =>
    cases e with
    | unsubscribe s =>
      simp only [dispatch, hs] at ht ⊢
      exact leave_enters (by decide) ht
    | _ => simp [dispatch, hs, AgpsPendingState.onRsrcEvent] at ht
  | acquired =>
    cases e with
    | unsubscribe s =>
      simp only [dispatch, hs] at ht ⊢
      exact leave_enters (by decide) ht
    | _ => simp [dispatch, hs, AgpsAcquiredState.onRsrcEvent] at ht
  | releasing => exact absurd hs hm

theorem closed_leaves (o : Outcome) (status : AgpsRsrcStatus) :
    (AgpsReleasingState.closed sendRsrcRequest o m status).1 ≠ .releasing := by
  simp only [AgpsReleasingState.closed]
  split <;> simp

theorem dispatch_stays {e : RsrcEvent S} {o : Outcome} {x : S} (hm : m.mStatePtr = .releasing)
    (ht : (m.dispatch sendRsrcRequest e o).mStatePtr = .releasing)
    (hx : x ∈ (m.dispatch sendRsrcRequest e o).mSubscribers) (hact : isInactive x = false) :
    x ∈ m.mSubscribers ∨ ∃ s, e = .subscribe s ∧ x = clone s := by
  cases e with
  | subscribe s =>
    simp only [dispatch, hm, AgpsReleasingState.onRsrcEvent] at hx
    obtain h | ⟨-, h⟩ := mem_addSubscriber hx
    · exact Or.inl h
    · exact Or.inr ⟨s, rfl, h⟩
  | unsubscribe s =>
    simp only [dispatch, hm, AgpsReleasingState.onRsrcEvent] at hx
    exact Or.inl (mem_leave hx hact)
  | granted =>
    simp only [dispatch, hm] at hx
    exact Or.inl hx
  | released =>
    simp only [dispatch, hm] at ht
    exact (closed_leaves o .released ht).elim
  | denied =>
    simp only [dispatch, hm] at ht
    exact (closed_leaves o .denied ht).elim

theorem step_enters {r : Request S} (hm : m.mStatePtr ≠ .releasing)
    (ht : (m.step r).mStatePtr = .releasing) :
    ∀ s ∈ (m.step r).mSubscribers, isInactive s = true := by
  cases r with
  | subscribeRsrc s o =>
    simp only [step, subscribeRsrc] at ht ⊢
    split at ht
    · exact absurd ht hm
    · next hc =>
      rw [if_neg hc]
      exact dispatch_enters hm ht
  | unsubscribeRsrc s o =>
    simp only [step, unsubscribeRsrc] at ht ⊢
    split at ht
    · exact dispatch_enters hm ht
    · exact absurd ht hm
  | onRsrcEvent e o =>
    cases e with
    | granted => exact dispatch_enters hm ht
    | released => exact dispatch_enters hm ht
    | denied => exact dispatch_enters hm ht
    | _ => exact absurd ht hm
  | setAPN apn => exact absurd ht hm
  | setBearer bearer => exact absurd ht hm

theorem step_stays {r : Request S} {x : S} (hm : m.mStatePtr = .releasing)
    (ht : (m.step r).mStatePtr = .releasing) (hx : x ∈ (m.step r).mSubscribers)
    (hact : isInactive x = false) :
    x ∈ m.mSubscribers ∨ ∃ s o, r = .subscribeRsrc s o ∧ x = clone s := by
  cases r with
  | subscribeRsrc s o =>
    simp only [step, subscribeRsrc] at ht hx
    split at ht
    · next hc =>
      rw [if_pos hc] at hx
      exact Or.inl hx
    · next hc =>
      rw [if_neg hc] at hx
      refine (dispatch_stays hm ht hx hact).imp_right ?_
      rintro ⟨c, hc, rfl⟩
      obtain rfl := RsrcEvent.subscribe.inj hc
      exact ⟨s, o, rfl, rfl⟩
  | unsubscribeRsrc s o =>
    simp only [step, unsubscribeRsrc] at ht hx
    cases hf : m.search (.toOne s .max false) with
    | none =>
      rw [hf] at hx
      exact Or.inl hx
    | some found =>
      rw [hf] at ht hx
      refine (dispatch_stays hm ht hx hact).imp_right ?_
      rintro ⟨c, hc, -⟩
      contradiction
  | onRsrcEvent e o =>
    have hdis : ∀ f : RsrcEvent S, (∀ c, f ≠ .subscribe c) →
        (m.dispatch sendRsrcRequest f o).mStatePtr = .releasing →
        x ∈ (m.dispatch sendRsrcRequest f o).mSubscribers → x ∈ m.mSubscribers := by
      intro f hf hft hfx
      obtain h | ⟨c, hc, -⟩ := dispatch_stays hm hft hfx hact
      · exact h
      · exact absurd hc (hf c)
    cases e with
    | granted => exact Or.inl (hdis .granted (by simp) ht hx)
    | released => exact Or.inl (hdis .released (by simp) ht hx)
    | denied => exact Or.inl (hdis .denied (by simp) ht hx)
    | _ => exact Or.inl hx
  | setAPN apn => exact Or.inl hx
  | setBearer bearer => exact Or.inl hx

def OnlyLateActive (start : AgpsStateMachine S) (rs : List (Request S)) : Prop :=
  ∃ pre r post, rs = pre ++ r :: post ∧ (start.run pre).mStatePtr ≠ .releasing ∧
    (∀ post' tail, post = post' ++ tail →
      (start.run (pre ++ r :: post')).mStatePtr = .releasing) ∧
    (∀ s ∈ (start.run (pre ++ [r])).mSubscribers, isInactive s = true) ∧
    ∀ s ∈ (start.run rs).mSubscribers, isInactive s = false →
      ∃ c o, .subscribeRsrc c o ∈ post ∧ s = clone c

theorem run_onlyLateActive {start : AgpsStateMachine S} (hstart : start.mStatePtr ≠ .releasing)
    {rs : List (Request S)} (h : (start.run rs).mStatePtr = .releasing) :
    OnlyLateActive start rs := by
  induction rs using List.reverseRecOn with
  | nil => exact absurd h hstart
  | append_singleton rs r ih =>
    by_cases hprev : (start.run rs).mStatePtr = .releasing
    · -- the split stays where it was
      obtain ⟨pre, q, post, rfl, hpre, hpost, hin, hlate⟩ := ih hprev
      have happ : pre ++ q :: post ++ [r] = pre ++ q :: (post ++ [r]) := by simp
      refine ⟨pre, q, post ++ [r], happ, hpre, ?_, hin, ?_⟩
      · intro post' tail he
        by_cases ht : tail = []
        · have hp : post' = post ++ [r] := by simpa [ht] using he.symm
          rw [hp, ← happ]
          exact h
        · obtain ⟨tail', y, rfl⟩ := List.eq_nil_or_concat tail |>.resolve_left ht
          rw [List.concat_eq_append, ← List.append_assoc] at he
          have hsplit := (List.append_inj' he rfl).1
          exact hpost post' tail' hsplit
      · intro s hs hact
        rw [run_append_one] at h hs
        obtain hold | ⟨c, o, rfl, rfl⟩ := step_stays hprev h hs hact
        · obtain ⟨c, o, hc, rfl⟩ := hlate s hold hact
          exact ⟨c, o, by simp [hc], rfl⟩
        · exact ⟨c, o, by simp, rfl⟩
    · have henter := h
      rw [run_append_one] at henter
      have hin := step_enters hprev henter
      rw [← run_append_one] at hin
      refine ⟨rs, r, [], rfl, hprev, ?_, hin, ?_⟩
      · intro post' tail he
        obtain ⟨rfl, rfl⟩ := List.append_eq_nil_iff.mp he.symm
        exact h
      · intro s hs hact
        simp [hin s hs] at hact

theorem agps_list_follows_state (type : Int) (enforce : Bool) (rs : List (Request S))
    (hmem : ∀ r ∈ rs, r.gotMemory = true) :
    let m := (make type enforce : AgpsStateMachine S).run rs
    (m.mStatePtr = .released ↔ m.mSubscribers = []) ∧
      (m.mStatePtr = .pending ∨ m.mStatePtr = .acquired →
        ∃ s ∈ m.mSubscribers, isInactive s = false) ∧
      (m.mStatePtr = .releasing →
        (∃ s ∈ m.mSubscribers, isInactive s = true) ∧ OnlyLateActive (make type enforce) rs) := by
  intro m
  have hfit : Fits m.mStatePtr m.mSubscribers := run_fitting (make_fitting type enforce) hmem
  refine ⟨⟨fun hs => ?_, fun hl => ?_⟩, ?_, fun hs => ⟨?_, ?_⟩⟩
  · rw [hs] at hfit
    exact hfit
  · cases hs : m.mStatePtr with
    | released => rfl
    | _ => simp [hs, hl, Fits] at hfit
  · rintro (hs | hs)
    · rw [hs] at hfit
      exact hfit
    · rw [hs] at hfit
      exact hfit
  · rw [hs] at hfit
    exact hfit
  · exact run_onlyLateActive (by simp [make]) hs

def allGood : Outcome := ⟨true, 0, true⟩

def lateWifi : List (Request WIFISubscriber) :=
  [.subscribeRsrc (.make none none .quipc) allGood,
    .unsubscribeRsrc (.make none none .quipc) allGood,
    .subscribeRsrc (.make none none .msapm) allGood]

theorem agps_list_follows_state_late :
    let m := (make 4 false : AgpsStateMachine WIFISubscriber).run lateWifi
    m.mStatePtr = .releasing ∧ OnlyLateActive (make 4 false) lateWifi :=
  ⟨rfl, ((agps_list_follows_state 4 false lateWifi (by decide)).2.2 rfl).2⟩

theorem late_subscriber_active_in_releasing : ¬ ∀ (type : Int) (enforce : Bool)
    (rs : List (Request WIFISubscriber)), (∀ r ∈ rs, r.gotMemory = true) →
      let m := (make type enforce : AgpsStateMachine WIFISubscriber).run rs
      m.mStatePtr = .releasing →
        m.mSubscribers ≠ [] ∧ ∀ s ∈ m.mSubscribers, isInactive s = true := by
  intro h
  have hall := (h 4 false lateWifi (by decide) rfl).2
  exact absurd (hall ⟨.msapm, none, none, false⟩ (by decide)) (by decide)

end Wt88047.Agps
