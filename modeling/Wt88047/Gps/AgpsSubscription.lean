import Wt88047.Gps.AgpsInvariant
import Wt88047.Gps.DSStateMachine

/-! When a subscription is taken up: the client is on the list and active, or it has been told how
its request ended. -/

namespace Wt88047.Agps

open Subscriber AgpsStateMachine

variable {S : Type} [Subscriber S] {m : AgpsStateMachine S}

/-- What `subscribeRsrc` owes the subscriber, between the machine before and after it. -/
def Honoured (s : S) (u v : AgpsStateMachine S) : Prop :=
  (∃ x ∈ v.mSubscribers, isInactive x = false ∧ equals x s = true) ∨
    ∃ n, .notified n ∈ v.sent.drop u.sent.length ∧ n.rcver = s ∧
      (n.status = .granted ∨ n.status = .denied)

/-- The machine answers at once, or has the subscriber on its list as active, or has none equal
to it and the memory to add one. -/
def Admits (s : S) (o : Outcome) (m : AgpsStateMachine S) : Prop :=
  m.mStatePtr = .acquired ∨ (m.mEnforceSingleSubscriber = true ∧ m.mSubscribers ≠ []) ∨
    (∃ x ∈ m.mSubscribers, isInactive x = false ∧ equals x s = true) ∨
      (o.elemOk = true ∧ ∀ x ∈ m.mSubscribers, equals x s = false)

/-- A `sendRsrcRequest` leaves the list alone and tells no subscriber. -/
structure Plain (send : SendRsrcRequest S) : Prop where
  list : ∀ action o m, (send action o m).2.mSubscribers = m.mSubscribers
  told : ∀ action o m, ∃ out, (send action o m).2.sent = m.sent ++ out ∧ ∀ n, .notified n ∉ out

theorem base_plain : Plain (sendRsrcRequest : SendRsrcRequest S) where
  list action o m := sendRsrcRequest_mSubscribers action o
  told action o m := by
    unfold sendRsrcRequest
    split
    · exact ⟨_, rfl, by simp⟩
    · exact ⟨[], by simp, by simp⟩

theorem ds_plain : Plain DSStateMachine.sendRsrcRequest where
  list action o m := by
    obtain ⟨d, out, ret, h, -⟩ := DSStateMachine.sendRsrcRequest_ends action o m
    rw [h]
  told action o m := by
    obtain ⟨d, out, ret, h, hends⟩ := DSStateMachine.sendRsrcRequest_ends action o m
    refine ⟨_, by rw [h], fun n => ?_⟩
    cases hends <;> simp

theorem addSubscriber_sent (s : S) (o : Outcome) : (m.addSubscriber s o).sent = m.sent := by
  unfold addSubscriber
  split <;> rfl

theorem addSubscriber_active_iff {s : S} {o : Outcome} :
    (∃ x ∈ (m.addSubscriber s o).mSubscribers, isInactive x = false ∧ equals x s = true) ↔
      (∃ x ∈ m.mSubscribers, isInactive x = false ∧ equals x s = true) ∨
        (o.elemOk = true ∧ ∀ x ∈ m.mSubscribers, equals x s = false) := by
  constructor
  · rintro ⟨x, hx, hact, heq⟩
    by_cases hnone : ∀ x ∈ m.mSubscribers, equals x s = false
    · obtain hx | ⟨ho, -⟩ := mem_addSubscriber hx
      · simp [hnone x hx] at heq
      · exact Or.inr ⟨ho, hnone⟩
    · have hsame : m.addSubscriber s o = m := by
        have hs : m.search (.toOne s .max false) ≠ none := fun h =>
          hnone (search_toOne_none.mp h)
        simp [addSubscriber, hs]
      rw [hsame] at hx
      exact Or.inl ⟨x, hx, hact, heq⟩
  · rintro (⟨x, hx, hact, heq⟩ | ⟨ho, hnone⟩)
    · exact ⟨x, subset_addSubscriber s o hx, hact, heq⟩
    · exact ⟨clone s, clone_mem_addSubscriber ho hnone, isInactive_clone s, equals_clone s⟩

theorem honoured_of_add {s : S} {o : Outcome} {v : AgpsStateMachine S} (out : List (Output S))
    (hlist : v.mSubscribers = (m.addSubscriber s o).mSubscribers) (hsent : v.sent = m.sent ++ out)
    (hout : ∀ n, .notified n ∉ out) (hs : m.mStatePtr ≠ .acquired)
    (hfree : ¬ (m.mEnforceSingleSubscriber = true ∧ m.mSubscribers ≠ [])) :
    Honoured s m v ↔ Admits s o m := by
  have htold : ¬ ∃ n, .notified n ∈ v.sent.drop m.sent.length ∧ n.rcver = s ∧
      (n.status = .granted ∨ n.status = .denied) := by
    rintro ⟨n, hn, -⟩
    rw [hsent, List.drop_left] at hn
    exact hout n hn
  rw [Honoured, or_iff_left htold, hlist, addSubscriber_active_iff, Admits, or_iff_right hs,
    or_iff_right hfree]

theorem notified_of_notifyOne {s : S} {n : Notification S} (hme : forMe n s = true)
    (hs : n.rsrcStatus = .granted ∨ n.rsrcStatus = .denied) :
    ∃ t, (m.notifyOne n s).sent = m.sent ++ [.notified t] ∧ t.rcver = s ∧
      (t.status = .granted ∨ t.status = .denied) := by
  have hsub : n.rsrcStatus ≠ .subscribe := by
    rintro h
    simp [h] at hs
  have hmax : n.rsrcStatus ≠ .max := by
    rintro h
    simp [h] at hs
  obtain ⟨calls, hc⟩ := Option.isSome_iff_exists.mp (handled m.nif s n.rsrcStatus hsub hmax)
  exact ⟨⟨s, n.rsrcStatus, calls⟩, by simp [notifyOne, notifyRsrcStatus, hme, hc, AgpsStateMachine.tell], rfl, hs⟩

theorem subscribe_honoured_iff {send : SendRsrcRequest S} (hsend : Plain send) (s : S)
    (o : Outcome) : Honoured s m (m.subscribeRsrc send s o) ↔ Admits s o m := by
  by_cases hfree : m.mEnforceSingleSubscriber = true ∧ m.mSubscribers ≠ []
  · -- somebody else has the NIF: the subscriber is denied
    have hsub : m.subscribeRsrc send s o = m.notifyOne (.toGroup .all .denied true) s := by
      simp [subscribeRsrc, hfree.1, hasSubscribers_iff.mpr hfree.2]
    obtain ⟨t, ht, hrcver, hstatus⟩ := notified_of_notifyOne (m := m) (s := s)
      (n := .toGroup .all .denied true) rfl (Or.inr rfl)
    rw [hsub]
    refine ⟨fun _ => Or.inr (Or.inl hfree), fun _ => Or.inr ⟨t, ?_, hrcver, hstatus⟩⟩
    simp [ht]
  · have hsub : m.subscribeRsrc send s o = m.dispatch send (.subscribe s) o := by
      rw [subscribeRsrc, if_neg]
      simpa [hasSubscribers_iff] using hfree
    rw [hsub]
    cases hs : m.mStatePtr with
    | released =>
      obtain ⟨out, hsent, hout⟩ := hsend.told .requestAgpsDataConn o (m.addSubscriber s o)
      refine honoured_of_add out ?_ ?_ hout (by simp [hs]) hfree
      · simp [dispatch, hs, AgpsReleasedState.onRsrcEvent, hsend.list]
      · rw [addSubscriber_sent] at hsent
        simpa [dispatch, hs, AgpsReleasedState.onRsrcEvent] using hsent
    | pending =>
      refine honoured_of_add [] ?_ ?_ (by simp) (by simp [hs]) hfree
      · simp [dispatch, hs, AgpsPendingState.onRsrcEvent]
      · simp [dispatch, hs, AgpsPendingState.onRsrcEvent, addSubscriber_sent]
    | acquired =>
      obtain ⟨t, ht, hrcver, hstatus⟩ := notified_of_notifyOne (m := m) (s := s)
        (n := .toOne s .granted false) (equals_self s) (Or.inl rfl)
      refine ⟨fun _ => Or.inl hs, fun _ => Or.inr ⟨t, ?_, hrcver, hstatus⟩⟩
      simp [dispatch, hs, AgpsAcquiredState.onRsrcEvent, addSubscriber_sent, ht]
    | releasing =>
      refine honoured_of_add [] ?_ ?_ (by simp) (by simp [hs]) hfree
      · simp [dispatch, hs, AgpsReleasingState.onRsrcEvent]
      · simp [dispatch, hs, AgpsReleasingState.onRsrcEvent, addSubscriber_sent]

/-- On a machine of either kind, after every run. -/
theorem subscription_taken_up (S : Type) [Subscriber S] (type : Int) (enforce : Bool)
    (rs : List (Request S)) (s : S) (ds : List DSRequest) (d : DSSubscriber) (o : Outcome) :
    (let m := (make type enforce).run rs;
      Honoured s m (m.subscribeRsrc sendRsrcRequest s o) ↔ Admits s o m) ∧
    (let m := DSStateMachine.run .make ds;
      Honoured d m (m.subscribeRsrc DSStateMachine.sendRsrcRequest d o) ↔ Admits d o m) :=
  ⟨subscribe_honoured_iff base_plain s o, subscribe_honoured_iff ds_plain d o⟩

def goneBeforeGrant : List DSRequest :=
  [.call (.subscribeRsrc ⟨1, false⟩ allGood), .call (.unsubscribeRsrc ⟨1, false⟩ allGood)]

theorem resubscription_lost : ¬ ∀ (rs : List DSRequest) (s : DSSubscriber) (o : Outcome),
    o.elemOk = true → let m := DSStateMachine.run .make rs
      Honoured s m (m.subscribeRsrc DSStateMachine.sendRsrcRequest s o) := by
  intro h
  have hlost := (subscribe_honoured_iff ds_plain _ _).mp
    (h goneBeforeGrant ⟨1, false⟩ allGood rfl)
  simp only [Admits] at hlost
  revert hlost
  decide

end Wt88047.Agps
