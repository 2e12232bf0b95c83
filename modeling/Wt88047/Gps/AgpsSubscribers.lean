import Wt88047.Gps.AgpsStateMachine

/-! What each operation of an AGPS machine does to the subscriber list. -/

namespace Wt88047.Agps

open Subscriber

theorem mem_of_mem_replace {α : Type} [BEq α] [LawfulBEq α] {a b x : α} {l : List α}
    (h : x ∈ l.replace a b) : x = b ∨ x ∈ l := by
  induction l with
  | nil => simp at h
  | cons y ys ih =>
    by_cases hy : a = y
    · subst hy
      simp only [List.replace_cons_self, List.mem_cons] at h
      exact h.imp_right (List.mem_cons_of_mem _)
    · have hne : (a == y) = false := by simpa using hy
      rw [List.replace_cons, hne] at h
      obtain rfl | h := List.mem_cons.mp h
      · exact Or.inr (List.mem_cons_self ..)
      · exact (ih h).imp_right (List.mem_cons_of_mem _)

theorem mem_replace_self {α : Type} [BEq α] [LawfulBEq α] {a b : α} {l : List α} (h : a ∈ l) :
    b ∈ l.replace a b := by
  induction l with
  | nil => simp at h
  | cons y ys ih =>
    by_cases hy : a = y
    · subst hy
      simp
    · have hne : (a == y) = false := by simpa using hy
      rw [List.replace_cons, hne]
      obtain rfl | h := List.mem_cons.mp h
      · exact absurd rfl hy
      · exact List.mem_cons_of_mem _ (ih h)

theorem linkedListSearch_find {α β : Type} (p : α → Bool) (rm : Bool) (l : List α) :
    (linkedListSearch (β := β) (fun x => (p x, [])) rm l).1 = l.find? p := by
  induction l with
  | nil => rfl
  | cons x xs ih =>
    by_cases hx : p x = true
    · simp [linkedListSearch, hx]
    · simp [linkedListSearch, hx, ih]

namespace AgpsStateMachine

variable {S : Type} [Subscriber S] {m : AgpsStateMachine S}

theorem search_eq (n : Notification S) : m.search n = m.mSubscribers.find? (forMe n) :=
  linkedListSearch_find ..

theorem hasSubscribers_iff : m.hasSubscribers = true ↔ m.mSubscribers ≠ [] := by
  simp [hasSubscribers]

theorem activeSubscriber_eq : m.activeSubscriber = m.mSubscribers.find? fun s => !isInactive s :=
  search_eq _

theorem hasActiveSubscribers_iff :
    m.hasActiveSubscribers = true ↔ ∃ s ∈ m.mSubscribers, isInactive s = false := by
  simp [hasActiveSubscribers, activeSubscriber_eq, List.find?_isSome]

theorem search_toOne {s x : S} {status : AgpsRsrcStatus} {del : Bool}
    (h : m.search (.toOne s status del) = some x) : x ∈ m.mSubscribers ∧ equals x s = true := by
  rw [search_eq] at h
  have hx : forMe (.toOne s status del) x = true := List.find?_some h
  exact ⟨List.mem_of_find?_eq_some h, hx⟩

theorem search_toOne_none {s : S} {status : AgpsRsrcStatus} {del : Bool} :
    m.search (.toOne s status del) = none ↔ ∀ x ∈ m.mSubscribers, equals x s = false := by
  simp [search_eq]

@[simp] theorem tell_mSubscribers (notices : List (Notice S)) :
    (m.tell notices).mSubscribers = m.mSubscribers := rfl

@[simp] theorem notifyOne_mSubscribers (n : Notification S) (s : S) :
    (m.notifyOne n s).mSubscribers = m.mSubscribers := rfl

theorem sendRsrcRequest_rc (action : AGpsStatusValue) (o : Outcome) :
    (m.sendRsrcRequest action o).1 = 0 := by
  unfold sendRsrcRequest
  split <;> rfl

@[simp] theorem sendRsrcRequest_mSubscribers (action : AGpsStatusValue) (o : Outcome) :
    (m.sendRsrcRequest action o).2.mSubscribers = m.mSubscribers := by
  unfold sendRsrcRequest
  split <;> rfl

theorem notifySubscribers_keep {n : Notification S} (h : n.postNotifyDelete = false) :
    (m.notifySubscribers n).mSubscribers = m.mSubscribers := by
  simp [notifySubscribers, h]

theorem notifySubscribers_delete {n : Notification S} (hd : n.postNotifyDelete = true)
    (hs : n.rsrcStatus ≠ .subscribe) (hm : n.rsrcStatus ≠ .max) :
    (m.notifySubscribers n).mSubscribers = m.mSubscribers.filter fun s => !forMe n s := by
  simp [notifySubscribers, hd, deleteMatching_filter (Nat.lt_succ_self _),
    notifySubscriber_delete m.nif hd hs hm]

theorem mem_addSubscriber {s x : S} {o : Outcome} (h : x ∈ (m.addSubscriber s o).mSubscribers) :
    x ∈ m.mSubscribers ∨ o.elemOk = true ∧ x = clone s := by
  unfold addSubscriber at h
  split at h
  · next hc =>
    obtain rfl | h := List.mem_cons.mp h
    · exact Or.inr ⟨hc.2, rfl⟩
    · exact Or.inl h
  · exact Or.inl h

theorem subset_addSubscriber (s : S) (o : Outcome) :
    m.mSubscribers ⊆ (m.addSubscriber s o).mSubscribers := by
  unfold addSubscriber
  split
  · exact List.subset_cons_self ..
  · exact List.Subset.refl _

theorem clone_mem_addSubscriber {s : S} {o : Outcome} (ho : o.elemOk = true)
    (h : ∀ x ∈ m.mSubscribers, equals x s = false) :
    clone s ∈ (m.addSubscriber s o).mSubscribers := by
  simp [addSubscriber, search_toOne_none.mpr h, ho]

theorem mem_leave {s x : S} (h : x ∈ (m.leave s).mSubscribers) (hx : isInactive x = false) :
    x ∈ m.mSubscribers := by
  by_cases hw : waitForCloseComplete S = true
  · simp only [leave, hw, if_true] at h
    obtain rfl | h := mem_of_mem_replace h
    · rw [isInactive_setInactive hw] at hx
      contradiction
    · exact h
  · simp only [leave, hw] at h
    rw [if_neg (by simp), notifySubscribers_delete rfl (by simp) (by simp)] at h
    exact (List.mem_filter.mp h).1

theorem leave_inactive {s y : S} (hs : s ∈ m.mSubscribers) (hy : isInactive y = true) :
    ∃ x ∈ (m.leave s).mSubscribers, isInactive x = true := by
  have hw := wait_of_isInactive y hy
  refine ⟨setInactive s, ?_, isInactive_setInactive hw s⟩
  simpa [leave, hw] using mem_replace_self hs

theorem all_deleted (m : AgpsStateMachine S) (status : AgpsRsrcStatus) (hs : status ≠ .subscribe)
    (hm : status ≠ .max) :
    (m.notifySubscribers (.toGroup .all status true)).mSubscribers = [] := by
  rw [notifySubscribers_delete rfl (by simpa) (by simpa)]
  simp

section Released

variable {send : SendRsrcRequest S}
  (hlist : ∀ action o m, (send action o m).2.mSubscribers = m.mSubscribers)

include hlist

theorem leave_released (o : Outcome) {next : AgpsState} (hnext : next ≠ .released)
    (m : AgpsStateMachine S) :
    let r := if !m.hasSubscribers then (AgpsState.released, (send .releaseAgpsDataConn o m).2)
      else if !m.hasActiveSubscribers then (.releasing, (send .releaseAgpsDataConn o m).2)
      else (next, m)
    r.1 = .released → r.2.mSubscribers = [] := by
  by_cases hs : m.hasSubscribers = true
  · by_cases ha : m.hasActiveSubscribers = true
    · simp [hs, ha, hnext]
    · simp [hs, ha]
  · have hnil : m.mSubscribers = [] := by
      by_contra hne
      exact hs (hasSubscribers_iff.mpr hne)
    simp [hs, hlist, hnil]

omit hlist in
theorem closed_released (o : Outcome) (m : AgpsStateMachine S) (status : AgpsRsrcStatus)
    (hs : status ≠ .subscribe) (hm : status ≠ .max) :
    let r := AgpsReleasingState.closed send o m status
    r.1 = .released → r.2.mSubscribers = [] := by
  have hdel := notifySubscribers_delete (m := m) (n := .toGroup .inactive status true) rfl
    (by simpa) (by simpa)
  simp only [AgpsReleasingState.closed]
  by_cases ha : (m.notifySubscribers (.toGroup .inactive status true)).hasActiveSubscribers = true
  · simp [ha]
  · rw [if_neg ha]
    intro _
    by_contra hne
    obtain ⟨s, hs⟩ := List.exists_mem_of_ne_nil _ hne
    refine ha (hasActiveSubscribers_iff.mpr ⟨s, hs, ?_⟩)
    rw [hdel] at hs
    simpa using (List.mem_filter.mp hs).2

theorem dispatch_released {e : RsrcEvent S} {o : Outcome} {m : AgpsStateMachine S}
    (hs : m.mStatePtr ≠ .released) (hv : (m.dispatch send e o).mStatePtr = .released) :
    (m.dispatch send e o).mSubscribers = [] := by
  cases hu : m.mStatePtr with
  | released => exact absurd hu hs
  | pending =>
    cases e with
    | unsubscribe s =>
      simp only [dispatch, hu] at hv ⊢
      exact leave_released hlist o (by decide) (m.leave s) hv
    | denied =>
      simpa [dispatch, hu, AgpsPendingState.onRsrcEvent] using
        all_deleted m .denied (by decide) (by decide)
    | _ => simp [dispatch, hu, AgpsPendingState.onRsrcEvent] at hv
  | acquired =>
    cases e with
    | unsubscribe s =>
      simp only [dispatch, hu] at hv ⊢
      exact leave_released hlist o (by decide) (m.leave s) hv
    | released =>
      simpa [dispatch, hu, AgpsAcquiredState.onRsrcEvent] using
        all_deleted m .released (by decide) (by decide)
    | _ => simp [dispatch, hu, AgpsAcquiredState.onRsrcEvent] at hv
  | releasing =>
    cases e with
    | unsubscribe s =>
      simp only [dispatch, hu, AgpsReleasingState.onRsrcEvent] at hv ⊢
      by_contra hne
      simp [hasSubscribers_iff.mpr hne] at hv
    | released =>
      simp only [dispatch, hu] at hv ⊢
      exact closed_released o m .released (by decide) (by decide) hv
    | denied =>
      simp only [dispatch, hu] at hv ⊢
      exact closed_released o m .denied (by decide) (by decide) hv
    | _ => simp [dispatch, hu, AgpsReleasingState.onRsrcEvent] at hv

end Released

end AgpsStateMachine

end Wt88047.Agps
