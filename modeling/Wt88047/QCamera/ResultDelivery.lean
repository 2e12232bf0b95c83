import Wt88047.QCamera.StateMachine
import Mathlib.Data.List.Perm.Basic
import Mathlib.Data.List.Nodup

/-! Results of the state machine on their way to the callers: the list that `waitAPIResult` searches
and the one slot of `processSyncEvt`. Calls are numbered, and a result is named by the call whose
event it answers. -/

namespace Wt88047.QCamera

def Evt.sync : Evt → Bool
  | .snapshotDone => true
  | _ => false

structure Call where
  serial : Nat
  evt : Evt
  deriving DecidableEq

/-- A thread in `pthread_cond_wait` for its call, or about to look for the result. -/
structure Waiter where
  call : Call
  asleep : Bool := true
  deriving DecidableEq

/-- `resultList` is `m_apiResultList`, `evtResult` is `m_evtResult` (`none` after the `memset`).
`busy` is the event that the state machine is processing, and `returned` records the calls that
came back from their wait, with the result they took. -/
structure Results where
  apiQueue : List Call := []
  evtQueue : List Call := []
  busy : Option Call := none
  resultList : List Call := []
  evtResult : Option Call := none
  waiters : List Waiter := []
  evtWaiters : List Waiter := []
  issued : Nat := 0
  returned : List (Call × Call) := []

/-- `waits` tells whether the caller of `processAPI` goes on to `waitAPIResult`. -/
inductive ResultEvent
  | processAPI (evt : Evt) (waits : Bool)
  | processSyncEvt (evt : Evt)
  | take
  | signal (woken : Option Nat)
  | resume (i : Nat)
  | resumeEvt (i : Nat)
  | spurious (i : Nat)
  | spuriousEvt (i : Nat)

/-- The search of `waitAPIResult`: the first result of the type, taken out of the list. -/
def takeResult (e : Evt) : List Call → Option (Call × List Call)
  | [] => none
  | r :: rest =>
    if r.evt = e then some (r, rest) else (takeResult e rest).map fun p => (p.1, r :: p.2)

def wake (i : Nat) (l : List Waiter) : List Waiter :=
  l.modify i fun w => { w with asleep := false }

def wakeAll (l : List Waiter) : List Waiter := l.map fun w => { w with asleep := false }

def wakeOne (woken : Option Nat) (l : List Waiter) : Option (List Waiter) :=
  match woken with
  | none => if ∃ w ∈ l, w.asleep = true then none else some l
  | some i => if (l[i]?.map Waiter.asleep) = some true then some (wake i l) else none

namespace Results

/-- `processAPI` under `m_lock`, up to the wait. -/
def processAPI (e : Evt) (waits : Bool) (s : Results) : Results :=
  { s with
    apiQueue := s.apiQueue ++ [⟨s.issued, e⟩]
    waiters := if waits then s.waiters ++ [⟨⟨s.issued, e⟩, true⟩] else s.waiters
    issued := s.issued + 1 }

/-- `processSyncEvt` under `m_evtLock`, up to the wait. -/
def processSyncEvt (e : Evt) (s : Results) : Results :=
  { s with
    evtQueue := s.evtQueue ++ [⟨s.issued, e⟩]
    evtResult := none
    evtWaiters := s.evtWaiters ++ [⟨⟨s.issued, e⟩, true⟩]
    issued := s.issued + 1 }

def take (s : Results) : Option Results :=
  match s.apiQueue, s.evtQueue with
  | c :: rest, _ => some { s with busy := some c, apiQueue := rest }
  | [], c :: rest => some { s with busy := some c, evtQueue := rest }
  | [], [] => none

/-- `signalEvtResult` or `signalAPIResult`. -/
def signal (c : Call) (woken : Option Nat) (s : Results) : Option Results :=
  if c.evt.sync then
    (wakeOne woken s.evtWaiters).map fun l =>
      { s with busy := none, evtResult := some c, evtWaiters := l }
  else some { s with
    busy := none, resultList := s.resultList ++ [c], waiters := wakeAll s.waiters }

def resume (i : Nat) (w : Waiter) (s : Results) : Results :=
  match takeResult w.call.evt s.resultList with
  | some (r, rest) =>
    { s with
      resultList := rest
      waiters := s.waiters.eraseIdx i
      returned := s.returned ++ [(w.call, r)] }
  | none => { s with waiters := s.waiters.set i { w with asleep := true } }

def resumeEvt (i : Nat) (w : Waiter) (s : Results) : Results :=
  match s.evtResult with
  | some r =>
    if r.evt = w.call.evt then
      { s with evtWaiters := s.evtWaiters.eraseIdx i, returned := s.returned ++ [(w.call, r)] }
    else { s with evtWaiters := s.evtWaiters.set i { w with asleep := true } }
  | none => { s with evtWaiters := s.evtWaiters.set i { w with asleep := true } }

def step (s : Results) : ResultEvent → Option Results
  | .processAPI e waits => some (s.processAPI e waits)
  | .processSyncEvt e => some (s.processSyncEvt e)
  | .take => if s.busy = none then s.take else none
  | .signal woken => s.busy.bind fun c => s.signal c woken
  | .resume i =>
    s.waiters[i]?.bind fun w => if w.asleep then none else some (s.resume i w)
  | .resumeEvt i =>
    s.evtWaiters[i]?.bind fun w => if w.asleep then none else some (s.resumeEvt i w)
  | .spurious i => some { s with waiters := wake i s.waiters }
  | .spuriousEvt i => some { s with evtWaiters := wake i s.evtWaiters }

def unanswered (s : Results) : List Call := s.busy.toList ++ s.apiQueue ++ s.evtQueue

/-- Every call that returned did so once and with its own result, those that wait have it still to
come or there for them to take, and nothing is left when nobody waits. -/
structure Served (s : Results) : Prop where
  own : ∀ p ∈ s.returned, p.1 = p.2
  once : (s.returned.map fun p => p.1.serial).Nodup
  gone : ∀ p ∈ s.returned, ∀ w ∈ s.waiters ++ s.evtWaiters, w.call ≠ p.1
  kept : ∀ w ∈ s.waiters,
    w.call ∈ s.unanswered ∨ (w.call ∈ s.resultList ∧ w.asleep = false)
  keptEvt : ∀ w ∈ s.evtWaiters,
    w.call ∈ s.unanswered ∨ (s.evtResult = some w.call ∧ w.asleep = false)
  clean : s.waiters = [] → s.resultList = []

/-- Callers of `processAPI` wait, for a result that comes through `signalAPIResult`, and no two of
them at once for the same type; and `processSyncEvt` is for the event that is answered there, with
nobody else in it. -/
def Sound (s : Results) : ResultEvent → Prop
  | .processAPI e waits => waits = true ∧ e.sync = false ∧ ∀ w ∈ s.waiters, w.call.evt ≠ e
  | .processSyncEvt e => e.sync = true ∧ s.evtWaiters = []
  | _ => True

instance (s : Results) : ∀ e, Decidable (Sound s e)
  | .processAPI .. => inferInstanceAs (Decidable (_ ∧ _ ∧ _))
  | .processSyncEvt _ => inferInstanceAs (Decidable (_ ∧ _))
  | .take | .signal _ | .resume _ | .resumeEvt _ | .spurious _ | .spuriousEvt _ => isTrue trivial

def calls (l : List Waiter) : List Call := l.map Waiter.call

def apiPending (s : Results) : List Call :=
  s.busy.toList.filter (fun c => !c.evt.sync) ++ s.apiQueue

def evtPending (s : Results) : List Call := s.busy.toList.filter (fun c => c.evt.sync) ++ s.evtQueue

def seen (s : Results) : List Nat :=
  s.returned.map (fun p => p.1.serial) ++ (calls s.waiters).map Call.serial ++
    (calls s.evtWaiters).map Call.serial

def SyncWait (s : Results) : Prop :=
  (s.evtWaiters = [] ∧ s.evtPending = []) ∨ ∃ w, s.evtWaiters = [w] ∧ w.call.evt.sync = true ∧
    ((s.evtPending = [w.call] ∧ s.evtResult = none) ∨
      (s.evtPending = [] ∧ s.evtResult = some w.call ∧ w.asleep = false))

structure Inv (s : Results) : Prop where
  api : (s.resultList ++ s.apiPending).Perm (calls s.waiters)
  types : ((calls s.waiters).map Call.evt).Nodup
  plain : ∀ c ∈ calls s.waiters, c.evt.sync = false
  alert : ∀ w ∈ s.waiters, w.call ∈ s.resultList → w.asleep = false
  sync : s.SyncWait
  own : ∀ p ∈ s.returned, p.1 = p.2
  distinct : s.seen.Nodup
  below : ∀ n ∈ s.seen, n < s.issued

variable {l : List Waiter} {w : Waiter}

theorem mem_calls (hw : w ∈ l) : w.call ∈ calls l :=
  List.mem_map_of_mem hw

theorem apiPending_subset {s : Results} {c : Call} (hc : c ∈ s.apiPending) : c ∈ s.unanswered := by
  unfold unanswered
  rcases List.mem_append.mp hc with hc | hc
  · exact List.mem_append_left _ (List.mem_append_left _ (List.mem_filter.mp hc).1)
  · exact List.mem_append_left _ (List.mem_append_right _ hc)

theorem evtPending_subset {s : Results} {c : Call} (hc : c ∈ s.evtPending) : c ∈ s.unanswered := by
  unfold unanswered
  rcases List.mem_append.mp hc with hc | hc
  · exact List.mem_append_left _ (List.mem_append_left _ (List.mem_filter.mp hc).1)
  · exact List.mem_append_right _ hc

theorem Inv.served {s : Results} (h : Inv s) : s.Served := by
  have hdist := h.distinct
  unfold seen at hdist
  rw [List.append_assoc] at hdist
  obtain ⟨honce, _, hdisj⟩ := List.nodup_append.mp hdist
  refine ⟨h.own, honce, fun p hp w hw he => ?_, fun w hw => ?_, fun w hw => ?_, fun hnil => ?_⟩
  · have hleft : p.1.serial ∈ s.returned.map fun p => p.1.serial := List.mem_map_of_mem hp
    have hright : w.call.serial ∈
        (calls s.waiters).map Call.serial ++ (calls s.evtWaiters).map Call.serial := by
      rcases List.mem_append.mp hw with hw | hw
      · exact List.mem_append_left _ (List.mem_map_of_mem (mem_calls hw))
      · exact List.mem_append_right _ (List.mem_map_of_mem (mem_calls hw))
    exact hdisj _ hleft _ hright (by rw [he])
  · rcases List.mem_append.mp (h.api.mem_iff.mpr (mem_calls hw)) with hc | hc
    · exact Or.inr ⟨hc, h.alert w hw hc⟩
    · exact Or.inl (apiPending_subset hc)
  · rcases h.sync with ⟨hnil, _⟩ | ⟨v, hv, _, hcase⟩
    · rw [hnil] at hw
      cases hw
    · rw [hv] at hw
      rw [List.mem_singleton.mp hw]
      rcases hcase with ⟨hpend, _⟩ | ⟨_, hres, hasleep⟩
      · exact Or.inl (evtPending_subset (by rw [hpend]; exact List.mem_singleton_self _))
      · exact Or.inr ⟨hres, hasleep⟩
  · have hperm := h.api
    rw [hnil] at hperm
    exact (List.append_eq_nil_iff.mp hperm.eq_nil).1

theorem takeResult_some {e : Evt} {l rest : List Call} {r : Call}
    (h : takeResult e l = some (r, rest)) : l.Perm (r :: rest) ∧ r.evt = e := by
  induction l generalizing r rest with
  | nil => cases h
  | cons c l ih =>
    unfold takeResult at h
    split at h
    next he =>
      obtain ⟨rfl, rfl⟩ := Prod.mk.inj (Option.some.inj h)
      exact ⟨List.Perm.refl _, he⟩
    next he =>
      obtain ⟨⟨r', rest'⟩, hp, heq⟩ := Option.map_eq_some_iff.mp h
      obtain ⟨rfl, rfl⟩ := Prod.mk.inj heq
      obtain ⟨hperm, hevt⟩ := ih hp
      exact ⟨(hperm.cons c).trans (List.Perm.swap r' c rest'), hevt⟩

theorem takeResult_none {e : Evt} {l : List Call} (h : takeResult e l = none) :
    ∀ c ∈ l, c.evt ≠ e := by
  induction l with
  | nil => exact fun c hc => absurd hc List.not_mem_nil
  | cons d l ih =>
    unfold takeResult at h
    split at h
    · cases h
    next hd =>
      intro c hc
      rcases List.mem_cons.mp hc with rfl | hc
      · exact hd
      · exact ih (Option.map_eq_none_iff.mp h) c hc

theorem wake_calls (i : Nat) (l : List Waiter) : calls (wake i l) = calls l := by
  unfold calls wake
  induction l generalizing i with
  | nil => rw [List.modify_nil]
  | cons w l ih =>
    cases i with
    | zero => rfl
    | succ i =>
      rw [List.modify_succ_cons, List.map_cons, List.map_cons, ih]

theorem wakeAll_calls (l : List Waiter) : calls (wakeAll l) = calls l := by
  unfold calls wakeAll
  rw [List.map_map]
  rfl

variable {i : Nat}

theorem set_calls (hw : l[i]? = some w) : calls (l.set i { w with asleep := true }) = calls l := by
  unfold calls
  rw [List.map_set]
  refine List.ext_getElem? fun j => ?_
  by_cases hj : i = j
  · subst hj
    obtain ⟨hlt, heq⟩ := List.getElem?_eq_some_iff.mp hw
    rw [List.getElem?_set_self (by rw [List.length_map]; exact hlt), List.getElem?_map, hw]
    rfl
  · rw [List.getElem?_set_ne hj]

theorem eraseIdx_calls (hw : l[i]? = some w) : (calls l).Perm (w.call :: calls (l.eraseIdx i)) := by
  obtain ⟨hlt, heq⟩ := List.getElem?_eq_some_iff.mp hw
  have hperm := (List.getElem_cons_eraseIdx_perm hlt).map Waiter.call
  rw [heq] at hperm
  exact hperm.symm

theorem mem_wake {v : Waiter} (hv : v ∈ wake i l) :
    ∃ w ∈ l, v.call = w.call ∧ (w.asleep = false → v.asleep = false) := by
  obtain ⟨j, hj⟩ := List.getElem?_of_mem hv
  unfold wake at hj
  rw [List.getElem?_modify] at hj
  obtain ⟨w, hw, rfl⟩ := Option.map_eq_some_iff.mp hj
  refine ⟨w, List.mem_of_getElem? hw, ?_, fun ha => ?_⟩
  · split <;> rfl
  · split
    · rfl
    · exact ha

variable {s t : Results} {c : Call}

theorem apiPending_plain (hb : s.busy = some c) (hc : c.evt.sync = false) :
    s.apiPending = c :: s.apiQueue := by
  have hkeep : [c].filter (fun c => !c.evt.sync) = [c] := List.filter_cons_of_pos (by rw [hc]; rfl)
  unfold apiPending
  rw [hb, Option.toList_some, hkeep]
  rfl

theorem apiPending_sync (hb : s.busy = some c) (hc : c.evt.sync = true) :
    s.apiPending = s.apiQueue := by
  have hdrop : [c].filter (fun c => !c.evt.sync) = [] :=
    List.filter_cons_of_neg (by rw [hc]; decide)
  unfold apiPending
  rw [hb, Option.toList_some, hdrop]
  rfl

theorem evtPending_sync (hb : s.busy = some c) (hc : c.evt.sync = true) :
    s.evtPending = c :: s.evtQueue := by
  have hkeep : [c].filter (fun c => c.evt.sync) = [c] := List.filter_cons_of_pos hc
  unfold evtPending
  rw [hb, Option.toList_some, hkeep]
  rfl

theorem evtPending_plain (hb : s.busy = some c) (hc : c.evt.sync = false) :
    s.evtPending = s.evtQueue := by
  have hdrop : [c].filter (fun c => c.evt.sync) = [] :=
    List.filter_cons_of_neg (by rw [hc]; decide)
  unfold evtPending
  rw [hb, Option.toList_some, hdrop]
  rfl

theorem Inv.processAPI {e : Evt} (h : Inv s) (hsync : e.sync = false)
    (hnew : ∀ w ∈ s.waiters, w.call.evt ≠ e) : Inv (s.processAPI e true) := by
  have hcalls : calls (s.processAPI e true).waiters = calls s.waiters ++ [⟨s.issued, e⟩] := by
    show (s.waiters ++ [(⟨⟨s.issued, e⟩, true⟩ : Waiter)]).map Waiter.call = _
    rw [List.map_append]
    rfl
  have hseen : (s.processAPI e true).seen.Perm (s.issued :: s.seen) := by
    show (s.returned.map (fun p => p.1.serial) ++ (calls (s.processAPI e true).waiters).map Call.serial ++
      (calls s.evtWaiters).map Call.serial).Perm _
    rw [hcalls, List.map_append, ← List.append_assoc, List.append_assoc]
    exact List.perm_middle
  have hfresh : s.issued ∉ s.seen := fun hm => Nat.lt_irrefl _ (h.below _ hm)
  refine ⟨?_, ?_, ?_, fun w hw hr => ?_, h.sync, h.own, ?_, ?_⟩
  · rw [hcalls]
    show (s.resultList ++ (s.busy.toList.filter _ ++ (s.apiQueue ++ [(⟨s.issued, e⟩ : Call)]))).Perm _
    rw [← List.append_assoc, ← List.append_assoc, List.append_assoc s.resultList]
    exact h.api.append_right _
  · rw [hcalls, List.map_append]
    refine List.nodup_append.mpr ⟨h.types, List.nodup_singleton _, ?_⟩
    rintro a ha b hb rfl
    obtain ⟨c, hc, rfl⟩ := List.mem_map.mp ha
    obtain ⟨w, hw, rfl⟩ := List.mem_map.mp hc
    exact hnew w hw (List.mem_singleton.mp hb)
  · rw [hcalls]
    intro c hc
    rcases List.mem_append.mp hc with hc | hc
    · exact h.plain c hc
    · rw [List.mem_singleton.mp hc]
      exact hsync
  · rcases List.mem_append.mp hw with hw | hw
    · exact h.alert w hw hr
    · rw [List.mem_singleton.mp hw] at hr
      have hmem : (⟨s.issued, e⟩ : Call) ∈ calls s.waiters :=
        h.api.mem_iff.mp (List.mem_append_left _ hr)
      refine absurd (h.below _ ?_) (Nat.lt_irrefl s.issued)
      exact List.mem_append_left _ (List.mem_append_right _ (List.mem_map.mpr ⟨_, hmem, rfl⟩))
  · exact hseen.nodup_iff.mpr (List.nodup_cons.mpr ⟨hfresh, h.distinct⟩)
  · intro n hn
    show n < s.issued + 1
    rcases List.mem_cons.mp (hseen.mem_iff.mp hn) with rfl | hn
    · exact Nat.lt_succ_self _
    · exact Nat.lt_succ_of_lt (h.below n hn)

theorem Inv.processSyncEvt {e : Evt} (h : Inv s) (hsync : e.sync = true)
    (hnil : s.evtWaiters = []) : Inv (s.processSyncEvt e) := by
  have hpend : s.evtPending = [] := by
    rcases h.sync with ⟨_, hp⟩ | ⟨w, hw, _⟩
    · exact hp
    · rw [hnil] at hw
      cases hw
  have hwait : (s.processSyncEvt e).evtWaiters = [⟨⟨s.issued, e⟩, true⟩] := by
    show s.evtWaiters ++ [(⟨⟨s.issued, e⟩, true⟩ : Waiter)] = _
    rw [hnil]
    rfl
  have hseen : (s.processSyncEvt e).seen.Perm (s.issued :: s.seen) := by
    have hold : s.seen = s.returned.map (fun p => p.1.serial) ++ (calls s.waiters).map Call.serial := by
      unfold seen
      rw [hnil]
      exact List.append_nil _
    have hnow : (s.processSyncEvt e).seen = s.seen ++ [s.issued] := by
      rw [hold]
      unfold seen
      rw [hwait]
      rfl
    rw [hnow]
    exact List.perm_append_singleton _ _
  have hfresh : s.issued ∉ s.seen := fun hm => Nat.lt_irrefl _ (h.below _ hm)
  refine ⟨h.api, h.types, h.plain, h.alert, Or.inr ⟨_, hwait, hsync, Or.inl ⟨?_, rfl⟩⟩, h.own, ?_, ?_⟩
  · show s.busy.toList.filter _ ++ (s.evtQueue ++ [_]) = _
    rw [← List.append_assoc]
    show s.evtPending ++ [_] = _
    rw [hpend]
    rfl
  · exact hseen.nodup_iff.mpr (List.nodup_cons.mpr ⟨hfresh, h.distinct⟩)
  · intro n hn
    show n < s.issued + 1
    rcases List.mem_cons.mp (hseen.mem_iff.mp hn) with rfl | hn
    · exact Nat.lt_succ_self _
    · exact Nat.lt_succ_of_lt (h.below n hn)

theorem Inv.api_plain (h : Inv s) (hc : c ∈ s.resultList ++ s.apiPending) :
    c.evt.sync = false := h.plain c (h.api.mem_iff.mp hc)

theorem Inv.evt_sync (h : Inv s) (hc : c ∈ s.evtPending) : c.evt.sync = true := by
  rcases h.sync with ⟨_, hp⟩ | ⟨w, _, hw, hcase⟩
  · rw [hp] at hc
    cases hc
  · rcases hcase with ⟨hp, _⟩ | ⟨hp, _⟩
    · rw [hp] at hc
      rw [List.mem_singleton.mp hc]
      exact hw
    · rw [hp] at hc
      cases hc

theorem Inv.take (h : Inv s) (hbusy : s.busy = none) (ht : s.take = some t) : Inv t := by
  have hapi : s.apiPending = s.apiQueue := by
    unfold apiPending
    rw [hbusy]
    rfl
  have hevt : s.evtPending = s.evtQueue := by
    unfold evtPending
    rw [hbusy]
    rfl
  have hmoved (t : Results) (hw : t.waiters = s.waiters) (he : t.evtWaiters = s.evtWaiters)
      (hr : t.resultList = s.resultList) (hres : t.evtResult = s.evtResult)
      (hret : t.returned = s.returned) (hiss : t.issued = s.issued)
      (ha : t.apiPending = s.apiPending) (hb : t.evtPending = s.evtPending) : Inv t := by
    have hs : t.seen = s.seen := by
      unfold seen
      rw [hret, hw, he]
    refine ⟨?_, ?_, ?_, ?_, ?_, ?_, ?_, ?_⟩
    · rw [hr, ha, hw]
      exact h.api
    · rw [hw]
      exact h.types
    · rw [hw]
      exact h.plain
    · rw [hw, hr]
      exact h.alert
    · unfold SyncWait
      rw [he, hb, hres]
      exact h.sync
    · rw [hret]
      exact h.own
    · rw [hs]
      exact h.distinct
    · rw [hs, hiss]
      exact h.below
  unfold Results.take at ht
  cases hq : s.apiQueue with
  | cons c rest =>
    rw [hq] at ht
    obtain rfl := Option.some.inj ht
    have hc : c.evt.sync = false := h.api_plain (by
      rw [hapi, hq]
      exact List.mem_append_right _ (List.mem_cons_self ..))
    refine hmoved _ rfl rfl rfl rfl rfl rfl ?_ ?_
    · rw [hapi, hq, apiPending_plain rfl hc]
    · rw [hevt, evtPending_plain rfl hc]
  | nil =>
    cases hq' : s.evtQueue with
    | cons c rest =>
      rw [hq, hq'] at ht
      obtain rfl := Option.some.inj ht
      have hc : c.evt.sync = true := h.evt_sync (by
        rw [hevt, hq']
        exact List.mem_cons_self ..)
      refine hmoved _ rfl rfl rfl rfl rfl rfl ?_ ?_
      · rw [hapi, apiPending_sync rfl hc]
        exact hq.symm
      · rw [hevt, hq', evtPending_sync rfl hc]
    | nil =>
      rw [hq, hq'] at ht
      cases ht

theorem wakeOne_single {woken : Option Nat} (h : wakeOne woken [w] = some l) :
    l = [{ w with asleep := false }] := by
  cases woken with
  | none =>
    simp only [wakeOne] at h
    split at h
    · cases h
    next hno =>
      obtain rfl := Option.some.inj h
      cases w with
      | mk call asleep =>
        cases asleep with
        | true => exact absurd ⟨_, List.mem_singleton_self _, rfl⟩ hno
        | false => rfl
  | some i =>
    simp only [wakeOne] at h
    split at h
    next hi =>
      obtain rfl := Option.some.inj h
      cases i with
      | zero => rfl
      | succ i => cases hi
    · cases h

theorem Inv.signal {woken : Option Nat} (h : Inv s) (hbusy : s.busy = some c)
    (ht : s.signal c woken = some t) : Inv t := by
  unfold Results.signal at ht
  split at ht
  next hc =>
    obtain ⟨l, hl, rfl⟩ := Option.map_eq_some_iff.mp ht
    have hpend : s.evtPending = c :: s.evtQueue := evtPending_sync hbusy hc
    rcases h.sync with ⟨_, hp⟩ | ⟨w, hw, hws, hcase⟩
    · rw [hpend] at hp
      cases hp
    rcases hcase with ⟨hp, _⟩ | ⟨hp, _⟩
    swap
    · rw [hpend] at hp
      cases hp
    rw [hpend] at hp
    obtain ⟨rfl, hq⟩ := List.cons.inj hp
    rw [hw] at hl
    obtain rfl := wakeOne_single hl
    have hapi : s.apiPending = s.apiQueue := apiPending_sync hbusy hc
    have hs : s.seen = s.returned.map (fun p => p.1.serial) ++ (calls s.waiters).map Call.serial ++
        [w.call.serial] := by
      unfold seen
      rw [hw]
      rfl
    refine ⟨?_, h.types, h.plain, h.alert, ?_, h.own, ?_, ?_⟩
    · have happ := h.api
      rw [hapi] at happ
      exact happ
    · exact Or.inr ⟨_, rfl, hws, Or.inr ⟨hq, rfl, rfl⟩⟩
    · have hd := h.distinct
      rw [hs] at hd
      exact hd
    · have hb := h.below
      rw [hs] at hb
      exact hb
  next hc =>
    obtain rfl := Option.some.inj ht
    have hcf : c.evt.sync = false := by simpa using hc
    have hpend : s.apiPending = c :: s.apiQueue := apiPending_plain hbusy hcf
    have hevt : s.evtPending = s.evtQueue := evtPending_plain hbusy hcf
    have hcalls := wakeAll_calls s.waiters
    let t : Results := { s with
      busy := none, resultList := s.resultList ++ [c], waiters := wakeAll s.waiters }
    have hs : t.seen = s.seen := by
      show s.returned.map _ ++ (calls (wakeAll s.waiters)).map _ ++ _ = _
      rw [hcalls]
      rfl
    show Inv t
    refine ⟨?_, ?_, ?_, fun w hw _ => ?_, ?_, h.own, by rw [hs]; exact h.distinct,
      by rw [hs]; exact h.below⟩
    · show ((s.resultList ++ [c]) ++ s.apiQueue).Perm (calls (wakeAll s.waiters))
      rw [hcalls, List.append_assoc]
      have happ := h.api
      rw [hpend] at happ
      exact happ
    · show ((calls (wakeAll s.waiters)).map _).Nodup
      rw [hcalls]
      exact h.types
    · show ∀ c ∈ calls (wakeAll s.waiters), _
      rw [hcalls]
      exact h.plain
    · obtain ⟨v, _, rfl⟩ := List.mem_map.mp hw
      rfl
    · have hsync := h.sync
      unfold SyncWait at hsync ⊢
      rw [hevt] at hsync
      exact hsync

theorem Inv.result_own (h : Inv s) (hw : w ∈ s.waiters) (hc : c ∈ s.resultList)
    (he : c.evt = w.call.evt) : c = w.call :=
  List.inj_on_of_nodup_map h.types (h.api.mem_iff.mp (List.mem_append_left _ hc)) (mem_calls hw) he

theorem Inv.resume (h : Inv s) (hi : s.waiters[i]? = some w) : Inv (s.resume i w) := by
  have hw : w ∈ s.waiters := List.mem_of_getElem? hi
  unfold Results.resume
  split
  next r rest hr =>
    obtain ⟨hperm, hevt⟩ := takeResult_some hr
    obtain rfl := h.result_own hw (hperm.mem_iff.mpr (List.mem_cons_self ..)) hevt
    have hcalls := eraseIdx_calls hi
    have hsub : ∀ c ∈ calls (s.waiters.eraseIdx i), c ∈ calls s.waiters :=
      fun c hc => hcalls.mem_iff.mpr (List.mem_cons_of_mem _ hc)
    let t : Results := { s with
      resultList := rest
      waiters := s.waiters.eraseIdx i
      returned := s.returned ++ [(w.call, w.call)] }
    have hseen : t.seen.Perm s.seen := by
      show ((s.returned ++ [(w.call, w.call)]).map (fun p => p.1.serial) ++
        (calls (s.waiters.eraseIdx i)).map Call.serial ++ _).Perm _
      rw [List.map_append, List.append_assoc (s.returned.map _)]
      exact (((hcalls.map Call.serial).symm).append_left _).append_right _
    show Inv t
    refine ⟨?_, ?_, fun c hc => h.plain c (hsub c hc), fun v hv hr => ?_, h.sync, ?_,
      hseen.nodup_iff.mpr h.distinct, fun n hn => h.below n (hseen.mem_iff.mp hn)⟩
    · have hall : (w.call :: (rest ++ s.apiPending)).Perm (w.call :: calls (s.waiters.eraseIdx i)) :=
        ((hperm.append_right _).symm.trans h.api).trans hcalls
      exact hall.cons_inv
    · have htypes := h.types
      rw [(hcalls.map Call.evt).nodup_iff] at htypes
      exact (List.nodup_cons.mp htypes).2
    · exact h.alert v (List.mem_of_mem_eraseIdx hv) (hperm.mem_iff.mpr (List.mem_cons_of_mem _ hr))
    · intro p hp
      rcases List.mem_append.mp hp with hp | hp
      · exact h.own p hp
      · rw [List.mem_singleton.mp hp]
  next hr =>
    have hcalls := set_calls hi
    let t : Results := { s with waiters := s.waiters.set i { w with asleep := true } }
    have hseen : t.seen = s.seen := by
      show s.returned.map _ ++ (calls (s.waiters.set i _)).map _ ++ _ = _
      rw [hcalls]
      rfl
    show Inv t
    refine ⟨?_, ?_, ?_, fun v hv hvr => ?_, h.sync, h.own, by rw [hseen]; exact h.distinct,
      by rw [hseen]; exact h.below⟩
    · show List.Perm _ (calls (s.waiters.set i _))
      rw [hcalls]
      exact h.api
    · show ((calls (s.waiters.set i _)).map _).Nodup
      rw [hcalls]
      exact h.types
    · show ∀ c ∈ calls (s.waiters.set i _), _
      rw [hcalls]
      exact h.plain
    · rcases List.mem_or_eq_of_mem_set hv with hv | rfl
      · exact h.alert v hv hvr
      · exact absurd rfl (takeResult_none hr w.call hvr)

theorem resumeEvt_none (hr : s.evtResult = none) :
    s.resumeEvt i w = { s with evtWaiters := s.evtWaiters.set i { w with asleep := true } } := by
  unfold Results.resumeEvt
  split
  next r hr' =>
    rw [hr] at hr'
    cases hr'
  · rfl

theorem resumeEvt_own (hr : s.evtResult = some w.call) :
    s.resumeEvt i w = { s with
      evtWaiters := s.evtWaiters.eraseIdx i, returned := s.returned ++ [(w.call, w.call)] } := by
  unfold Results.resumeEvt
  split
  next r hr' =>
    rw [hr] at hr'
    obtain rfl := Option.some.inj hr'
    rw [if_pos rfl]
  next hr' =>
    rw [hr] at hr'
    cases hr'

theorem Inv.resumeEvt (h : Inv s) (hi : s.evtWaiters[i]? = some w) : Inv (s.resumeEvt i w) := by
  have hw : w ∈ s.evtWaiters := List.mem_of_getElem? hi
  rcases h.sync with ⟨hnil, _⟩ | ⟨v, hv, hws, hcase⟩
  · rw [hnil] at hw
    cases hw
  rw [hv] at hw
  obtain rfl := List.mem_singleton.mp hw
  have hzero : i = 0 := by
    rw [hv, List.getElem?_singleton] at hi
    by_contra hne
    rw [if_neg hne] at hi
    cases hi
  subst hzero
  have hseen : s.seen = s.returned.map (fun p => p.1.serial) ++ (calls s.waiters).map Call.serial ++
      [w.call.serial] := by
    unfold seen
    rw [hv]
    rfl
  have hdist := h.distinct
  have hbelow := h.below
  rw [hseen] at hdist hbelow
  rcases hcase with ⟨hp, hres⟩ | ⟨hp, hres, _⟩
  · rw [resumeEvt_none hres]
    have hset : s.evtWaiters.set 0 { w with asleep := true } = [{ w with asleep := true }] := by
      rw [hv]
      rfl
    refine ⟨h.api, h.types, h.plain, h.alert, Or.inr ⟨_, hset, hws, Or.inl ⟨hp, hres⟩⟩, h.own, ?_, ?_⟩
    · unfold seen
      rw [hset]
      exact hdist
    · unfold seen
      rw [hset]
      exact hbelow
  · rw [resumeEvt_own hres]
    have hnil : s.evtWaiters.eraseIdx 0 = [] := by
      rw [hv]
      rfl
    let t : Results := { s with
      evtWaiters := s.evtWaiters.eraseIdx 0, returned := s.returned ++ [(w.call, w.call)] }
    have hperm : t.seen.Perm s.seen := by
      rw [hseen]
      show ((s.returned ++ [(w.call, w.call)]).map (fun p => p.1.serial) ++
        (calls s.waiters).map Call.serial ++ (calls (s.evtWaiters.eraseIdx 0)).map Call.serial).Perm _
      rw [hnil, List.map_append, List.append_assoc, List.append_assoc, List.append_assoc]
      refine List.Perm.append_left _ ?_
      show ([w.call.serial] ++ ((calls s.waiters).map Call.serial ++ [])).Perm _
      rw [List.append_nil]
      exact List.perm_append_comm
    show Inv t
    refine ⟨h.api, h.types, h.plain, h.alert, Or.inl ⟨hnil, hp⟩, ?_,
      hperm.nodup_iff.mpr h.distinct, fun n hn => h.below n (hperm.mem_iff.mp hn)⟩
    intro p hp
    rcases List.mem_append.mp hp with hp | hp
    · exact h.own p hp
    · rw [List.mem_singleton.mp hp]

theorem Inv.spurious (h : Inv s) (i : Nat) : Inv { s with waiters := wake i s.waiters } := by
  have hcalls := wake_calls i s.waiters
  let t : Results := { s with waiters := wake i s.waiters }
  have hseen : t.seen = s.seen := by
    show s.returned.map _ ++ (calls (wake i s.waiters)).map _ ++ _ = _
    rw [hcalls]
    rfl
  show Inv t
  refine ⟨?_, ?_, ?_, fun v hv hr => ?_, h.sync, h.own, by rw [hseen]; exact h.distinct,
    by rw [hseen]; exact h.below⟩
  · show List.Perm _ (calls (wake i s.waiters))
    rw [hcalls]
    exact h.api
  · show ((calls (wake i s.waiters)).map _).Nodup
    rw [hcalls]
    exact h.types
  · show ∀ c ∈ calls (wake i s.waiters), _
    rw [hcalls]
    exact h.plain
  · obtain ⟨w, hw, hcall, hasleep⟩ := mem_wake hv
    rw [hcall] at hr
    exact hasleep (h.alert w hw hr)

theorem Inv.spuriousEvt (h : Inv s) (i : Nat) : Inv { s with evtWaiters := wake i s.evtWaiters } := by
  have hcalls := wake_calls i s.evtWaiters
  let t : Results := { s with evtWaiters := wake i s.evtWaiters }
  have hseen : t.seen = s.seen := by
    show s.returned.map _ ++ _ ++ (calls (wake i s.evtWaiters)).map _ = _
    rw [hcalls]
    rfl
  show Inv t
  refine ⟨h.api, h.types, h.plain, h.alert, ?_, h.own, by rw [hseen]; exact h.distinct,
    by rw [hseen]; exact h.below⟩
  rcases h.sync with ⟨hnil, hp⟩ | ⟨w, hw, hws, hcase⟩
  · refine Or.inl ⟨?_, hp⟩
    show wake i s.evtWaiters = []
    rw [hnil]
    exact List.modify_nil ..
  · obtain ⟨a, hwake, ha⟩ : ∃ a, wake i s.evtWaiters = [⟨w.call, a⟩] ∧ (w.asleep = false → a = false) := by
      rw [hw]
      cases i with
      | zero => exact ⟨false, rfl, fun _ => rfl⟩
      | succ i => exact ⟨w.asleep, by unfold wake; rw [List.modify_succ_cons, List.modify_nil], id⟩
    refine Or.inr ⟨⟨w.call, a⟩, hwake, hws, ?_⟩
    rcases hcase with hcase | ⟨hp, hres, hasleep⟩
    · exact Or.inl hcase
    · exact Or.inr ⟨hp, hres, ha hasleep⟩

theorem Inv.step {e : ResultEvent} (h : Inv s) (hs : Sound s e) (ht : step s e = some t) : Inv t := by
  cases e with
  | processAPI e waits =>
    obtain ⟨rfl, hsync, hnew⟩ := hs
    obtain rfl := Option.some.inj ht
    exact h.processAPI hsync hnew
  | processSyncEvt e =>
    obtain rfl := Option.some.inj ht
    exact h.processSyncEvt hs.1 hs.2
  | take =>
    simp only [Results.step] at ht
    split at ht
    next hb => exact h.take hb ht
    · cases ht
  | signal woken =>
    obtain ⟨c, hb, hc⟩ := Option.bind_eq_some_iff.mp ht
    exact h.signal hb hc
  | resume i =>
    obtain ⟨w, hi, hw⟩ := Option.bind_eq_some_iff.mp ht
    split at hw
    · cases hw
    · obtain rfl := Option.some.inj hw
      exact h.resume hi
  | resumeEvt i =>
    obtain ⟨w, hi, hw⟩ := Option.bind_eq_some_iff.mp ht
    split at hw
    · cases hw
    · obtain rfl := Option.some.inj hw
      exact h.resumeEvt hi
  | spurious i =>
    obtain rfl := Option.some.inj ht
    exact h.spurious i
  | spuriousEvt i =>
    obtain rfl := Option.some.inj ht
    exact h.spuriousEvt i

theorem Inv.init : Inv {} :=
  ⟨List.Perm.refl _, List.nodup_nil, fun _ hc => absurd hc List.not_mem_nil,
    fun _ hw => absurd hw List.not_mem_nil, Or.inl ⟨rfl, rfl⟩, fun _ hp => absurd hp List.not_mem_nil,
    List.nodup_nil, fun _ hn => absurd hn List.not_mem_nil⟩

/-- Every result reaches its caller along a run whose calls meet the condition. -/
theorem results_delivered {es : List ResultEvent} {s : Results}
    (hrun : Runs.play step {} es = some s) (hsound : Runs.Along step Sound {} es) : s.Served :=
  (Runs.play_invariant (fun _ _ _ hi hs ht => Inv.step hi hs ht) Inv.init hsound hrun).served

def overlappingCalls : List ResultEvent :=
  [.processAPI .setParams true, .processSyncEvt .snapshotDone, .processAPI .getParams true, .take,
    .signal none, .take, .resume 1, .signal none, .resume 0, .resume 0, .take, .signal (some 0),
    .resumeEvt 0]

theorem results_delivered_overlapping : ∃ s, Runs.play step {} overlappingCalls = some s ∧
    s.returned.length = 3 ∧ s.Served :=
  ⟨_, rfl, rfl, @results_delivered overlappingCalls _ rfl (by decide)⟩

/-- The result of a START_PREVIEW that nobody waited for is taken by the next one. -/
theorem stale_result_taken :
    ¬∀ (es : List ResultEvent) (s : Results), Runs.play step {} es = some s → s.Served := by
  intro h
  have hs := h [.processAPI .startPreview false, .take, .signal none, .processAPI .startPreview true,
    .take, .signal none, .resume 0] _ rfl
  have hown : (⟨1, .startPreview⟩ : Call) = ⟨0, .startPreview⟩ := hs.own (_, _) (List.mem_cons_self ..)
  exact absurd hown (by decide)

end Results

end Wt88047.QCamera
