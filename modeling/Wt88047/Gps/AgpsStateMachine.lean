import Wt88047.Gps.Subscriber

/-! The base AGPS state machine: its subscriber list, the requests it sends for the NIF and the
handlers of its four states. -/

namespace Wt88047.Agps

open Subscriber

section LinkedList

variable {α β : Type}

/-- `linked_list_search`: from the head to the first element on which `equal` answers true, which
is unlinked when `rm` is set. `equal` may act on every element it visits. -/
def linkedListSearch (equal : α → Bool × List β) (rm : Bool) :
    List α → Option α × List α × List β
  | [] => (none, [], [])
  | x :: xs =>
    if (equal x).1 then (some x, if rm then xs else x :: xs, (equal x).2)
    else
      let r := linkedListSearch equal rm xs
      (r.1, x :: r.2.1, (equal x).2 ++ r.2.2)

/-- The walk of `notifySubscribers`, searching and deleting until nothing is found. -/
def deleteMatching (equal : α → Bool × List β) : Nat → List α → List α × List β
  | 0, l => (l, [])
  | n + 1, l =>
    let r := linkedListSearch equal true l
    if r.1.isSome then
      let rest := deleteMatching equal n r.2.1
      (rest.1, r.2.2 ++ rest.2)
    else r.2

variable {equal : α → Bool × List β}

theorem linkedListSearch_none {l : List α} (h : (linkedListSearch equal true l).1 = none) :
    (linkedListSearch equal true l).2.1 = l ∧ ∀ x ∈ l, (equal x).1 = false := by
  induction l with
  | nil => simp [linkedListSearch]
  | cons x xs ih =>
    by_cases hx : (equal x).1 = true
    · simp [linkedListSearch, hx] at h
    · simp only [linkedListSearch, hx] at h ⊢
      obtain ⟨hl, hall⟩ := ih h
      refine ⟨by simp [hl], ?_⟩
      simpa [hx] using hall

theorem linkedListSearch_some {l : List α} (h : (linkedListSearch equal true l).1.isSome = true) :
    (linkedListSearch equal true l).2.1.length + 1 = l.length ∧
      (linkedListSearch equal true l).2.1.filter (fun x => !(equal x).1) =
        l.filter fun x => !(equal x).1 := by
  induction l with
  | nil => simp [linkedListSearch] at h
  | cons x xs ih =>
    by_cases hx : (equal x).1 = true
    · simp [linkedListSearch, hx]
    · simp only [linkedListSearch, hx] at h ⊢
      obtain ⟨hlen, hfilter⟩ := ih h
      refine ⟨by simpa using hlen, ?_⟩
      simp [hx, hfilter]

theorem deleteMatching_filter {n : Nat} {l : List α} (hn : l.length < n) :
    (deleteMatching equal n l).1 = l.filter fun x => !(equal x).1 := by
  induction n generalizing l with
  | zero => omega
  | succ n ih =>
    by_cases h : (linkedListSearch equal true l).1.isSome = true
    · obtain ⟨hlen, hfilter⟩ := linkedListSearch_some h
      simp only [deleteMatching, h, if_true]
      rw [ih (by omega), hfilter]
    · have hnone := Option.not_isSome_iff_eq_none.mp h
      obtain ⟨hl, hall⟩ := linkedListSearch_none hnone
      simp only [deleteMatching, h]
      rw [if_neg (by simp), hl, eq_comm, List.filter_eq_self]
      simpa using hall

end LinkedList

inductive AgpsState
  | released | pending | acquired | releasing
  deriving DecidableEq

inductive AGpsStatusValue
  | requestAgpsDataConn | releaseAgpsDataConn
  deriving DecidableEq

/-- The `AGpsExtStatus` given to the servicer. With a subscriber at hand `ipv4_addr` stays
uninitialised and the socket address gets its family only. -/
structure NifRequest where
  type : Int
  status : AGpsStatusValue
  ipv4Addr : Option UInt32
  addrIsInet6 : Bool
  ssid : CString
  password : CString
  deriving DecidableEq

inductive Output (S : Type)
  | request (r : NifRequest)
  | dataCall (action : AGpsStatusValue) (ret : Int)
  | notified (n : Notice S)
  | call (c : LocCall)
  | retryTimer

/-- What the world answers during one call: the `malloc` of `linked_list_add`, and for the data
services machine `openAndStartDataCall` and whether `loc_timer_start` returns a handle. -/
structure Outcome where
  elemOk : Bool
  startDataCall : Int
  timerOk : Bool
  deriving DecidableEq

structure AgpsStateMachine (S : Type) [Subscriber S] where
  mStatePtr : AgpsState
  /-- The head comes first. -/
  mSubscribers : List S
  nif : Nif
  mEnforceSingleSubscriber : Bool
  data : MachineData S
  /-- Oldest first. -/
  sent : List (Output S)

inductive RsrcEvent (S : Type)
  | subscribe (s : S)
  | unsubscribe (s : S)
  | granted
  | released
  | denied

variable {S : Type} [Subscriber S]

namespace AgpsStateMachine

def make (type : Int) (enforceSingleSubscriber : Bool) : AgpsStateMachine S where
  mStatePtr := .released
  mSubscribers := []
  nif := ⟨type, none, agpsApnBearerInvalid⟩
  mEnforceSingleSubscriber := enforceSingleSubscriber
  data := freshData
  sent := []

def emit (out : Output S) (m : AgpsStateMachine S) : AgpsStateMachine S :=
  { m with sent := m.sent ++ [out] }

def tell (notices : List (Notice S)) (m : AgpsStateMachine S) : AgpsStateMachine S :=
  { m with
    data := notices.foldl (fun d n => noted n.status d) m.data
    sent := m.sent ++ notices.map .notified }

def hasSubscribers (m : AgpsStateMachine S) : Bool := !m.mSubscribers.isEmpty

def setAPN (apn : Option CString) (m : AgpsStateMachine S) : AgpsStateMachine S :=
  { m with nif := { m.nif with apn := apn } }

def setBearer (bearer : Int) (m : AgpsStateMachine S) : AgpsStateMachine S :=
  { m with nif := { m.nif with bearer := bearer } }

def search (n : Notification S) (m : AgpsStateMachine S) : Option S :=
  (linkedListSearch (β := Notice S) (fun s => (forMe n s, [])) false m.mSubscribers).1

def activeSubscriber (m : AgpsStateMachine S) : Option S :=
  m.search (.toGroup .active .max false)

def hasActiveSubscribers (m : AgpsStateMachine S) : Bool := m.activeSubscriber.isSome

def dropAllSubscribers (m : AgpsStateMachine S) : AgpsStateMachine S :=
  { m with mSubscribers := [] }

def notifyOne (n : Notification S) (s : S) (m : AgpsStateMachine S) : AgpsStateMachine S :=
  m.tell (notifyRsrcStatus m.nif n s).2

def notifySubscribers (n : Notification S) (m : AgpsStateMachine S) : AgpsStateMachine S :=
  if n.postNotifyDelete then
    let r := deleteMatching (notifySubscriber m.nif n) (m.mSubscribers.length + 1) m.mSubscribers
    tell r.2 { m with mSubscribers := r.1 }
  else
    m.tell (linkedListSearch (notifySubscriber m.nif n) false m.mSubscribers).2.2

/-- Nothing is added when `linked_list_add` gets no memory for its element. -/
def addSubscriber (s : S) (o : Outcome) (m : AgpsStateMachine S) : AgpsStateMachine S :=
  if (m.search (.toOne s .max false)).isNone ∧ o.elemOk then
    { m with mSubscribers := clone s :: m.mSubscribers }
  else m

def leave (s : S) (m : AgpsStateMachine S) : AgpsStateMachine S :=
  if waitForCloseComplete S then
    { m with
      mSubscribers := m.mSubscribers.replace s (setInactive s)
      sent := m.sent ++ (setInactiveCalls s).map .call }
  else m.notifySubscribers (.toOne s .unsubscribe true)

end AgpsStateMachine

abbrev SendRsrcRequest (S : Type) [Subscriber S] :=
  AGpsStatusValue → Outcome → AgpsStateMachine S → Int × AgpsStateMachine S

open AgpsStateMachine

section States

variable (send : SendRsrcRequest S) (o : Outcome) (m : AgpsStateMachine S)

def AgpsReleasedState.onRsrcEvent : RsrcEvent S → AgpsState × AgpsStateMachine S
  | .subscribe s =>
    let r := send .requestAgpsDataConn o (m.addSubscriber s o)
    (if r.1 = 0 then .pending else .released, r.2)
  | .unsubscribe s => (.released, m.notifyOne (.toOne s .unsubscribe false) s)
  | .granted | .released | .denied => (.released, m)

def AgpsPendingState.onRsrcEvent : RsrcEvent S → AgpsState × AgpsStateMachine S
  | .subscribe s => (.pending, m.addSubscriber s o)
  | .unsubscribe s =>
    let m := m.leave s
    if !m.hasSubscribers then (.released, (send .releaseAgpsDataConn o m).2)
    else if !m.hasActiveSubscribers then (.releasing, (send .releaseAgpsDataConn o m).2)
    else (.pending, m)
  | .granted => (.acquired, m.notifySubscribers (.toGroup .active .granted false))
  | .released => (.pending, m)
  | .denied => (.released, m.notifySubscribers (.toGroup .all .denied true))

def AgpsAcquiredState.onRsrcEvent : RsrcEvent S → AgpsState × AgpsStateMachine S
  | .subscribe s => (.acquired, (m.notifyOne (.toOne s .granted false) s).addSubscriber s o)
  | .unsubscribe s =>
    let m := m.leave s
    if !m.hasSubscribers then (.released, (send .releaseAgpsDataConn o m).2)
    else if !m.hasActiveSubscribers then (.releasing, (send .releaseAgpsDataConn o m).2)
    else (.acquired, m)
  | .granted => (.acquired, m)
  | .released => (.released, m.notifySubscribers (.toGroup .all .released true))
  | .denied => (.acquired, m)

def AgpsReleasingState.closed (status : AgpsRsrcStatus) : AgpsState × AgpsStateMachine S :=
  let m := m.notifySubscribers (.toGroup .inactive status true)
  if m.hasActiveSubscribers then (.pending, (send .requestAgpsDataConn o m).2)
  else (.released, m)

def AgpsReleasingState.onRsrcEvent : RsrcEvent S → AgpsState × AgpsStateMachine S
  | .subscribe s => (.releasing, m.addSubscriber s o)
  | .unsubscribe s =>
    let m := m.leave s
    (if !m.hasSubscribers then .released else .releasing, m)
  | .denied => closed send o m .denied
  | .released => closed send o m .released
  | .granted => (.releasing, m)

end States

namespace AgpsStateMachine

def dispatch (send : SendRsrcRequest S) (e : RsrcEvent S) (o : Outcome)
    (m : AgpsStateMachine S) : AgpsStateMachine S :=
  let r := match m.mStatePtr with
    | .released => AgpsReleasedState.onRsrcEvent send o m e
    | .pending => AgpsPendingState.onRsrcEvent send o m e
    | .acquired => AgpsAcquiredState.onRsrcEvent send o m e
    | .releasing => AgpsReleasingState.onRsrcEvent send o m e
  { r.2 with mStatePtr := r.1 }

def subscribeRsrc (send : SendRsrcRequest S) (s : S) (o : Outcome) (m : AgpsStateMachine S) :
    AgpsStateMachine S :=
  if m.mEnforceSingleSubscriber && m.hasSubscribers then
    m.notifyOne (.toGroup .all .denied true) s
  else m.dispatch send (.subscribe s) o

def unsubscribeRsrc (send : SendRsrcRequest S) (s : S) (o : Outcome) (m : AgpsStateMachine S) :
    Bool × AgpsStateMachine S :=
  match m.search (.toOne s .max false) with
  | some found => (true, m.dispatch send (.unsubscribe found) o)
  | none => (false, m)

def sendRsrcRequest : SendRsrcRequest S := fun action _ m =>
  if m.activeSubscriber.isNone = (action == .releaseAgpsDataConn) then
    let nifRequest : NifRequest := match m.activeSubscriber with
      | none => ⟨m.nif.type, action, some BITSubscriber.inaddrNone, false, [], []⟩
      | some s => ⟨m.nif.type, action, none, true, (wifiInfo s).1, (wifiInfo s).2⟩
    (0, m.emit (.request nifRequest))
  else (0, m)

def onRsrcEvent (e : AgpsRsrcStatus) (o : Outcome) (m : AgpsStateMachine S) :
    AgpsStateMachine S :=
  match e with
  | .granted => m.dispatch sendRsrcRequest .granted o
  | .released => m.dispatch sendRsrcRequest .released o
  | .denied => m.dispatch sendRsrcRequest .denied o
  | .subscribe | .unsubscribe | .max => m

end AgpsStateMachine

inductive Request (S : Type)
  | subscribeRsrc (s : S) (o : Outcome)
  | unsubscribeRsrc (s : S) (o : Outcome)
  | onRsrcEvent (e : AgpsRsrcStatus) (o : Outcome)
  | setAPN (apn : Option CString)
  | setBearer (bearer : Int)

namespace AgpsStateMachine

def step (m : AgpsStateMachine S) : Request S → AgpsStateMachine S
  | .subscribeRsrc s o => m.subscribeRsrc sendRsrcRequest s o
  | .unsubscribeRsrc s o => (m.unsubscribeRsrc sendRsrcRequest s o).2
  | .onRsrcEvent e o => m.onRsrcEvent e o
  | .setAPN apn => m.setAPN apn
  | .setBearer bearer => m.setBearer bearer

def run (m : AgpsStateMachine S) (rs : List (Request S)) : AgpsStateMachine S := rs.foldl step m

end AgpsStateMachine

end Wt88047.Agps
