import Mathlib.Algebra.Order.Ring.Nat

/-! The clients of the AGPS state machines: the notifications they receive, the three kinds of
subscriber that share the base machine, and the one of the data services machine. -/

namespace Wt88047.Agps

inductive AgpsRsrcStatus
  | subscribe | unsubscribe | granted | released | denied | max
  deriving DecidableEq

inductive SenderId
  | quipc | msapm | msapu | gpsoneDaemon | modem
  deriving DecidableEq

inductive IfResult
  | requestSuccess | releaseSuccess | failure
  deriving DecidableEq

abbrev CString := List UInt8

/-- The NIF of a machine, as ATL subscribers report it: `getType`, `getAPN` and `getBearer`. -/
structure Nif where
  type : Int
  apn : Option CString
  bearer : Int
  deriving DecidableEq

def agpsTypeInvalid : Int := -1

def agpsTypeSupl : Int := 1

def agpsApnBearerInvalid : Int := -1

inductive LocCall
  | dataConn (sender : SenderId) (result : IfResult)
  | atlOpenStatus (handle : UInt32) (isSuccess : Bool) (nif : Nif)
  | atlCloseStatus (handle : UInt32) (isSuccess : Bool)
  | closeDataCall
  | requestATL (connHandle : UInt32) (agpsType : Int)
  | requestSuplES (connHandle : UInt32)
  deriving DecidableEq

inductive Broadcast
  | all | active | inactive
  deriving DecidableEq

/-- `groupID` is -1, here `none`, when the notification names its receiver. -/
structure Notification (S : Type) where
  rcver : Option S
  groupID : Option Broadcast
  rsrcStatus : AgpsRsrcStatus
  postNotifyDelete : Bool

def Notification.toGroup {S : Type} (group : Broadcast) (status : AgpsRsrcStatus)
    (deleteAfterwards : Bool) : Notification S :=
  ⟨none, some group, status, deleteAfterwards⟩

def Notification.toOne {S : Type} (s : S) (status : AgpsRsrcStatus)
    (deleteAfterwards : Bool) : Notification S :=
  ⟨some s, none, status, deleteAfterwards⟩

variable {status : AgpsRsrcStatus} {del : Bool}

@[simp] theorem toOne_rsrcStatus {S : Type} {s : S} :
    (Notification.toOne s status del).rsrcStatus = status := rfl

@[simp] theorem toGroup_rsrcStatus {S : Type} {group : Broadcast} :
    (Notification.toGroup group status del : Notification S).rsrcStatus = status := rfl

/-- The virtual methods of `Subscriber`. `waitForCloseComplete` is a constant of each kind, and
`rsrcStatusCalls` is the switch of `notifyRsrcStatus`, `none` being its default branch. A kind may
come with a machine class of its own, whose members are `MachineData`. -/
class Subscriber (S : Type) extends BEq S, LawfulBEq S where
  MachineData : Type
  freshData : MachineData
  equals : S → S → Bool
  waitForCloseComplete : Bool
  setInactive : S → S
  setInactiveCalls : S → List LocCall
  isInactive : S → Bool
  clone : S → S
  wifiInfo : S → CString × CString
  rsrcStatusCalls : Nif → S → AgpsRsrcStatus → Option (List LocCall)
  noted : AgpsRsrcStatus → MachineData → MachineData
  equals_self : ∀ s, equals s s = true
  equals_clone : ∀ s, equals (clone s) s = true
  calls_clone : ∀ nif s status, rsrcStatusCalls nif (clone s) status = rsrcStatusCalls nif s status
  isInactive_clone : ∀ s, isInactive (clone s) = false
  isInactive_setInactive : waitForCloseComplete = true → ∀ s, isInactive (setInactive s) = true
  wait_of_isInactive : ∀ s, isInactive s = true → waitForCloseComplete = true
  handled : ∀ nif s status, status ≠ .subscribe → status ≠ .max →
    (rsrcStatusCalls nif s status).isSome = true

attribute [simp] Subscriber.isInactive_clone Subscriber.equals_self Subscriber.equals_clone

structure BITSubscriber where
  ID : UInt32
  mIPv6Addr : Vector UInt8 16
  deriving DecidableEq

namespace BITSubscriber

def inaddrNone : UInt32 := 0xFFFFFFFF

def sameText (a b : Vector UInt8 16) : Bool :=
  a.toList.takeWhile (· != 0) == b.toList.takeWhile (· != 0)

def equals (a b : BITSubscriber) : Bool :=
  a.ID == b.ID && (a.ID != inaddrNone || sameText a.mIPv6Addr b.mIPv6Addr)

def rsrcStatusCalls (_ : Nif) (_ : BITSubscriber) : AgpsRsrcStatus → Option (List LocCall)
  | .unsubscribe | .released => some [.dataConn .gpsoneDaemon .releaseSuccess]
  | .denied => some [.dataConn .gpsoneDaemon .failure]
  | .granted => some [.dataConn .gpsoneDaemon .requestSuccess]
  | .subscribe | .max => none

instance : Subscriber BITSubscriber where
  MachineData := Unit
  freshData := ()
  equals := equals
  waitForCloseComplete := false
  setInactive s := s
  setInactiveCalls _ := []
  isInactive _ := false
  clone s := s
  wifiInfo _ := ([], [])
  rsrcStatusCalls := rsrcStatusCalls
  noted _ d := d
  equals_self s := by simp [equals, sameText]
  equals_clone s := by simp [equals, sameText]
  calls_clone _ _ status := by cases status <;> rfl
  isInactive_clone _ := rfl
  isInactive_setInactive h := by contradiction
  wait_of_isInactive _ h := by contradiction
  handled _ _ status hs hm := by cases status <;> first | rfl | contradiction

end BITSubscriber

structure ATLSubscriber where
  ID : UInt32
  mBackwardCompatibleMode : Bool
  deriving DecidableEq

namespace ATLSubscriber

def rsrcStatusCalls (nif : Nif) (s : ATLSubscriber) : AgpsRsrcStatus → Option (List LocCall)
  | .unsubscribe | .released => some [.atlCloseStatus s.ID true]
  | .denied => some [.atlOpenStatus s.ID false (told nif s)]
  | .granted => some [.atlOpenStatus s.ID true (told nif s)]
  | .subscribe | .max => none
where
  told (nif : Nif) (s : ATLSubscriber) : Nif :=
    if s.mBackwardCompatibleMode then { nif with type := agpsTypeInvalid } else nif

instance : Subscriber ATLSubscriber where
  MachineData := Unit
  freshData := ()
  equals a b := a.ID == b.ID
  waitForCloseComplete := false
  setInactive s := s
  setInactiveCalls _ := []
  isInactive _ := false
  clone s := s
  wifiInfo _ := ([], [])
  rsrcStatusCalls := rsrcStatusCalls
  noted _ d := d
  equals_self s := beq_self_eq_true s.ID
  equals_clone s := beq_self_eq_true s.ID
  calls_clone _ _ status := by cases status <;> rfl
  isInactive_clone _ := rfl
  isInactive_setInactive h := by contradiction
  wait_of_isInactive _ h := by contradiction
  handled _ _ status hs hm := by cases status <;> first | rfl | contradiction

end ATLSubscriber

/-- Its `ID` is the sender id. -/
structure WIFISubscriber where
  senderId : SenderId
  mSSID : Option CString
  mPassword : Option CString
  mIsInactive : Bool
  deriving DecidableEq

namespace WIFISubscriber

def ssidBufSize : Nat := 32 + 1

def strlcpy (s : CString) : CString := s.take (ssidBufSize - 1)

def make (ssid password : Option CString) (senderId : SenderId) : WIFISubscriber :=
  ⟨senderId, ssid.map strlcpy, password.map strlcpy, false⟩

def rsrcStatusCalls (_ : Nif) (s : WIFISubscriber) : AgpsRsrcStatus → Option (List LocCall)
  | .unsubscribe => some []
  | .released => some [.dataConn s.senderId .releaseSuccess]
  | .denied => some [.dataConn s.senderId .failure]
  | .granted => some [.dataConn s.senderId .requestSuccess]
  | .subscribe | .max => none

instance : Subscriber WIFISubscriber where
  MachineData := Unit
  freshData := ()
  equals a b := a.senderId == b.senderId
  waitForCloseComplete := true
  setInactive s := { s with mIsInactive := true }
  setInactiveCalls _ := []
  isInactive s := s.mIsInactive
  clone s := make s.mSSID s.mPassword s.senderId
  wifiInfo s := (s.mSSID.getD [], s.mPassword.getD [])
  rsrcStatusCalls := rsrcStatusCalls
  noted _ d := d
  equals_self s := beq_self_eq_true s.senderId
  equals_clone s := beq_self_eq_true s.senderId
  calls_clone _ _ status := by cases status <;> rfl
  isInactive_clone _ := rfl
  isInactive_setInactive _ _ := rfl
  wait_of_isInactive _ _ := rfl
  handled _ _ status hs hm := by cases status <;> first | rfl | contradiction

end WIFISubscriber

structure DSSubscriber where
  ID : UInt32
  mIsInactive : Bool
  deriving DecidableEq

/-- What `DSStateMachine` adds: the count of failed starts, and how many retry timers run. -/
structure DSData where
  mRetries : UInt8
  timers : Nat
  deriving DecidableEq

def informStatusCalls (ID : UInt32) : AgpsRsrcStatus → Option (List LocCall)
  | .unsubscribe => some [.atlCloseStatus ID true]
  | .released => some [.closeDataCall]
  | .denied => some [.requestATL ID agpsTypeSupl]
  | .granted => some [.atlOpenStatus ID true ⟨agpsTypeInvalid, none, agpsApnBearerInvalid⟩]
  | .subscribe | .max => none

def informStatusData : AgpsRsrcStatus → DSData → DSData
  | .denied, d => { d with mRetries := 0 }
  | _, d => d

instance : Subscriber DSSubscriber where
  MachineData := DSData
  freshData := ⟨0, 0⟩
  equals a b := a.ID == b.ID
  waitForCloseComplete := true
  setInactive s := { s with mIsInactive := true }
  setInactiveCalls s := (informStatusCalls s.ID .unsubscribe).getD []
  isInactive s := s.mIsInactive
  clone s := ⟨s.ID, false⟩
  wifiInfo _ := ([], [])
  rsrcStatusCalls _ s := informStatusCalls s.ID
  noted := informStatusData
  equals_self s := beq_self_eq_true s.ID
  equals_clone s := beq_self_eq_true s.ID
  calls_clone _ _ status := by cases status <;> rfl
  isInactive_clone _ := rfl
  isInactive_setInactive _ _ := rfl
  wait_of_isInactive _ _ := rfl
  handled _ _ status hs hm := by cases status <;> first | rfl | contradiction

variable {S : Type} [Subscriber S]

open Subscriber

def forMe (n : Notification S) (s : S) : Bool :=
  match n.rcver with
  | some r => equals s r
  | none => match n.groupID with
    | some .all => true
    | some .active => !isInactive s
    | some .inactive => isInactive s
    | none => false

structure Notice (S : Type) where
  rcver : S
  status : AgpsRsrcStatus
  calls : List LocCall

def notifyRsrcStatus (nif : Nif) (n : Notification S) (s : S) : Bool × List (Notice S) :=
  if forMe n s then
    match rsrcStatusCalls nif s n.rsrcStatus with
    | some calls => (true, [⟨s, n.rsrcStatus, calls⟩])
    | none => (false, [])
  else (false, [])

def notifySubscriber (nif : Nif) (n : Notification S) (s : S) : Bool × List (Notice S) :=
  let r := notifyRsrcStatus nif n s
  (r.1 && n.postNotifyDelete, r.2)

@[simp] theorem forMe_toOne {s r : S} : forMe (.toOne r status del) s = equals s r := rfl

@[simp] theorem forMe_all {s : S} : forMe (.toGroup .all status del) s = true := rfl

@[simp] theorem forMe_active {s : S} : forMe (.toGroup .active status del) s = !isInactive s := rfl

@[simp] theorem forMe_inactive {s : S} :
    forMe (.toGroup .inactive status del) s = isInactive s := rfl

theorem notifySubscriber_delete (nif : Nif) {n : Notification S} (hd : n.postNotifyDelete = true)
    (hs : n.rsrcStatus ≠ .subscribe) (hm : n.rsrcStatus ≠ .max) (s : S) :
    (notifySubscriber nif n s).1 = forMe n s := by
  obtain ⟨calls, hc⟩ := Option.isSome_iff_exists.mp (handled nif s n.rsrcStatus hs hm)
  by_cases h : forMe n s = true
  · simp [notifySubscriber, notifyRsrcStatus, h, hc, hd]
  · simp [notifySubscriber, notifyRsrcStatus, h]

end Wt88047.Agps
