import Wt88047.Gps.AgpsSubscribers

/-! The machine of the data services client, which overrides how the NIF is requested and how
resource events are read. -/

namespace Wt88047.Agps

open Subscriber

abbrev DSStateMachine := AgpsStateMachine DSSubscriber

namespace DSStateMachine

open AgpsStateMachine

def maxStartDataCallRetries : UInt8 := 4

def errSuccess : Int := 0

def errUnsupported : Int := 2

def errEngineBusy : Int := 6

def make : DSStateMachine := AgpsStateMachine.make agpsTypeInvalid false

def mRetries (m : DSStateMachine) : UInt8 := DSData.mRetries m.data

def timers (m : DSStateMachine) : Nat := DSData.timers m.data

def setData (d : DSData) (m : DSStateMachine) : DSStateMachine := { m with data := d }

def informStatus (status : AgpsRsrcStatus) (ID : UInt32) (m : DSStateMachine) : DSStateMachine :=
  { m with
    data := informStatusData status m.data
    sent := m.sent ++ ((informStatusCalls ID status).getD []).map .call }

def dataCallCb (action : AGpsStatusValue) (o : Outcome) : Int :=
  match action with
  | .requestAgpsDataConn => o.startDataCall
  | .releaseAgpsDataConn => errSuccess

/-- The handle of no connection is -1. `loc_timer_start` answers with a handle, so the branch that
reports its failure is the one of a running timer. -/
def sendRsrcRequest : SendRsrcRequest DSSubscriber := fun action o m =>
  let connHandle := (m.activeSubscriber.map DSSubscriber.ID).getD (-1)
  let ret := dataCallCb action o
  let m := m.emit (.dataCall action ret)
  if ret = errEngineBusy then
    let m := setData ⟨mRetries m + 1, timers m⟩ m
    if mRetries m > maxStartDataCallRetries then (ret, informStatus .denied connHandle m)
    else if o.timerOk then (-1, (setData ⟨mRetries m, timers m + 1⟩ m).emit .retryTimer)
    else (ret, m)
  else if ret = errUnsupported ∨ ret = -1 then (ret, informStatus .denied connHandle m)
  else (ret, m)

inductive Ends (ret : Int) (connHandle : UInt32) (d : DSData) :
    DSData → List (Output DSSubscriber) → Int → Prop
  | exhausted : ret = errEngineBusy → d.mRetries + 1 > maxStartDataCallRetries →
      Ends ret connHandle d ⟨0, d.timers⟩ [.call (.requestATL connHandle agpsTypeSupl)] ret
  | retried : ret = errEngineBusy → ¬ d.mRetries + 1 > maxStartDataCallRetries →
      Ends ret connHandle d ⟨d.mRetries + 1, d.timers + 1⟩ [.retryTimer] (-1)
  | unarmed : ret = errEngineBusy → ¬ d.mRetries + 1 > maxStartDataCallRetries →
      Ends ret connHandle d ⟨d.mRetries + 1, d.timers⟩ [] ret
  | refused : ret = errUnsupported ∨ ret = -1 →
      Ends ret connHandle d ⟨0, d.timers⟩ [.call (.requestATL connHandle agpsTypeSupl)] ret
  | taken : ret ≠ errEngineBusy → ret ≠ errUnsupported → ret ≠ -1 → Ends ret connHandle d d [] ret

def afterCall (ret : Int) (timerOk : Bool) (connHandle : UInt32) (d : DSData) :
    Int × DSData × List (Output DSSubscriber) :=
  if ret = errEngineBusy then
    if d.mRetries + 1 > maxStartDataCallRetries then
      (ret, ⟨0, d.timers⟩, [.call (.requestATL connHandle agpsTypeSupl)])
    else if timerOk then (-1, ⟨d.mRetries + 1, d.timers + 1⟩, [.retryTimer])
    else (ret, ⟨d.mRetries + 1, d.timers⟩, [])
  else if ret = errUnsupported ∨ ret = -1 then
    (ret, ⟨0, d.timers⟩, [.call (.requestATL connHandle agpsTypeSupl)])
  else (ret, d, [])

theorem sendRsrcRequest_eq (action : AGpsStatusValue) (o : Outcome) (m : DSStateMachine) :
    let a := afterCall (dataCallCb action o) o.timerOk
      ((m.activeSubscriber.map DSSubscriber.ID).getD (-1)) m.data
    sendRsrcRequest action o m = (a.1, { m with
      data := a.2.1
      sent := m.sent ++ .dataCall action (dataCallCb action o) :: a.2.2 }) := by
  by_cases hbusy : dataCallCb action o = errEngineBusy
  · by_cases hmax : DSData.mRetries m.data + 1 > maxStartDataCallRetries
    · simp [sendRsrcRequest, afterCall, hbusy, setData, mRetries, emit, hmax, informStatus,
        informStatusCalls, informStatusData, timers]
    · by_cases htimer : o.timerOk = true
      · simp [sendRsrcRequest, afterCall, hbusy, setData, mRetries, emit, hmax, htimer, timers]
      · simp [sendRsrcRequest, afterCall, hbusy, setData, mRetries, emit, hmax, htimer, timers]
  · by_cases hfail : dataCallCb action o = errUnsupported ∨ dataCallCb action o = -1
    · simp [sendRsrcRequest, afterCall, hbusy, hfail, emit, informStatus, informStatusCalls,
        informStatusData]
    · simp [sendRsrcRequest, afterCall, hbusy, hfail, emit]

theorem afterCall_ends (ret : Int) (timerOk : Bool) (connHandle : UInt32) (d : DSData) :
    let a := afterCall ret timerOk connHandle d
    Ends ret connHandle d a.2.1 a.2.2 a.1 := by
  unfold afterCall
  split_ifs with hbusy hmax htimer hfail
  · exact .exhausted hbusy hmax
  · exact .retried hbusy hmax
  · exact .unarmed hbusy hmax
  · exact .refused hfail
  · exact .taken hbusy (fun h => hfail (Or.inl h)) (fun h => hfail (Or.inr h))

theorem sendRsrcRequest_ends (action : AGpsStatusValue) (o : Outcome) (m : DSStateMachine) :
    ∃ d out ret, sendRsrcRequest action o m =
        (ret, { m with data := d, sent := m.sent ++ .dataCall action (dataCallCb action o) :: out }) ∧
      Ends (dataCallCb action o) ((m.activeSubscriber.map DSSubscriber.ID).getD (-1)) m.data
        d out ret :=
  ⟨_, _, _, sendRsrcRequest_eq action o m, afterCall_ends ..⟩

theorem afterCall_congr (ret : Int) (timerOk : Bool) (connHandle : UInt32) {d d' : DSData}
    (h : d'.mRetries = d.mRetries) :
    let a := afterCall ret timerOk connHandle d
    let b := afterCall ret timerOk connHandle d'
    b.1 = a.1 ∧ b.2.1.mRetries = a.2.1.mRetries ∧ b.2.2 = a.2.2 := by
  unfold afterCall
  rw [h]
  split_ifs <;> simp [h]

def onRsrcEvent (e : AgpsRsrcStatus) (o : Outcome) (m : DSStateMachine) : DSStateMachine :=
  match e with
  | .granted => m.dispatch sendRsrcRequest .granted o
  | .released =>
    let t := m.dispatch sendRsrcRequest .released o
    if t.mStatePtr ≠ m.mStatePtr then t else t.dispatch sendRsrcRequest .denied o
  | .denied => m.dispatch sendRsrcRequest .denied o
  | .subscribe | .unsubscribe | .max => m

def retryCallback (m : DSStateMachine) : DSStateMachine :=
  if timers m = 0 then m
  else
    let m := setData ⟨mRetries m, timers m - 1⟩ m
    match m.activeSubscriber with
    | some s => m.emit (.call (.requestSuplES s.ID))
    | none => m

end DSStateMachine

inductive DSRequest
  | call (r : Request DSSubscriber)
  | retryCallback

namespace DSStateMachine

def stepCall (m : DSStateMachine) : Request DSSubscriber → DSStateMachine
  | .subscribeRsrc s o => m.subscribeRsrc sendRsrcRequest s o
  | .unsubscribeRsrc s o => (m.unsubscribeRsrc sendRsrcRequest s o).2
  | .onRsrcEvent e o => onRsrcEvent e o m
  | .setAPN apn => m.setAPN apn
  | .setBearer bearer => m.setBearer bearer

def step (m : DSStateMachine) : DSRequest → DSStateMachine
  | .call r => stepCall m r
  | .retryCallback => retryCallback m

def run (m : DSStateMachine) (rs : List DSRequest) : DSStateMachine := rs.foldl step m

end DSStateMachine

end Wt88047.Agps
