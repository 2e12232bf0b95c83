import Wt88047.Lib.Runs
import Mathlib.Logic.Function.Basic

/-! Network initiated location requests: the two session records, the message thread that fills
and resets them, the calls that bring the user's response, and a thread for each request. Sections
under the mutex of a record are one step, every other access to a record is a step of its own. -/

namespace Wt88047.Ni

/-- With `GPS_NI_RESPONSE_IGNORE`, which only this file uses. -/
inductive GpsUserResponseType
  | accept | deny | noresp | ignore
  deriving DecidableEq

inductive SessionKind
  | session | sessionEs
  deriving DecidableEq

/-- `loc_eng_ni_session_s_type`. A payload goes by the number of its request, and `resp` is `none`
before the first response. -/
structure Session where
  respTimeLeft : Int
  respRecvd : Bool
  rawRequest : Option Nat
  reqID : Int
  resp : Option GpsUserResponseType
  deriving DecidableEq

/-- `LocEngInformNiResponse`, which frees its payload when it is done. -/
structure InformNiResponse where
  mResponse : Option GpsUserResponseType
  mPayload : Nat
  deriving DecidableEq

inductive ThreadStage
  | created
  | waiting (expireTime : Int)
  | clearTime (msg : Option InformNiResponse)
  | clearId (msg : Option InformNiResponse)
  | sendMsg (msg : Option InformNiResponse)
  | ended
  deriving DecidableEq

structure NiThread where
  pSession : SessionKind
  stage : ThreadStage
  deriving DecidableEq

inductive HandlerStage
  | idle
  | store (n : Nat) (k : SessionKind) (timeout : Int) (rawRequest : Option Nat)
  | number (n : Nat) (k : SessionKind) (timeout : Int)
  | fill (n : Nat) (k : SessionKind) (timeout : Int)
  | setTime (n : Nat) (k : SessionKind) (timeout : Int) (notificationId : Int)
  | create (n : Nat) (k : SessionKind) (notificationId : Int)
  | notify (n : Nat) (notificationId : Int)
  | resetCheck (k : SessionKind)
  | resetFree (k : SessionKind)
  | resetNull (k : SessionKind)
  | resetMark (k : SessionKind)
  deriving DecidableEq

inductive RespondStage
  | readEsId
  | readEsRequest
  /-- The emergency session is accepted; is there another one to ignore? -/
  | readIgnored
  | ignore
  | readId
  | readRequest
  | write (k : SessionKind)
  deriving DecidableEq

structure RespondCall where
  notifId : Int
  userResponse : GpsUserResponseType
  stage : RespondStage
  deriving DecidableEq

def ThreadStage.looping : ThreadStage → Bool
  | .created | .waiting _ => true
  | .clearTime _ | .clearId _ | .sendMsg _ | .ended => false

def HandlerStage.creates : HandlerStage → Option (Nat × SessionKind)
  | .store n k .. | .number n k _ | .fill n k _ | .setTime n k .. | .create n k _ => some (n, k)
  | .idle | .notify .. | .resetCheck _ | .resetFree _ | .resetNull _ | .resetMark _ => none

inductive Record
  | stored (n : Nat) (k : SessionKind) (timeout : Int) (rawRequest : Option Nat)
  | rejected (n : Nat) (rawRequest : Option Nat)
  | numbered (n : Nat) (id : Int)
  | notified (n : Nat) (id : Int)
  | responded (id : Int) (userResponse : GpsUserResponseType)
  | started (n : Nat) (time : Int)
  /-- Thread `n` leaves its waiting loop. -/
  | left (n : Nat) (timedOut : Bool) (time : Int)
  | informed (n : Nat) (msg : InformNiResponse)
  | sent (n : Nat) (msg : InformNiResponse)
  /-- By thread `n`, or by the message thread. -/
  | freed (payload : Nat) (thread : Option Nat)
  deriving DecidableEq

structure State where
  now : Int
  ni : SessionKind → Session
  reqIDCounter : Int
  requests : Nat
  handler : HandlerStage
  /-- The calls of `loc_eng_ni_respond` that have not returned. -/
  call : Nat → Option RespondCall
  calls : Nat
  thread : Nat → Option NiThread
  log : List Record

namespace State

def init (now : Int) : State where
  now := now
  ni _ := ⟨0, false, none, 0, none⟩
  reqIDCounter := 0
  requests := 0
  handler := .idle
  call _ := none
  calls := 0
  thread _ := none
  log := []

def note (r : Record) (s : State) : State := { s with log := s.log ++ [r] }

def setSession (k : SessionKind) (x : Session) (s : State) : State :=
  { s with ni := Function.update s.ni k x }

def setThread (n : Nat) (t : NiThread) (s : State) : State :=
  { s with thread := Function.update s.thread n (some t) }

def setCall (i : Nat) (c : Option RespondCall) (s : State) : State :=
  { s with call := Function.update s.call i c }

section Frames

variable {s : State}

@[simp] theorem setSession_same (k : SessionKind) (x : Session) :
    (s.setSession k x).ni k = x := Function.update_self ..

theorem setSession_ne {k k' : SessionKind} (x : Session) (h : k' ≠ k) :
    (s.setSession k x).ni k' = s.ni k' := Function.update_of_ne h ..

@[simp] theorem setThread_same (n : Nat) (t : NiThread) :
    (s.setThread n t).thread n = some t := Function.update_self ..

theorem setThread_ne {n m : Nat} (t : NiThread) (h : m ≠ n) :
    (s.setThread n t).thread m = s.thread m := Function.update_of_ne h ..

@[simp] theorem setCall_same (i : Nat) (c : Option RespondCall) :
    (s.setCall i c).call i = c := Function.update_self ..

theorem setCall_ne {i j : Nat} (c : Option RespondCall) (h : j ≠ i) :
    (s.setCall i c).call j = s.call j := Function.update_of_ne h ..

theorem setSession_keeps {α : Type} (f : Session → α) {k : SessionKind} {x : Session}
    (h : f x = f (s.ni k)) (k' : SessionKind) : f ((s.setSession k x).ni k') = f (s.ni k') := by
  by_cases hk : k' = k
  · subst hk
    rw [setSession_same, h]
  · rw [setSession_ne x hk]

end Frames

def noResponseTime : Int := 20

def respTime (timeout : Int) : Int := 5 + if timeout ≠ 0 then timeout else noResponseTime

def kindOf (isEs : Bool) : SessionKind := if isEs then .sessionEs else .session

def busy (isEs : Bool) (s : State) : Bool :=
  if isEs then (s.ni .sessionEs).rawRequest.isSome
  else (s.ni .session).rawRequest.isSome || (s.ni .sessionEs).rawRequest.isSome

/-- `loc_eng_ni_request_handler`, up to the choice of the record. A request without payload stores
NULL. -/
def request (isEs : Bool) (timeout : Int) (passThrough : Bool) (s : State) : Option State :=
  if s.handler = .idle then
    let n := s.requests
    let s := { s with requests := n + 1 }
    let rawRequest := if passThrough then some n else none
    if s.busy isEs then
      let s := s.note (.rejected n rawRequest)
      some (if passThrough then s.note (.freed n none) else s)
    else
      let k := kindOf isEs
      some ({ s with handler := .store n k timeout rawRequest }.note
        (.stored n k timeout rawRequest))
  else none

/-- `loc_eng_ni_reset_on_engine_restart` -/
def reset (s : State) : Option State :=
  if s.handler = .idle then some { s with handler := .resetCheck .sessionEs } else none

def resetNext : SessionKind → HandlerStage
  | .sessionEs => .resetCheck .session
  | .session => .idle

/-- The next access of the message thread; `createOk` is the outcome of `pthread_create`. -/
def runHandler (createOk : Bool) (s : State) : Option State :=
  match s.handler with
  | .idle => none
  | .store n k timeout rawRequest =>
    some { s.setSession k { s.ni k with rawRequest := rawRequest } with
      handler := .number n k timeout }
  | .number n k timeout =>
    let id := s.reqIDCounter + 1
    some ({ s.setSession k { s.ni k with reqID := id } with
      reqIDCounter := id
      handler := .fill n k timeout }.note (.numbered n id))
  | .fill n k timeout => some { s with handler := .setTime n k timeout (s.ni k).reqID }
  | .setTime n k timeout id =>
    some { s.setSession k { s.ni k with respTimeLeft := respTime timeout } with
      handler := .create n k id }
  | .create n k id =>
    let s := if createOk then s.setThread n ⟨k, .created⟩ else s
    some { s with handler := .notify n id }
  | .notify n id => some ({ s with handler := .idle }.note (.notified n id))
  | .resetCheck k =>
    some { s with
      handler := if (s.ni k).rawRequest.isSome then .resetFree k else resetNext k }
  | .resetFree k =>
    let s := match (s.ni k).rawRequest with
      | some p => s.note (.freed p none)
      | none => s
    some { s with handler := .resetNull k }
  | .resetNull k =>
    some { s.setSession k { s.ni k with rawRequest := none } with handler := .resetMark k }
  | .resetMark k =>
    some { s.setSession k { s.ni k with respRecvd := true } with handler := resetNext k }

def respond (notifId : Int) (userResponse : GpsUserResponseType) (s : State) : State :=
  { s.setCall s.calls (some ⟨notifId, userResponse, .readEsId⟩) with
    calls := s.calls + 1 }.note (.responded notifId userResponse)

def runRespond (i : Nat) (s : State) : Option State :=
  match s.call i with
  | none => none
  | some c =>
    let goto := fun stage => some (s.setCall i (some { c with stage := stage }))
    match c.stage with
    | .readEsId =>
      if c.notifId = (s.ni .sessionEs).reqID then goto .readEsRequest else goto .readId
    | .readEsRequest =>
      if (s.ni .sessionEs).rawRequest.isSome then
        if c.userResponse = .accept then goto .readIgnored else goto (.write .sessionEs)
      else goto .readId
    | .readIgnored =>
      if (s.ni .session).rawRequest.isSome then goto .ignore else goto (.write .sessionEs)
    | .ignore =>
      some ((s.setSession .session { s.ni .session with resp := some .ignore, respRecvd := true })
        |>.setCall i (some { c with stage := .write .sessionEs }))
    | .readId =>
      if c.notifId = (s.ni .session).reqID then goto .readRequest else some (s.setCall i none)
    | .readRequest =>
      if (s.ni .session).rawRequest.isSome then goto (.write .session)
      else some (s.setCall i none)
    | .write k =>
      some ((s.setSession k { s.ni k with resp := some c.userResponse, respRecvd := true })
        |>.setCall i none)

def leave (n : Nat) (k : SessionKind) (timedOut : Bool) (s : State) : State :=
  let x := s.ni k
  let s := s.note (.left n timedOut s.now)
  let r : Option InformNiResponse × State := match x.rawRequest with
    | some p =>
      if x.resp ≠ some .ignore then (some ⟨x.resp, p⟩, s.note (.informed n ⟨x.resp, p⟩))
      else (none, s.note (.freed p (some n)))
    | none => (none, s)
  (r.2.setSession k { x with respRecvd := false, rawRequest := none }).setThread n
    ⟨k, .clearTime r.1⟩

/-- The next step of the thread of request `n`, which may wake up at any time. -/
def runThread (n : Nat) (s : State) : Option State :=
  match s.thread n with
  | none => none
  | some t =>
    let k := t.pSession
    match t.stage with
    | .created =>
      let s := s.note (.started n s.now)
      some (if (s.ni k).respRecvd then s.leave n k false
        else s.setThread n ⟨k, .waiting (s.now + (s.ni k).respTimeLeft)⟩)
    | .waiting _ => some (if (s.ni k).respRecvd then s.leave n k false else s)
    | .clearTime msg =>
      some ((s.setSession k { s.ni k with respTimeLeft := 0 }).setThread n ⟨k, .clearId msg⟩)
    | .clearId msg =>
      some ((s.setSession k { s.ni k with reqID := 0 }).setThread n ⟨k, .sendMsg msg⟩)
    | .sendMsg msg =>
      let s := match msg with
        | some msg => s.note (.sent n msg)
        | none => s
      some (s.setThread n ⟨k, .ended⟩)
    | .ended => none

/-- `pthread_cond_timedwait` answers ETIMEDOUT. -/
def timeout (n : Nat) (s : State) : Option State :=
  match s.thread n with
  | some ⟨k, .waiting expireTime⟩ =>
    if expireTime ≤ s.now then
      some ((s.setSession k { s.ni k with resp := some .noresp }).leave n k true)
    else none
  | _ => none

end State

inductive Event
  | clock (now : Int)
  | request (isEs : Bool) (timeout : Int) (passThrough : Bool)
  | reset
  | handler (createOk : Bool)
  | respond (notifId : Int) (userResponse : GpsUserResponseType)
  | respondCall (i : Nat)
  | thread (n : Nat)
  | timeout (n : Nat)
  deriving DecidableEq

namespace State

def step (s : State) : Event → Option State
  | .clock now => if s.now ≤ now then some { s with now := now } else none
  | .request isEs timeout passThrough => s.request isEs timeout passThrough
  | .reset => s.reset
  | .handler createOk => s.runHandler createOk
  | .respond notifId userResponse => some (s.respond notifId userResponse)
  | .respondCall i => s.runRespond i
  | .thread n => s.runThread n
  | .timeout n => s.timeout n

section Cases

variable {s u : State}

theorem request_cases {isEs : Bool} {timeout : Int} {passThrough : Bool}
    (hu : s.request isEs timeout passThrough = some u) : s.handler = .idle ∧
      ((s.busy isEs = true ∧ u = { s with
          requests := s.requests + 1
          log := s.log ++ if passThrough
            then [.rejected s.requests (some s.requests), .freed s.requests none]
            else [.rejected s.requests none] }) ∨
        (s.busy isEs = false ∧ ∃ r, (r = none ∨ r = some s.requests) ∧ u = { s with
          requests := s.requests + 1
          handler := .store s.requests (kindOf isEs) timeout r
          log := s.log ++ [.stored s.requests (kindOf isEs) timeout r] })) := by
  simp only [request, Option.ite_none_right_eq_some] at hu
  obtain ⟨hidle, hu⟩ := hu
  refine ⟨hidle, ?_⟩
  cases hb : s.busy isEs with
  | true =>
    refine Or.inl ⟨rfl, ?_⟩
    rw [show ({ s with requests := s.requests + 1 } : State).busy isEs = true from hb] at hu
    cases passThrough
    · exact (Option.some.inj hu).symm
    · rw [← Option.some.inj hu]
      simp [note]
  | false =>
    rw [show ({ s with requests := s.requests + 1 } : State).busy isEs = false from hb] at hu
    refine Or.inr ⟨rfl, if passThrough then some s.requests else none, ?_, ?_⟩
    · cases passThrough
      · exact Or.inl rfl
      · exact Or.inr rfl
    · exact (Option.some.inj hu).symm

theorem leave_cases (n : Nat) (k : SessionKind) (timedOut : Bool) (s : State) : ∃ rs msg,
    s.leave n k timedOut = ({ s with log := s.log ++ Record.left n timedOut s.now :: rs }.setSession k
      { s.ni k with respRecvd := false, rawRequest := none }).setThread n ⟨k, .clearTime msg⟩ ∧
      ((s.ni k).rawRequest = none ∧ rs = [] ∧ msg = none ∨
        ∃ p, (s.ni k).rawRequest = some p ∧
          ((s.ni k).resp ≠ some .ignore ∧ rs = [.informed n ⟨(s.ni k).resp, p⟩] ∧
              msg = some ⟨(s.ni k).resp, p⟩ ∨
            (s.ni k).resp = some .ignore ∧ rs = [.freed p (some n)] ∧ msg = none)) := by
  cases hr : (s.ni k).rawRequest with
  | none =>
    refine ⟨[], none, ?_, Or.inl ⟨rfl, rfl, rfl⟩⟩
    simp [leave, hr, note]
  | some p =>
    by_cases hi : (s.ni k).resp = some .ignore
    · refine ⟨[.freed p (some n)], none, ?_, Or.inr ⟨p, rfl, Or.inr ⟨hi, rfl, rfl⟩⟩⟩
      simp [leave, hr, hi, note]
    · refine ⟨[.informed n ⟨(s.ni k).resp, p⟩], some ⟨(s.ni k).resp, p⟩, ?_,
        Or.inr ⟨p, rfl, Or.inl ⟨hi, rfl, rfl⟩⟩⟩
      simp [leave, hr, hi, note]

theorem runRespond_frame {i : Nat} (hu : s.runRespond i = some u) :
    u.thread = s.thread ∧ u.log = s.log := by
  cases hc : s.call i with
  | none => simp [runRespond, hc] at hu
  | some c =>
    obtain ⟨notifId, userResponse, stage⟩ := c
    cases stage <;> simp only [runRespond, hc] at hu
    all_goals first
      | split_ifs at hu <;> cases hu <;> exact ⟨rfl, rfl⟩
      | cases hu; exact ⟨rfl, rfl⟩

theorem leave_log (n : Nat) (k : SessionKind) (timedOut : Bool) (s : State) :
    ∃ rs, (s.leave n k timedOut).log = s.log ++ rs := by
  obtain ⟨rs, msg, heq, -⟩ := leave_cases n k timedOut s
  exact ⟨_, by rw [heq]; rfl⟩

theorem runHandler_log {createOk : Bool} (hu : s.runHandler createOk = some u) :
    ∃ rs, u.log = s.log ++ rs := by
  cases hs : s.handler <;> simp only [runHandler, hs, Option.some.injEq, reduceCtorEq] at hu
  case number n k timeout => exact ⟨_, by rw [← hu]; rfl⟩
  case create n k id => exact ⟨[], by rw [← hu]; cases createOk <;> exact (List.append_nil _).symm⟩
  case notify n id => exact ⟨_, by rw [← hu]; rfl⟩
  case resetFree k =>
    rw [← hu]
    cases (s.ni k).rawRequest with
    | none => exact ⟨[], (List.append_nil _).symm⟩
    | some p => exact ⟨[.freed p none], rfl⟩
  all_goals
    cases hu
    exact ⟨[], (List.append_nil _).symm⟩

theorem runThread_log {n : Nat} (hu : s.runThread n = some u) : ∃ rs, u.log = s.log ++ rs := by
  cases ht : s.thread n with
  | none => simp [runThread, ht] at hu
  | some t =>
    obtain ⟨k, stage⟩ := t
    cases stage <;> simp only [runThread, ht, Option.some.injEq, reduceCtorEq] at hu
    case created =>
      rw [← hu]
      split_ifs
      · obtain ⟨rs, hrs⟩ := leave_log n k false (s.note (.started n s.now))
        exact ⟨[.started n s.now] ++ rs, by rw [hrs, ← List.append_assoc]; rfl⟩
      · exact ⟨[.started n s.now], rfl⟩
    case waiting =>
      rw [← hu]
      split_ifs
      · exact leave_log n k false s
      · exact ⟨[], (List.append_nil _).symm⟩
    case sendMsg msg =>
      rw [← hu]
      cases msg with
      | none => exact ⟨[], (List.append_nil _).symm⟩
      | some msg => exact ⟨[.sent n msg], rfl⟩
    all_goals
      cases hu
      exact ⟨[], (List.append_nil _).symm⟩

theorem step_log {e : Event} (hu : s.step e = some u) : ∃ rs, u.log = s.log ++ rs := by
  cases e with
  | clock now =>
    simp only [step, Option.ite_none_right_eq_some, Option.some.injEq] at hu
    obtain ⟨-, rfl⟩ := hu
    exact ⟨[], (List.append_nil _).symm⟩
  | request isEs timeout passThrough =>
    obtain ⟨-, ⟨-, hr⟩ | ⟨-, r, -, hs⟩⟩ := request_cases hu
    · exact ⟨_, by rw [hr]⟩
    · exact ⟨_, by rw [hs]⟩
  | reset =>
    simp only [step, reset, Option.ite_none_right_eq_some, Option.some.injEq] at hu
    obtain ⟨-, rfl⟩ := hu
    exact ⟨[], (List.append_nil _).symm⟩
  | handler createOk => exact runHandler_log hu
  | respond notifId userResponse =>
    obtain rfl := Option.some.inj hu
    exact ⟨_, rfl⟩
  | respondCall i => exact ⟨[], by rw [List.append_nil, (runRespond_frame hu).2]⟩
  | thread n => exact runThread_log hu
  | timeout n =>
    simp only [step, timeout] at hu
    split at hu
    case h_1 k expireTime ht =>
      split_ifs at hu
      obtain rfl := Option.some.inj hu
      exact leave_log n k true (s.setSession k { s.ni k with resp := some .noresp })
    case h_2 => cases hu

end Cases

end State

end Wt88047.Ni
