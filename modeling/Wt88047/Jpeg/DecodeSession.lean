import Wt88047.Jpeg.JpegObj

/-! A session of the JPEG decoder: the way of its job through the OMX component, cut wherever a callback of the
component can come in between, and what the event handler does to it. -/

namespace Jpeg.Decode

/-- The OMX commands, each of which `OMX_EventCmdComplete` answers. -/
inductive Command
  | stateSet | portDisable | portEnable
  deriving DecidableEq

inductive Request
  | command (c : Command) | emptyThisBuffer | fillThisBuffer
  deriving DecidableEq

inductive OmxEvent
  | error | cmdComplete (c : Command) | portSettingsChanged | other
  deriving DecidableEq

def OmxEvent.isCmdComplete : OmxEvent → Bool
  | cmdComplete _ => true
  | _ => false

structure DecodeParams where
  numSrcBufs : Nat := 0
  numDstBufs : Nat := 0
  jpegCb : Bool := false
  deriving DecidableEq

/-- `mm_jpeg_decode_job_t`, with the number of the accepted job. -/
structure DecodeJob where
  sessionId : Nat := 0
  srcIndex : Int := 0
  dstIndex : Int := 0
  serial : Nat := 0
  deriving DecidableEq

/-- What decoding uses of `mm_jpeg_job_session_t`. The last two fields are the component's: the requests that it has
taken and not answered yet, and whether it may stay silent, since it has sent an error event during the job or the
call that is at work on the session. -/
structure Session where
  jobId : Nat := 0
  sessionId : Nat := 0
  decParams : DecodeParams := {}
  decodeJob : DecodeJob := {}
  omxHandle : Bool := false
  omxEvent : OmxEvent := .other
  eventPending : Bool := false
  stateChangePending : Bool := false
  abortState : AbortState := .none
  active : Bool := false
  config : Bool := false
  jobHist : Nat := 0
  encoding : Bool := false
  owed : List Request := []
  silent : Bool := false
  deriving DecidableEq

inductive Goal
  | configIdle | configExecuting | destroyIdle | destroyLoaded
  deriving DecidableEq

def Goal.byJobmgr : Goal → Bool
  | configIdle | configExecuting => true
  | destroyIdle | destroyLoaded => false

def Goal.execs : Goal → Bool
  | configIdle | destroyLoaded => true
  | configExecuting | destroyIdle => false

inductive ChangeStage
  | getState | sendCommand | exec | waiting | woken
  deriving DecidableEq

inductive Point
  | settings | disable | enable
  deriving DecidableEq

def Point.request : Point → Request
  | settings => .emptyThisBuffer
  | disable => .command .portDisable
  | enable => .command .portEnable

/-- Where the thread that holds `job_lock` is, each stage before what it is named after: the job manager in
`mm_jpegdec_process_decoding_job`, or a client in `mm_jpegdec_abort_job` or `mm_jpegdec_destroy_session`, of which
the flag tells. -/
inductive Stage
  | begin | configPorts | change (g : Goal) (c : ChangeStage) | setEncoding
  | request (k : Point) | call (k : Point) | check (k : Point) | waiting (k : Point) | woken (k : Point)
  | portDefinition | useBuffers | fillThisBuffer | callback | jobDone
  | abortWaiting (destroy : Bool) | abortWoken (destroy : Bool) | teardown | freeHandle | removeSession
  deriving DecidableEq

namespace Stage

def byJobmgr : Stage → Bool
  | change g _ => g.byJobmgr
  | abortWaiting _ | abortWoken _ | teardown | freeHandle | removeSession => false
  | _ => true

def callsOmx : Stage → Bool
  | configPorts | change _ .getState | change _ .sendCommand | change _ .exec | call _ | portDefinition
  | useBuffers | fillThisBuffer | freeHandle => true
  | _ => false

def wake : Stage → Stage
  | change g .waiting => change g .woken
  | waiting k => woken k
  | abortWaiting d => abortWoken d
  | st => st

def awaits : Stage → Option Request
  | change _ .waiting => some (.command .stateSet)
  | waiting k => some k.request
  | _ => none

end Stage

/-- How the calls of one stage end: whether those of OMX succeed, whether the component is in the new state already,
and whether `p_exec` succeeds. -/
structure Outcome where
  ok : Bool := true
  inState : Bool := false
  exec : Bool := true
  deriving DecidableEq

namespace Session

def ask (r : Request) (p : Session) : Session := if p.silent then p else { p with owed := p.owed ++ [r] }

def answer (r : Request) (p : Session) : Session := { p with owed := p.owed.filter (· ≠ r) }

/-- What follows `mm_jpeg_session_change_state` when it returns `OMX_ErrorNone`. -/
def changed (p : Session) : Goal → Session × Option Stage
  | .configIdle => (p, some (.change .configExecuting .getState))
  | .configExecuting => ({ p with config := true }, some .setEncoding)
  | .destroyIdle => (p, some (.change .destroyLoaded .getState))
  | .destroyLoaded => (p, some .freeHandle)

/-- What follows when it returns an error, which `mm_jpegdec_session_destroy` does not look at. -/
def unchanged (p : Session) : Goal → Session × Option Stage
  | .configIdle | .configExecuting => (p, some .callback)
  | .destroyIdle => (p, some (.change .destroyLoaded .getState))
  | .destroyLoaded => (p, some .freeHandle)

/-- `mm_jpeg_session_change_state`. `error_flag` stays `OMX_ErrorNone` in a decode session. -/
def changeState (o : Outcome) (p : Session) (g : Goal) : ChangeStage → Option (Session × Option Stage)
  | .getState =>
    if !o.ok then some (p.unchanged g)
    else if o.inState then some (p.changed g)
    else some ({ p with stateChangePending := true }, some (.change g .sendCommand))
  | .sendCommand =>
    if o.ok then some (p.ask (.command .stateSet), some (.change g .exec)) else some (p.unchanged g)
  | .exec =>
    if g.execs && !o.exec then some (p.unchanged g)
    else if p.stateChangePending then some (p, some (.change g .waiting))
    else some (p.changed g)
  | .waiting => none
  | .woken => some (p.changed g)

/-- The thread reads `omxEvent`; what `mm_jpeg_session_port_disable` makes of it is not looked at. An unexpected
event ends `mm_jpegdec_session_decode` with `ret` still `OMX_ErrorNone`. -/
def readEvent (p : Session) : Point → Session × Option Stage
  | .settings => (p, if p.omxEvent = .portSettingsChanged then some (.request .disable) else none)
  | .disable => (p, some .portDefinition)
  | .enable => (p, if p.omxEvent.isCmdComplete then some .fillThisBuffer else none)

/-- The call of OMX that a wait belongs to; what the port commands return is not looked at. -/
def callOmx (o : Outcome) (p : Session) : Point → Session × Option Stage
  | .settings => if o.ok then (p.ask .emptyThisBuffer, some (.check .settings)) else (p, some .callback)
  | .disable =>
    if o.ok then (p.ask (.command .portDisable), some (.check .disable)) else (p, some .portDefinition)
  | .enable => (if o.ok then p.ask (.command .portEnable) else p, some .useBuffers)

/-- One stage, from `mm_jpegdec_session_decode` and what it calls, or from `mm_jpegdec_session_destroy`: the session
after it and the stage that follows, if any. A stage that waits has none. -/
def advance (o : Outcome) (p : Session) : Stage → Option (Session × Option Stage)
  | .begin =>
    some ({ p with abortState := .none, encoding := false },
      some (if p.config then .setEncoding else .configPorts))
  | .configPorts =>
    if p.abortState = .init then some ({ p with config := true }, some .setEncoding)
    else some (p, some (if o.ok then .change .configIdle .getState else .callback))
  | .change g c => p.changeState o g c
  | .setEncoding => some ({ p with encoding := true }, some (.request .settings))
  | .request k =>
    if k = .settings ∧ p.abortState = .init then some (p, none)
    else some ({ p with eventPending := true }, some (.call k))
  | .call k => some (p.callOmx o k)
  | .check k => if p.eventPending then some (p, some (.waiting k)) else some (p.readEvent k)
  | .waiting _ => none
  | .woken k => some (p.readEvent k)
  | .portDefinition => some (p, some (if o.ok then .request .enable else .callback))
  | .useBuffers => some (p, some (if o.ok then .check .enable else .callback))
  | .fillThisBuffer => if o.ok then some (p.ask .fillThisBuffer, none) else some (p, some .callback)
  | .abortWaiting _ => none
  | .abortWoken destroy => some ({ p with abortState := .done }, if destroy then some .teardown else none)
  | .teardown =>
    some (p, some (if p.omxHandle then .change .destroyIdle .getState else .removeSession))
  | .freeHandle => some ({ p with omxHandle := false, owed := [] }, some .removeSession)
  | .callback | .jobDone | .removeSession => none

def hear (p : Session) : OmxEvent → Session
  | .error => { p with omxEvent := .error, owed := [], silent := true }
  | .cmdComplete c => { p.answer (.command c) with omxEvent := .cmdComplete c }
  | .portSettingsChanged => { p.answer .emptyThisBuffer with omxEvent := .portSettingsChanged }
  | .other => { p with omxEvent := .other }

/-- What the rest of `mm_jpegdec_event_handler` does to the session, apart from the end of its job. -/
def note (p : Session) (e : OmxEvent) : Session :=
  if p.abortState = .init then { p with abortState := .done }
  else match e with
    | .error | .other => p
    | .cmdComplete _ => { p with stateChangePending := false, eventPending := false }
    | .portSettingsChanged => { p with eventPending := false }

end Session

end Jpeg.Decode
