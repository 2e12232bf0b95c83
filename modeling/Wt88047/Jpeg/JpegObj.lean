import Wt88047.Jpeg.OmxSession
import Mathlib.Algebra.Order.Ring.Nat

/-! The JPEG object with its clients, session chains and job queues: what the calls of a client do
to it, apart from the encoding of a job. -/

namespace Jpeg

abbrev maxSession : Nat := 10

abbrev maxJpegClientNum : Nat := 8

abbrev maxJpegBuf : Nat := 24

abbrev jobHistMax : Nat := 10000

def getClientIdx (x : Nat) : Nat := x % 256

def getSessionIdx (x : Nat) : Nat := x / 256 % 256

def slotOf (id : Nat) : Slot := ⟨getClientIdx id, getSessionIdx id⟩

/-- The session id that `mm_jpeg_create_session` packs for a slot, with `JOB_ID_MAGICVAL`. -/
def packSession (s : Slot) : Nat := 1 <<< 24 ||| s.idx <<< 8 ||| s.client

def packJob (session hist : Nat) : Nat := session ||| (hist % jobHistMax) <<< 16

def validIdx (id : Nat) : Bool :=
  getSessionIdx id < maxSession && getClientIdx id < maxJpegClientNum

structure Client where
  isUsed : Bool := false
  clientHandle : Nat := 0
deriving DecidableEq

structure WorkBufs where
  prevW : Int := 0
  prevH : Int := 0
  workBufCnt : Nat := 0
  ionBuffer : Nat → WorkBuffer := fun _ => {}

structure JobNode where
  job : EncodeJob
  jobId : Nat
  clientHandle : Nat
deriving DecidableEq

inductive JobStatus where
  | done
  | error
deriving DecidableEq

structure Answer where
  serial : Nat
  jobId : Nat
  status : JobStatus
deriving DecidableEq

/-- The two queues that one `mm_jpeg_create_session` allocates, and how often each was destroyed. -/
structure SessionQueues where
  handles : List Slot := []
  outBufs : List Nat := []
  handlesDeinit : Nat := 0
  outBufsDeinit : Nat := 0
deriving DecidableEq

/-- `mm_jpeg_obj` with the heap and the OMX core around it. `inEncode` is the session whose encode
call the job manager is in, with `job_lock` held. The last four fields are a record of what
happened, which the code does not read: the session ids handed out and not taken back, the number
of accepted jobs, the callbacks, and the jobs taken out by an abort. -/
structure World where
  opened : Bool := false
  numClients : Int := 0
  client : Nat → Client := fun _ => {}
  session : Slot → Session := fun _ => {}
  numSessions : Nat := 0
  work : WorkBufs := {}
  jobSem : Nat := 0
  jobQueue : List JobNode := []
  ongoingJobQ : List JobNode := []
  inEncode : Option Slot := none
  historyCount : Nat := 0
  queues : Nat → SessionQueues := fun _ => {}
  nextQueues : Nat := 0
  component : Nat → Component := fun _ => {}
  nextHandle : Nat := 0
  issued : List Nat := []
  accepted : Nat := 0
  answers : List Answer := []
  aborted : List Nat := []

namespace World

def setSession (w : World) (s : Slot) (p : Session) : World :=
  { w with session := fun t => if t = s then p else w.session t }

def onSession (w : World) (s : Slot) (f : Session → Session) : World :=
  w.setSession s (f (w.session s))

def setQueues (w : World) (q : Nat) (x : SessionQueues) : World :=
  { w with queues := fun r => if r = q then x else w.queues r }

def onQueues (w : World) (q : Nat) (f : SessionQueues → SessionQueues) : World :=
  w.setQueues q (f (w.queues q))

def setComponent (w : World) (h : Nat) (c : Component) : World :=
  { w with component := fun k => if k = h then c else w.component k }

def setClient (w : World) (i : Nat) (c : Client) : World :=
  { w with client := fun j => if j = i then c else w.client j }

@[simp] theorem session_setSession (w : World) (s t : Slot) (p : Session) :
    (w.setSession s p).session t = if t = s then p else w.session t := rfl

@[simp] theorem session_onSession (w : World) (s t : Slot) (f : Session → Session) :
    (w.onSession s f).session t = if t = s then f (w.session s) else w.session t := rfl

@[simp] theorem queues_onQueues (w : World) (q r : Nat) (f : SessionQueues → SessionQueues) :
    (w.onQueues q f).queues r = if r = q then f (w.queues q) else w.queues r := rfl

@[simp] theorem component_setComponent (w : World) (h k : Nat) (c : Component) :
    (w.setComponent h c).component k = if k = h then c else w.component k := rfl

end World

open World

/-- `mm_jpeg_util_generate_handler`; the history count is 16 bits wide and skips 0. -/
def generateHandler (w : World) (idx : Nat) : World × Nat :=
  let n := (w.historyCount + 1) % 65536
  let n := if n = 0 then 1 else n
  ({ w with historyCount := n }, n * 256 + idx)

def getIndexByHandler (hdl : Nat) : Nat := hdl % 256

def clearSessions (w : World) (c : Nat) : World :=
  { w with session := fun t => if t.client = c then {} else w.session t }

def newClient (w : World) : World × Nat :=
  if w.numClients ≥ maxJpegClientNum then (w, 0)
  else match (List.range maxJpegClientNum).find? fun i => !(w.client i).isUsed with
    | none => (w, 0)
    | some idx =>
      let r := generateHandler w idx
      let w := clearSessions (r.1.setClient idx { isUsed := true, clientHandle := r.2 }) idx
      ({ w with numClients := w.numClients + 1 }, r.2)

def getSession (id : Nat) : Option Slot := if validIdx id then some (slotOf id) else none

/-- The slot that `mm_jpeg_get_new_session_idx` activates. -/
def newSessionIdx (w : World) (c : Nat) : Option Slot :=
  ((List.range maxSession).find? fun i => !(w.session ⟨c, i⟩).active).map (Slot.mk c)

def removeSessionIdx (w : World) (id : Nat) : World :=
  w.onSession (slotOf id) fun p => { p with active := false }

structure Creation where
  mallocHandles : Bool := true
  mallocOutBufs : Bool := true
  getHandle : Nat → Bool := fun _ => true
  enqHandle : Nat → Bool := fun _ => true
  configure : Nat → Configure := fun _ => {}
  enqOutBuf : Nat → Bool := fun _ => true

/-- The fields `mm_jpeg_session_create` resets before it asks for a handle. -/
def Session.reset (p : Session) : Session :=
  { p with
    stateChangePending := false, abortState := .none, errorFlag := .none, config := false,
    autoOutBuf := false }

def appendNext (s : Slot) (w : World) (t : Slot) : World :=
  w.onSession t fun p => { p with nextSession := p.nextSession ++ [s] }

/-- A slot made the next member of a chain: the links of the earlier members, and its own fields
up to `mm_jpeg_session_create`. -/
def linkSession (count i : Nat) (chain : List Slot) (s : Slot) (w : World) : World :=
  let w := w.onSession s fun p => { p with active := true, nextSession := [] }
  let w := chain.foldl (appendNext s) w
  let buf := if w.numSessions + i < count then w.work.ionBuffer (w.numSessions + i)
    else { addr := 0, size := (w.session s).workBuffer.size, fd := -1 }
  w.onSession s fun p => ({ p with workBuffer := buf } : Session).reset

def registerSession (hdl q : Nat) (params : EncodeParams) (enq : Bool) (s : Slot) (w : World) :
    World :=
  let h := w.nextHandle
  let w := { w with nextHandle := h + 1, numSessions := w.numSessions + 1 }
  let w := (w.setComponent h {}).onSession s fun p =>
    { p with
      omxHandle := some h, params := params, clientHdl := hdl, sessionId := packSession s,
      queues := some q }
  if enq then w.onQueues q fun x => { x with handles := x.handles ++ [s] } else w

/-- `mm_jpeg_session_configure` of a session whose handle is `h`. -/
def configureSession (o : Configure) (s : Slot) (h : Nat) (w : World) : World × Bool :=
  let r := sessionConfigure o (w.session s) (w.component h)
  ((w.setSession s (if r.2.2 then { r.1 with config := true } else r.1)).setComponent h r.2.1, r.2.2)

def joinChain (count i hdl q : Nat) (params : EncodeParams) (enq : Bool) (conf : Configure)
    (chain : List Slot) (s : Slot) (w : World) : World × Bool :=
  let w := linkSession count i chain s w
  configureSession conf s w.nextHandle (registerSession hdl q params enq s w)

/-- The loop of `mm_jpeg_create_session`: `k` sessions are still to come and `i` is the next;
`id` is `*p_session_id`. The result is the return code of a loop left early. -/
def createSessions (count hdl q : Nat) (params : EncodeParams) (o : Creation) :
    Nat → Nat → List Slot → Nat → World → World × Option Int × Nat
  | 0, _, _, id, w => (w, none, id)
  | k + 1, i, chain, id, w =>
    match newSessionIdx w (getIndexByHandler hdl) with
    | none => (w, some 0, id)
    | some s =>
      if !o.getHandle i then
        -- the OMX error is in `ret`, and `rc` stays 0
        ((linkSession count i chain s w).onSession s fun p => { p with active := false }, some 0, id)
      else
        let r := joinChain count i hdl q params (o.enqHandle i) (o.configure i) chain s w
        let id := if id = 0 then packSession s else id
        if r.2 then createSessions count hdl q params o k (i + 1) (chain ++ [s]) id r.1
        else (r.1, some (-1), id)

/-- `mm_jpeg_create_session`: the return code and `*p_session_id`. `count` is
`MM_JPEG_CONCURRENT_SESSIONS_COUNT`, which the build sets. -/
def createSession (count hdl : Nat) (params : EncodeParams) (o : Creation) (w : World) :
    World × Int × Nat :=
  if maxJpegBuf < params.numSrcBufs ∨ maxJpegBuf < params.numDstBufs then (w, 0, 0)
  else if maxJpegClientNum ≤ getIndexByHandler hdl then (w, 0, 0)
  else if !o.mallocHandles then (w, -1, 0)
  else
    let q := w.nextQueues
    let w := { w.setQueues q {} with nextQueues := q + 1 }
    if !o.mallocOutBufs then (w, -1, 0)
    else
      let n := if params.burstMode then count else 1
      let r := createSessions count hdl q params o n 0 [] 0 w
      let w := if r.2.2 = 0 then r.1 else { r.1 with issued := r.2.2 :: r.1.issued }
      match r.2.1 with
      | some rc => (w, rc, r.2.2)
      | none =>
        let bufs := ((List.range params.numDstBufs).filter o.enqOutBuf).map (· + 1)
        (w.onQueues q fun x => { x with outBufs := x.outBufs ++ bufs }, 0, r.2.2)

/-- `mm_jpeg_session_abort` along a chain. The wait for the callback that finds
`MM_JPEG_ABORT_INIT` is part of the step: that callback does nothing but end it. -/
def sessionAbort : List Slot → World → World
  | [], w => w
  | s :: rest, w =>
    if (w.session s).abortState ≠ .none then w
    else sessionAbort rest (w.onSession s fun p =>
      { p with abortState := .done, stateChangePending := p.stateChangePending || p.encoding })

/-- `mm_jpeg_session_destroy` of the session `s`, whose handle is `h`. -/
def teardownSession (o : Teardown) (s : Slot) (h : Nat) (w : World) : World :=
  let r := sessionTeardown o (w.session s) (w.component h)
  { (w.setSession s r.1).setComponent h r.2 with numSessions := w.numSessions - 1 }

/-- `mm_jpeg_session_destroy` along a chain; a session without a handle ends it. -/
def sessionDestroy (o : Slot → Teardown) : List Slot → World → World
  | [], w => w
  | s :: rest, w =>
    match (w.session s).omxHandle with
    | none => w
    | some h => sessionDestroy o rest (teardownSession (o s) s h w)

def removeJobs (w : World) (id : Nat) : World :=
  { w with
    jobQueue := w.jobQueue.filter fun n => n.job.sessionId ≠ id
    ongoingJobQ := w.ongoingJobQ.filter fun n => n.job.sessionId ≠ id
    aborted := w.aborted ++
      ((w.jobQueue ++ w.ongoingJobQ).filter fun n => n.job.sessionId = id).map (·.job.serial) }

def chainOf (w : World) (s : Slot) : List Slot := s :: (w.session s).nextSession

/-- The part of `mm_jpeg_destroy_session` under `job_lock`. -/
def destroyChain (o : Slot → Teardown) (s : Slot) (w : World) : World :=
  let chain := chainOf w s
  let w := sessionDestroy o chain (sessionAbort chain (removeJobs w (w.session s).sessionId))
  chain.foldl (fun w t => removeSessionIdx w (w.session t).sessionId) w

def destroyQueues (s : Slot) (q id : Nat) (w : World) : World :=
  let w := w.onQueues q fun x =>
    { handles := [], outBufs := [], handlesDeinit := x.handlesDeinit + 1,
      outBufsDeinit := x.outBufsDeinit + 1 }
  let w := w.onSession s fun p => { p with queues := none }
  { w with jobSem := w.jobSem + 1, issued := w.issued.filter (· ≠ id) }

/-- `mm_jpeg_destroy_session`. A session without queues makes it follow a NULL pointer. -/
def destroySession (o : Slot → Teardown) (s : Slot) (w : World) : Option World :=
  match ((destroyChain o s w).session s).queues with
  | none => none
  | some q => some (destroyQueues s q (w.session s).sessionId (destroyChain o s w))

def destroySessionUnlocked (w : World) (s : Slot) : World :=
  let id := (w.session s).sessionId
  let w := removeSessionIdx (sessionAbort (chainOf w s) (removeJobs w id)) id
  { w with issued := w.issued.filter (· ≠ id) }

def close (hdl : Nat) (w : World) : World × Int :=
  let c := getIndexByHandler hdl
  if maxJpegClientNum ≤ c then (w, -1)
  else
    let w := (List.range maxSession).foldl (fun w i =>
      if (w.session ⟨c, i⟩).active then destroySessionUnlocked w ⟨c, i⟩ else w) w
    ((clearSessions w c).setClient c {}, 0)

/-- `mm_jpeg_check_resolution_change`; `none` is its error. -/
def checkResolutionChange (need : Nat) (job : EncodeJob) (b : WorkBufs) : Option WorkBufs :=
  if need < b.workBufCnt then none
  else if b.workBufCnt = need ∧ job.width * job.height ≠ b.prevW * b.prevH then
    some { b with workBufCnt := 0 }
  else some b

def ceiling64 (x : Int) : Int := (x + 63) / 64 * 64

def ceiling32 (x : Nat) : Nat := (x + 31) / 32 * 32

/-- The allocation loop of `mm_jpeg_start_job`: `k` work buffers are still to come and `i` is the
next, `alloc` the address and descriptor that the ION driver gives, `cur` the session's buffer. -/
def allocWorkBufs (size : Nat) (alloc : Nat → Nat × Int) :
    Nat → Nat → WorkBufs → WorkBuffer → WorkBufs × WorkBuffer × Bool
  | 0, _, b, cur => (b, cur, true)
  | k + 1, i, b, cur =>
    let buf : WorkBuffer := { addr := (alloc i).1, size := size, fd := (alloc i).2 }
    let b := { b with
      ionBuffer := fun j => if j = i then buf else b.ionBuffer j
      workBufCnt := b.workBufCnt + 1 }
    if buf.addr = 0 then ({ b with workBufCnt := b.workBufCnt - i }, cur, false)
    else allocWorkBufs size alloc k (i + 1) b buf

/-- The part of `mm_jpeg_start_job` that provides work buffers: the object's buffers, the
session's, the value of `rc` afterwards and whether the call goes on. -/
def reserveWorkBufs (count : Nat) (alloc : Nat → Nat × Int) (job : EncodeJob) (numSessions : Nat)
    (b : WorkBufs) : WorkBufs × WorkBuffer × Int × Bool :=
  let need := min (numSessions + 1) count
  let hal := job.workBuf.addr ≠ 0
  let need := if hal then need - 1 else need
  let cur := if hal then job.workBuf else b.ionBuffer 0
  let checked := if hal ∧ need = 0 then some b else checkResolutionChange need job b
  match checked with
  | none => (b, cur, -1, false)
  | some b =>
    let b := { b with prevW := job.width, prevH := job.height }
    let size := ceiling32 (ceiling64 job.width * ceiling64 job.height * 3 / 2).toNat
    let r := allocWorkBufs size alloc (need - b.workBufCnt) b.workBufCnt b cur
    (r.1, r.2.1, if hal ∧ need = 0 ∨ r.2.2 = false then -1 else 0, r.2.2)

structure Start where
  alloc : Nat → Nat × Int := fun i => (i + 1, 0)
  mallocNode : Bool := true
  enq : Bool := true

def setWorkBufs (s : Slot) (b : WorkBufs) (buf : WorkBuffer) (w : World) : World :=
  { w with work := b }.onSession s fun p => { p with workBuffer := buf }

def countJob (s : Slot) (w : World) : World :=
  w.onSession s fun p => { p with jobHist := (p.jobHist + 1) % 2 ^ 32 }

def enqJob (n : JobNode) (w : World) : World :=
  { w with
    jobQueue := w.jobQueue ++ [n], jobSem := w.jobSem + 1, accepted := w.accepted + 1 }

/-- `mm_jpeg_start_job`: the return code and `*job_id`. -/
def startJob (count : Nat) (job : EncodeJob) (o : Start) (w : World) : World × Int × Nat :=
  if !validIdx job.sessionId then (w, -1, 0)
  else
    let s := slotOf job.sessionId
    let r := reserveWorkBufs count o.alloc job w.numSessions w.work
    let w := setWorkBufs s r.1 r.2.1 w
    let p := w.session s
    if !r.2.2.2 ∨ !p.active then (w, r.2.2.1, 0)
    else if (p.params.numSrcBufs : Int) ≤ job.srcIndex ∨ (p.params.numDstBufs : Int) ≤ job.dstIndex then
      (w, r.2.2.1, 0)
    else if !o.mallocNode then (w, -1, 0)
    else
      let id := packJob job.sessionId p.jobHist
      let node : JobNode :=
        { job := { job with serial := w.accepted }, jobId := id, clientHandle := p.clientHdl }
      let w := countJob s w
      if !o.enq then (w, -1, id) else (enqJob node w, 0, id)

/-- `mm_jpeg_abort_job`, whose return code is -1 on every path. -/
def abortJob (id : Nat) (w : World) : World × Int :=
  match w.jobQueue.find? (·.jobId = id) with
  | some n =>
    ({ w with
      jobQueue := w.jobQueue.eraseP (·.jobId = id), aborted := w.aborted ++ [n.job.serial] }, -1)
  | none =>
    match w.ongoingJobQ.find? (·.jobId = id) with
    | none => (w, -1)
    | some n =>
      let w := { w with
        ongoingJobQ := w.ongoingJobQ.eraseP (·.jobId = id), aborted := w.aborted ++ [n.job.serial] }
      match getSession n.jobId with
      | none => (w, -1)
      | some s => (sessionAbort (chainOf w s) w, -1)

end Jpeg
