import Wt88047.Jpeg.DecodeSession
import Wt88047.Jpeg.JpegInterface

/-! The decoder object: the calls of its clients, the rounds of the job manager and the callbacks of the components,
as the steps of a run, with the record of what has become of each job. -/

namespace Jpeg.Decode

structure JobNode where
  job : DecodeJob
  jobId : Nat
  deriving DecidableEq

def JobNode.slot (n : JobNode) : Slot := slotOf n.jobId

/-- What `mm_jpeg_queue_remove_job_by_session_id` compares, also in a decode job: `enc_info.encode_job.session_id`. In
the union it lies behind all of `dec_info`, where the `memset` of the node has left 0. -/
def JobNode.encSessionId (_ : JobNode) : Nat := 0

/-- `mm_jpeg_obj` of the decoder. `lock` is who has `job_lock`: the session it works on and the stage it is in. The
last four fields record, for the jobs by number, how many were accepted, the calls of `jpeg_cb`, which jobs have left
the ongoing queue for good, and which ones a client has aborted or destroyed. -/
structure World where
  session : Slot → Session := fun _ => {}
  jobQueue : List JobNode := []
  ongoingJobQ : List JobNode := []
  jobSem : Nat := 0
  lock : Option (Slot × Stage) := none
  accepted : Nat := 0
  answers : List Answer := []
  removed : List Nat := []
  aborted : List Nat := []

namespace World

def setSession (w : World) (s : Slot) (p : Session) : World :=
  { w with session := fun t => if t = s then p else w.session t }

def onSession (w : World) (s : Slot) (f : Session → Session) : World := w.setSession s (f (w.session s))

def signal (w : World) (s : Slot) : World :=
  { w with lock := w.lock.map fun x => if x.1 = s then (s, x.2.wake) else x }

def clientInside (w : World) : Bool := w.lock.any fun x => !x.2.byJobmgr

end World

def callback (status : JobStatus) (s : Slot) (w : World) : World :=
  let p := w.session s
  if p.decParams.jpegCb then
    { w with answers := w.answers ++ [⟨p.decodeJob.serial, p.jobId, status⟩] }
  else w

/-- `mm_jpeg_queue_remove_job_by_job_id` on the ongoing queue. -/
def removeOngoing (id : Nat) (w : World) : World :=
  match w.ongoingJobQ.find? (·.jobId = id) with
  | none => w
  | some n =>
    { w with
      ongoingJobQ := w.ongoingJobQ.eraseP (·.jobId = id)
      removed := w.removed ++ [n.job.serial] }

def jobDone (s : Slot) (w : World) : World :=
  let w := removeOngoing (w.session s).jobId w
  { w.onSession s fun p => { p with encoding := false } with jobSem := w.jobSem + 1 }

/-- `mm_jpegdec_create_session`: the return code, which stays 0 on every path, and `*p_session_id`. `getHandle` is
whether `OMX_GetHandle` succeeds. -/
def createSession (hdl : Nat) (params : DecodeParams) (getHandle : Bool) (w : World) : World × Int × Nat :=
  if maxJpegBuf < params.numSrcBufs ∨ maxJpegBuf < params.numDstBufs then (w, 0, 0)
  else if maxJpegClientNum ≤ getIndexByHandler hdl then (w, 0, 0)
  else match (List.range maxSession).find? fun i => !(w.session ⟨getIndexByHandler hdl, i⟩).active with
    | none => (w, 0, 0)
    | some i =>
      let s : Slot := ⟨getIndexByHandler hdl, i⟩
      let w := w.onSession s fun p =>
        { p with active := true, stateChangePending := false, abortState := .none, config := false }
      if !getHandle then (w.onSession s fun p => { p with active := false }, 0, 0)
      else
        (w.onSession s fun p => { p with omxHandle := true, decParams := params, sessionId := packSession s },
          0, packSession s)

/-- `mm_jpegdec_start_decode_job`: the return code and `*job_id`. The arguments tell whether the node is allocated and
queued. -/
def startDecodeJob (job : DecodeJob) (node enq : Bool) (w : World) : World × Int × Nat :=
  if !validIdx job.sessionId then (w, -1, 0)
  else
    let s := slotOf job.sessionId
    let p := w.session s
    if !p.active then (w, -1, 0)
    else if (p.decParams.numSrcBufs : Int) ≤ job.srcIndex ∨ (p.decParams.numDstBufs : Int) ≤ job.dstIndex then
      (w, -1, 0)
    else if !node then (w, -1, 0)
    else
      let id := packJob job.sessionId p.jobHist
      let w := w.onSession s fun p => { p with jobHist := (p.jobHist + 1) % 2 ^ 32 }
      if !enq then (w, -1, id)
      else
        ({ w with
          jobQueue := w.jobQueue ++ [⟨{ job with serial := w.accepted }, id⟩]
          jobSem := w.jobSem + 1
          accepted := w.accepted + 1 }, 0, id)

/-- `mm_jpeg_session_abort`, up to its wait, and who has `job_lock` then. -/
def sessionAbort (destroy : Bool) (s : Slot) (w : World) : World :=
  let p := w.session s
  let next : Option (Slot × Stage) := if destroy then some (s, .teardown) else none
  if p.abortState ≠ .none then { w with lock := next }
  else if p.encoding then
    { w.setSession s { p with abortState := .init, stateChangePending := true } with
      lock := some (s, .abortWaiting destroy) }
  else { w.setSession s { p with abortState := .done } with lock := next }

def abortJob (id : Nat) (w : World) : World :=
  match w.jobQueue.find? (·.jobId = id) with
  | some n =>
    { w with
      jobQueue := w.jobQueue.eraseP (·.jobId = id)
      aborted := w.aborted ++ [n.job.serial] }
  | none =>
    match w.ongoingJobQ.find? (·.jobId = id) with
    | none => w
    | some n =>
      let w := { w with
        ongoingJobQ := w.ongoingJobQ.eraseP (·.jobId = id)
        aborted := w.aborted ++ [n.job.serial] }
      match getSession n.jobId with
      | none => w
      | some s => sessionAbort false s w

def removeJobs (id : Nat) (w : World) : World :=
  { w with
    jobQueue := w.jobQueue.filter fun n => n.encSessionId ≠ id
    ongoingJobQ := w.ongoingJobQ.filter fun n => n.encSessionId ≠ id
    aborted := w.aborted ++
      ((w.jobQueue ++ w.ongoingJobQ).filter fun n => n.encSessionId = id).map (·.job.serial) }

/-- `mm_jpegdec_destroy_session_by_id`, with `mm_jpegdec_destroy_session` up to the wait of its abort. -/
def destroySession (id : Nat) (w : World) : World :=
  match getSession id with
  | none => w
  | some s =>
    let p := { w.session s with silent := false }
    sessionAbort true s ((removeJobs p.sessionId w).setSession s p)

/-- `mm_jpegdec_process_decoding_job` up to `mm_jpegdec_session_decode`. Without a place in the ongoing queue it goes
on to `mm_jpegdec_job_done` with `ret` still `OMX_ErrorNone`. -/
def processDecodingJob (enq : Bool) (n : JobNode) (w : World) : World :=
  match getSession n.jobId with
  | none => w
  | some s =>
    if !enq then { w with lock := some (s, .jobDone) }
    else
      { w.onSession s fun p => { p with decodeJob := n.job, jobId := n.jobId, silent := false } with
        ongoingJobQ := w.ongoingJobQ ++ [n]
        lock := some (s, .begin) }

/-- One round of `mm_jpeg_jobmgr_thread` after `cam_sem_wait`; while a client has `job_lock` it waits for that,
unless there are too many jobs. -/
def jobmgrWake (enq : Bool) (w : World) : Option World :=
  if w.jobSem = 0 ∨ (w.lock.any fun x => x.2.byJobmgr) = true then none
  else
    let v := { w with jobSem := w.jobSem - 1 }
    if maxConcurrentJobs ≤ w.ongoingJobQ.length then some v
    else if w.lock ≠ none then none
    else match w.jobQueue with
      | [] => some v
      | n :: rest => some (processDecodingJob enq n { v with jobQueue := rest })

def advance (o : Outcome) (w : World) : Option World :=
  match w.lock with
  | none => none
  | some (s, .callback) => some { callback .error s w with lock := some (s, .jobDone) }
  | some (s, .jobDone) => some { jobDone s w with lock := none }
  | some (s, .removeSession) =>
    some { w.onSession (slotOf (w.session s).sessionId) fun p => { p with active := false } with
      jobSem := w.jobSem + 1
      lock := none }
  | some (s, st) =>
    if st.callsOmx && !(w.session s).omxHandle then none
    else ((w.session s).advance o st).map fun r =>
      { w.setSession s r.1 with lock := r.2.map (Prod.mk s) }

def fbd (s : Slot) (w : World) : Option World :=
  let p := w.session s
  if !p.omxHandle then none
  else
    let w := w.setSession s (p.answer .fillThisBuffer)
    if p.abortState ≠ .none then some w
    else if p.decParams.jpegCb then some (jobDone s (callback .done s w))
    else some w

def eventHandler (s : Slot) (e : OmxEvent) (w : World) : Option World :=
  let p := w.session s
  if !p.omxHandle then none
  else
    let w := w.setSession s ((p.hear e).note e)
    let w := if p.abortState ≠ .init ∧ e = .error ∧ p.encoding then jobDone s (callback .error s w) else w
    some (if p.abortState ≠ .init ∧ e = .other then w else w.signal s)

inductive Event
  | createSession (hdl : Nat) (params : DecodeParams) (getHandle : Bool)
  | startDecodeJob (job : DecodeJob) (node enq : Bool)
  | abortJob (id : Nat)
  | destroySession (id : Nat)
  | wake (enq : Bool)
  | advance (o : Outcome)
  | spurious
  | fbd (s : Slot)
  | omxEvent (s : Slot) (e : OmxEvent)

/-- A step of the run. The calls of the clients wait for `g_dec_intf_lock`, some of them for `job_lock` too;
`spurious` is a `pthread_cond_wait` that returns without a signal. -/
def step (w : World) : Event → Option World
  | .createSession hdl params getHandle =>
    if w.clientInside then none else some (createSession hdl params getHandle w).1
  | .startDecodeJob job node enq => if w.clientInside then none else some (startDecodeJob job node enq w).1
  | .abortJob id => if w.lock.isSome then none else some (abortJob id w)
  | .destroySession id => if w.lock.isSome then none else some (destroySession id w)
  | .wake enq => jobmgrWake enq w
  | .advance o => advance o w
  | .spurious => some { w with lock := w.lock.map fun x => (x.1, x.2.wake) }
  | .fbd s => fbd s w
  | .omxEvent s e => eventHandler s e w

end Jpeg.Decode
