import Wt88047.Jpeg.JpegObj

/-! The job manager thread and the OMX callbacks: a queued job is bound to a free session of its
chain, encoded, answered and taken off the ongoing queue. With the interface functions of the library they
make the steps of the whole: a client's calls, the rounds of the thread and the callbacks, in any order. -/

namespace Jpeg

open World

/-- `NUM_MAX_JPEG_CNCURRENT_JOBS`. -/
abbrev maxConcurrentJobs : Nat := 2

structure Done where
  handle : Bool := true
  outBuf : Bool := true
deriving DecidableEq

namespace World

def removeOngoing (w : World) (id : Nat) : World :=
  { w with ongoingJobQ := w.ongoingJobQ.eraseP (·.jobId = id) }

def enqHandle (w : World) (q : Nat) (s : Slot) : World :=
  w.onQueues q fun x => { x with handles := x.handles ++ [s] }

def enqOutBuf (w : World) (q buf : Nat) : World :=
  w.onQueues q fun x => { x with outBufs := x.outBufs ++ [buf] }

def deqHandle (w : World) (q : Nat) : World :=
  w.onQueues q fun x => { x with handles := x.handles.tail }

def deqOutBuf (w : World) (q : Nat) : World :=
  w.onQueues q fun x => { x with outBufs := x.outBufs.tail }

def post (w : World) : World := { w with jobSem := w.jobSem + 1 }

variable (w : World)

@[simp] theorem queues_onSession (s : Slot) (f : Session → Session) :
    (w.onSession s f).queues = w.queues := rfl

@[simp] theorem queues_removeOngoing (id : Nat) : (w.removeOngoing id).queues = w.queues := rfl

@[simp] theorem queues_post : w.post.queues = w.queues := rfl

@[simp] theorem queues_enqHandle (q r : Nat) (s : Slot) :
    (w.enqHandle q s).queues r =
      if r = q then { w.queues q with handles := (w.queues q).handles ++ [s] } else w.queues r := rfl

@[simp] theorem queues_enqOutBuf (q r buf : Nat) :
    (w.enqOutBuf q buf).queues r =
      if r = q then { w.queues q with outBufs := (w.queues q).outBufs ++ [buf] } else w.queues r := rfl

@[simp] theorem session_deqHandle (q : Nat) : (w.deqHandle q).session = w.session := rfl

@[simp] theorem session_deqOutBuf (q : Nat) : (w.deqOutBuf q).session = w.session := rfl

@[simp] theorem queues_deqHandle (q r : Nat) :
    (w.deqHandle q).queues r =
      if r = q then { w.queues q with handles := (w.queues q).handles.tail } else w.queues r := rfl

@[simp] theorem queues_deqOutBuf (q r : Nat) :
    (w.deqOutBuf q).queues r =
      if r = q then { w.queues q with outBufs := (w.queues q).outBufs.tail } else w.queues r := rfl

end World

/-- `mm_jpegenc_job_done`; without queues it follows a NULL pointer. -/
def jobDone (o : Done) (s : Slot) (w : World) : Option World :=
  let p := w.session s
  match p.queues with
  | none => none
  | some q =>
    let w := (w.removeOngoing p.jobId).onSession s fun p => { p with encoding := false }
    let w := if o.handle then w.enqHandle q s else w
    let w := if p.autoOutBuf ∧ o.outBuf then w.enqOutBuf q (p.encodeJob.dstIndex + 1).toNat else w
    some w.post

def callback (status : JobStatus) (s : Slot) (w : World) : World :=
  let p := w.session s
  if p.params.jpegCb then
    { w with
      answers := w.answers ++ [{ serial := p.encodeJob.serial, jobId := p.jobId, status := status }] }
  else w

structure TakeUp where
  enqHead : Bool := true
  enqOngoing : Bool := true
  configure : Configure := {}
  jobParams : Bool := true
  done : Done := {}

/-- The part of `mm_jpeg_session_encode` before `encoding` is set: the result is whether the
session is configured and has the job's parameters. -/
def beginEncode (o : TakeUp) (s : Slot) (w : World) : World × Bool :=
  let w := w.onSession s fun p => { p with abortState := .none, encoding := false }
  let p := w.session s
  match p.config, p.omxHandle with
  | false, some h =>
    let r := configureSession o.configure s h w
    (r.1, r.2 && o.jobParams)
  | _, _ => (w, o.jobParams)

def bindJob (n : JobNode) (s : Slot) (w : World) : World :=
  { w with ongoingJobQ := w.ongoingJobQ ++ [n] }.onSession s fun p =>
    { p with encodeJob := n.job, jobId := n.jobId }

/-- The end of `mm_jpeg_process_encoding_job`, from the ongoing queue on, up to the buffers that
`mm_jpeg_session_encode` hands to OMX. -/
def startEncode (o : TakeUp) (n : JobNode) (s : Slot) (w : World) : Option World :=
  if !o.enqOngoing then jobDone o.done s w
  else
    let r := beginEncode o s (bindJob n s w)
    if r.2 then
      some { r.1.onSession s fun p => { p with encoding := true } with inEncode := some s }
    else jobDone o.done s (callback .error s r.1)

/-- `mm_jpeg_process_encoding_job`. An index in `out_buf_q` is one more than that of its buffer. -/
def processEncodingJob (o : TakeUp) (n : JobNode) (w : World) : Option World :=
  match getSession n.jobId with
  | none => some w
  | some s₀ =>
    match (w.session s₀).queues with
    | none => none
    | some q =>
      match (w.queues q).handles with
      | [] => some (if o.enqHead then { w with jobQueue := n :: w.jobQueue } else w)
      | s :: _ =>
        let w := (w.deqHandle q).onSession s fun p => { p with autoOutBuf := false }
        if 0 ≤ n.job.dstIndex then startEncode o n s w
        else match (w.session s).queues with
          | none => none
          | some q =>
            match (w.queues q).outBufs.headD 0 with
            | 0 => some (w.deqOutBuf q)
            | buf + 1 =>
              startEncode o { n with job := { n.job with dstIndex := buf } } s
                ((w.deqOutBuf q).onSession s fun p => { p with autoOutBuf := true })

def jobmgrWake (o : TakeUp) (w : World) : Option World :=
  if w.jobSem = 0 ∨ w.inEncode ≠ none then none
  else
    let w := { w with jobSem := w.jobSem - 1 }
    if maxConcurrentJobs ≤ w.ongoingJobQ.length then some w
    else match w.jobQueue with
      | [] => some w
      | n :: rest => processEncodingJob o n { w with jobQueue := rest }

/-- The end of `mm_jpeg_session_encode`: whether OMX took the input and output buffers. -/
def encodeSubmit (taken : Bool) (o : Done) (w : World) : Option World :=
  match w.inEncode with
  | none => none
  | some s =>
    let w := { w with inEncode := none }
    if taken then some w else jobDone o s (callback .error s w)

/-- `mm_jpeg_fbd`; OMX calls it for a session that has a handle. -/
def fbd (s : Slot) (o : Done) (w : World) : Option World :=
  let p := w.session s
  if p.omxHandle = none then none
  else if p.abortState ≠ .none then
    some (w.onSession s fun p => { p with abortState := .done })
  else if p.params.jpegCb then jobDone o s (callback .done s w)
  else some w

inductive OmxEvent where
  | error (e : OmxError)
  | cmdComplete
deriving DecidableEq

def eventHandler (s : Slot) (e : OmxEvent) (o : Done) (w : World) : Option World :=
  let p := w.session s
  if p.omxHandle = none then none
  else if p.abortState = .init then
    some (w.onSession s fun p => { p with abortState := .done })
  else match e with
    | .error e =>
      let w := w.onSession s fun p => { p with errorFlag := e }
      if p.encoding then jobDone o s (callback .error s w) else some w
    | .cmdComplete =>
      some (w.onSession s fun p => { p with stateChangePending := false })

structure Reply where
  rc : Int := 0
  value : Nat := 0
deriving DecidableEq

/-- `mm_jpeg_deinit` with the `free` of the object. -/
def deinit (w : World) : World :=
  { w with
    opened := false, numClients := 0, client := fun _ => {}, session := fun _ => {}, numSessions := 0
    work := {}, jobSem := 0, jobQueue := [], ongoingJobQ := [], issued := [] }

/-- `jpeg_open`; `init` tells whether the object can be made and `mm_jpeg_init` returns 0. -/
def jpegOpen (init : Bool) (w : World) : World × Reply :=
  if !w.opened ∧ !init then (w, {})
  else
    let r := newClient { w with opened := true }
    if r.2 = 0 ∧ r.1.numClients = 0 then (deinit r.1, {}) else (r.1, { value := r.2 })

def intfClose (hdl : Nat) (w : World) : World × Reply :=
  if hdl = 0 then (w, { rc := -1 })
  else if !w.opened then (w, { rc := -1 })
  else
    let r := Jpeg.close hdl w
    let w : World := { r.1 with numClients := r.1.numClients - 1 }
    if r.2 = 0 ∧ w.numClients = 0 then (deinit w, {}) else (w, { rc := r.2 })

def intfCreateSession (count hdl : Nat) (params : EncodeParams) (o : Creation) (w : World) :
    World × Reply :=
  if hdl = 0 then (w, { rc := -1 })
  else if !w.opened then (w, { rc := -1 })
  else
    let r := createSession count hdl params o w
    (r.1, { rc := r.2.1, value := r.2.2 })

/-- `mm_jpeg_intf_destroy_session` with `mm_jpeg_destroy_session_by_id`. -/
def intfDestroySession (id : Nat) (o : Slot → Teardown) (w : World) : Option (World × Reply) :=
  if id = 0 then some (w, { rc := -1 })
  else if !w.opened then some (w, { rc := -1 })
  else match getSession id with
    | none => some (w, {})
    | some s => (destroySession o s w).map fun w => (w, {})

/-- `mm_jpeg_intf_start_job`; `none` is a NULL `job`. -/
def intfStartJob (count : Nat) (job : Option EncodeJob) (o : Start) (w : World) : World × Reply :=
  match job with
  | none => (w, { rc := -1 })
  | some job =>
    if !w.opened then (w, { rc := -1 })
    else
      let r := startJob count job o w
      (r.1, { rc := r.2.1, value := r.2.2 })

def intfAbortJob (id : Nat) (w : World) : World × Reply :=
  if id = 0 then (w, { rc := -1 })
  else if !w.opened then (w, { rc := -1 })
  else
    let r := abortJob id w
    (r.1, { rc := r.2 })

inductive Call where
  | open (init : Bool)
  | close (hdl : Nat)
  | createSession (hdl : Nat) (params : EncodeParams) (o : Creation)
  | destroySession (id : Nat) (o : Slot → Teardown)
  | startJob (job : Option EncodeJob) (o : Start)
  | abortJob (id : Nat)

/-- The calls that take `job_lock` wait while the job manager holds it. -/
def Call.locks : Call → Bool
  | .close _ | .destroySession .. | .abortJob _ => true
  | _ => false

def call (count : Nat) (w : World) (c : Call) : Option (World × Reply) :=
  if c.locks ∧ w.inEncode ≠ none then none
  else match c with
    | .open init => some (jpegOpen init w)
    | .close hdl => some (intfClose hdl w)
    | .createSession hdl params o => some (intfCreateSession count hdl params o w)
    | .destroySession id o => intfDestroySession id o w
    | .startJob job o => some (intfStartJob count job o w)
    | .abortJob id => some (intfAbortJob id w)

inductive Event where
  | call (c : Call)
  | wake (o : TakeUp)
  | submit (taken : Bool) (o : Done)
  | fillBufferDone (s : Slot) (o : Done)
  | omxEvent (s : Slot) (e : OmxEvent) (o : Done)

def step (count : Nat) (w : World) : Event → Option World
  | .call c => (call count w c).map Prod.fst
  | .wake o => jobmgrWake o w
  | .submit taken o => encodeSubmit taken o w
  | .fillBufferDone s o => fbd s o w
  | .omxEvent s e o => eventHandler s e o w

/-- What a call that does not wait has done, where a refused one leaves everything as it was. -/
inductive CallEffect (count : Nat) (w : World) : Call → World → Prop
  | refused (c : Call) : CallEffect count w c w
  | opened (init : Bool) : CallEffect count w (.open init) (jpegOpen init w).1
  | closed (hdl : Nat) : CallEffect count w (.close hdl) (intfClose hdl w).1
  | created {hdl : Nat} (params : EncodeParams) (o : Creation) (hz : hdl ≠ 0)
    (ho : w.opened ≠ false) :
    CallEffect count w (.createSession hdl params o) (createSession count hdl params o w).1
  | destroyed {id : Nat} {o : Slot → Teardown} {w' : World} (hz : id ≠ 0) (ho : w.opened ≠ false)
    (hv : validIdx id = true) (hd : destroySession o (slotOf id) w = some w') :
    CallEffect count w (.destroySession id o) w'
  | started (job : EncodeJob) (o : Start) (ho : w.opened ≠ false) :
    CallEffect count w (.startJob (some job) o) (startJob count job o w).1
  | aborted {id : Nat} (hz : id ≠ 0) (ho : w.opened ≠ false) :
    CallEffect count w (.abortJob id) (abortJob id w).1

theorem call_effect {count : Nat} {w w' : World} {c : Call} {r : Reply}
    (h : call count w c = some (w', r)) : CallEffect count w c w' := by
  have hopen (ho : ¬(!w.opened) = true) : w.opened ≠ false := fun h => ho (by rw [h]; rfl)
  unfold call at h
  split_ifs at h
  cases c with
  | «open» init =>
    obtain rfl := congrArg Prod.fst (Option.some.inj h)
    exact .opened init
  | close hdl =>
    obtain rfl := congrArg Prod.fst (Option.some.inj h)
    exact .closed hdl
  | createSession hdl params o =>
    obtain rfl := congrArg Prod.fst (Option.some.inj h)
    unfold intfCreateSession
    split_ifs with hz ho
    · exact .refused _
    · exact .refused _
    · exact .created params o hz (hopen ho)
  | destroySession id o =>
    change intfDestroySession id o w = _ at h
    unfold intfDestroySession getSession at h
    split_ifs at h with hz ho hv
    · obtain rfl := congrArg Prod.fst (Option.some.inj h)
      exact .refused _
    · obtain rfl := congrArg Prod.fst (Option.some.inj h)
      exact .refused _
    · obtain ⟨v, hd, he⟩ := Option.map_eq_some_iff.mp h
      obtain rfl := congrArg Prod.fst he
      exact .destroyed hz (hopen ho) hv hd
    · obtain rfl := congrArg Prod.fst (Option.some.inj h)
      exact .refused _
  | startJob job o =>
    obtain rfl := congrArg Prod.fst (Option.some.inj h)
    cases job with
    | none => exact .refused _
    | some job =>
      unfold intfStartJob
      split_ifs with ho
      · exact .refused _
      · exact .started job o (hopen ho)
  | abortJob id =>
    obtain rfl := congrArg Prod.fst (Option.some.inj h)
    unfold intfAbortJob
    split_ifs with hz ho
    · exact .refused _
    · exact .refused _
    · exact .aborted hz (hopen ho)

end Jpeg
