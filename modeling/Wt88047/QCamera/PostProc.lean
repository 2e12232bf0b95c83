import Wt88047.Lib.Runs

/-! The queues of the post-processor and the frames that travel through them. -/

namespace Wt88047.PostProc

inductive Status
  | noError
  | unknownError
  | noMemory
  | badValue
  deriving DecidableEq

/-- A `mm_camera_super_buf_t` that the post-processor was given; `id` tells the structures apart. -/
structure SuperBuf where
  id : Nat
  chId : Nat
  deriving DecidableEq

/-- `qcamera_pp_data_t`. -/
structure PPJob where
  srcFrame : SuperBuf
  reprocFrameRelease : Bool := false
  deriving DecidableEq

/-- `qcamera_jpeg_data_t`. -/
structure JpegJob where
  jobId : Nat := 0
  srcFrame : SuperBuf
  srcReprocFrame : Option SuperBuf := none
  reprocFrameRelease : Bool := false
  deriving DecidableEq

structure ReprocChannel where
  handle : Nat
  source : Nat

/-- What was done with the frames: `bufDone` by their channel; `absent`, where `releaseSuperBuf`
found no channel; `withheld`, where `reproc_frame_release` kept it from being called; and `free`. -/
structure Ledger where
  bufDone : List Nat := []
  absent : List Nat := []
  withheld : List Nat := []
  freed : List Nat := []

namespace Ledger

def releaseSuperBuf (found : Nat → Bool) (f : SuperBuf) (g : Ledger) : Ledger :=
  if found f.chId then { g with bufDone := f.id :: g.bufDone }
  else { g with absent := f.id :: g.absent }

def free (f : SuperBuf) (g : Ledger) : Ledger :=
  { g with freed := f.id :: g.freed }

def giveBack (found : Nat → Bool) (f : SuperBuf) (g : Ledger) : Ledger :=
  (g.releaseSuperBuf found f).free f

def releaseSource (found : Nat → Bool) (keep : Bool) (f : SuperBuf) (g : Ledger) : Ledger :=
  (if keep then { g with withheld := f.id :: g.withheld } else g.releaseSuperBuf found f).free f

def releaseOngoingPPData (found : Nat → Bool) (j : PPJob) (g : Ledger) : Ledger :=
  g.releaseSource found j.reprocFrameRelease j.srcFrame

def releaseJpegJobData (found : Nat → Bool) (j : JpegJob) (g : Ledger) : Ledger :=
  (match j.srcReprocFrame with
    | none => g
    | some f => g.releaseSource found j.reprocFrameRelease f).giveBack found j.srcFrame

end Ledger

inductive Stage
  | save
  | abort
  | ongoingPP
  | inputJpeg
  | inputPP
  | inputRaw
  deriving DecidableEq

inductive Pc
  | idle
  | encoding (job : JpegJob)
  | raw
  | pp
  | reprocessing (job : PPJob)
  | stopping (stage : Stage)
  deriving DecidableEq

/-- `channels` are the handles of the parent's channels. `dataQ` lists the frames of the pending
snapshot notifications that carry one. `accepted` counts the frames taken so far, whose ids are
those below it, and `offline` are the frames that a regular capture had reprocessed offline. -/
structure World where
  inited : Bool := false
  active : Bool := false
  pc : Pc := .idle
  channels : List Nat := []
  reproc : Option ReprocChannel := none
  dual : Option ReprocChannel := none
  inputPPQ : List SuperBuf := []
  ongoingPPQ : List PPJob := []
  inputJpegQ : List JpegJob := []
  ongoingJpegQ : List JpegJob := []
  inputRawQ : List SuperBuf := []
  inputSaveQ : List Nat := []
  dataQ : List SuperBuf := []
  accepted : Nat := 0
  offline : List Nat := []
  ledger : Ledger := {}

/-- `QCameraQueue::enqueue`, whose result no caller here looks at. -/
def enqueue {α : Type} (node : Bool) (a : α) (q : List α) : List α :=
  if node then q ++ [a] else q

namespace World

/-- `releaseSuperBuf` looks for the channel in the parent and among the reprocess channels. -/
def found (w : World) (chId : Nat) : Bool :=
  w.channels.contains chId || w.reproc.any (·.handle == chId) || w.dual.any (·.handle == chId)

def onLedger (k : (Nat → Bool) → Ledger → Ledger) (w : World) : World :=
  { w with ledger := k w.found w.ledger }

def newFrame (w : World) (chId : Nat) : SuperBuf := ⟨w.accepted, chId⟩

def accept (w : World) : World := { w with accepted := w.accepted + 1 }

end World

structure DataInput where
  needReprocess : Bool
  nvFormat : Bool := false
  malloc : Bool := true
  node : Bool := true

def processRawData (chId : Nat) (node : Bool) (w : World) : World × Status :=
  if !w.inited then (w, .unknownError)
  else ({ w.accept with inputRawQ := enqueue node (w.newFrame chId) w.inputRawQ }, .noError)

def processData (chId : Nat) (d : DataInput) (w : World) : World × Status :=
  if !w.inited then (w, .unknownError)
  else if d.needReprocess then
    ({ w.accept with inputPPQ := enqueue d.node (w.newFrame chId) w.inputPPQ }, .noError)
  else if d.nvFormat then ((processRawData chId d.node w).1, .noError)
  else if !d.malloc then (w, .noMemory)
  else
    let job : JpegJob := { srcFrame := w.newFrame chId }
    ({ w.accept with inputJpegQ := enqueue d.node job w.inputJpegQ }, .noError)

structure PPInput where
  thumbFromMain : Bool := false
  nvFormat : Bool := false
  malloc : Bool := true
  node : Bool := true

def queueReprocessed (chId : Nat) (p : PPInput) (job : Option PPJob) (w : World) : World × Status :=
  if !p.malloc then (w, .noMemory)
  else
    let jpegJob : JpegJob := {
      srcFrame := w.newFrame chId
      srcReprocFrame := job.map (·.srcFrame)
      reprocFrameRelease := job.any (·.reprocFrameRelease) }
    ({ w.accept with inputJpegQ := enqueue p.node jpegJob w.inputJpegQ }, .noError)

def processPPData (chId : Nat) (p : PPInput) (w : World) : World × Status :=
  if !w.inited then (w, .unknownError)
  else match w.ongoingPPQ with
    | [] => if p.thumbFromMain then queueReprocessed chId p none w else (w, .badValue)
    | job :: rest =>
      let w := { w with ongoingPPQ := rest }
      if !p.thumbFromMain && p.nvFormat then
        processRawData chId p.node (w.onLedger fun found g => g.giveBack found job.srcFrame)
      else queueReprocessed chId p (some job) w

/-- `m_ongoingJpegQ.flushNodes(matchJobId, …)`. -/
def flushJob (jobId : Nat) (w : World) : World :=
  { w with
    ongoingJpegQ := w.ongoingJpegQ.filter (·.jobId != jobId)
    ledger := (w.ongoingJpegQ.filter (·.jobId == jobId)).foldl
      (fun g j => g.releaseJpegJobData w.found j) w.ledger }

structure JpegEvt where
  jobId : Nat
  /-- `mUseSaveProc` is set and the longshot enabled. -/
  save : Bool := false
  malloc : Bool := true
  node : Bool := true

def processJpegEvt (e : JpegEvt) (w : World) : World :=
  if !w.inited then w
  else if e.save then
    if e.malloc then { w with inputSaveQ := enqueue e.node e.jobId w.inputSaveQ } else w
  else flushJob e.jobId w

/-- `CAMERA_CMD_TYPE_DO_NEXT_JOB` in `dataSaveRoutine`. -/
def saveNext (w : World) : World :=
  match w.inputSaveQ with
  | [] => w
  | jobId :: rest => flushJob jobId { w with inputSaveQ := rest }

def releaseSaveJobData (jobId : Nat) (w : World) : World :=
  if jobId = 0 then w
  else match w.ongoingJpegQ with
    | [] => w
    | job :: rest =>
      { w with
        ongoingJpegQ := rest
        ledger := w.ledger.releaseJpegJobData w.found job }

/-- How the allocation in `sendDataNotify` and its call of `notifyCallback` end. In `unsent` the
notification is queued but the command for the notifier cannot be allocated. -/
inductive Notify
  | noArgm
  | refused
  | unsent
  | queued
  deriving DecidableEq

def releaseNotifyData (frame : Option SuperBuf) (w : World) : World :=
  match frame with
  | none => w
  | some f => w.onLedger fun found g => g.giveBack found f

def sendDataNotify (n : Notify) (frame : Option SuperBuf) (w : World) : World × Status :=
  match n with
  | .noArgm => (w, .noMemory)
  | .refused => (releaseNotifyData frame w, .unknownError)
  | .unsent =>
    (releaseNotifyData frame { w with dataQ := w.dataQ ++ frame.toList }, .unknownError)
  | .queued => ({ w with dataQ := w.dataQ ++ frame.toList }, .noError)

structure RawInput where
  snapshot : Bool := true
  memInfo : Bool := true
  memory : Bool := true
  zslMode : Bool := false
  compressed : Bool := true
  notify : Notify := .queued

def processRawImageImpl (o : RawInput) (f : SuperBuf) (w : World) : World × Status :=
  if !(w.channels.contains f.chId || w.reproc.any (·.handle == f.chId)) then (w, .badValue)
  else if !o.snapshot then (w, .badValue)
  else
    let zslChannelUsed := o.zslMode && w.channels.contains f.chId
    if !o.memInfo then (w, .unknownError)
    else if !o.memory then (w, if zslChannelUsed then .unknownError else .noMemory)
    else if !o.compressed then (w, .noError)
    else sendDataNotify o.notify (if zslChannelUsed then some f else none) w

structure PPOutcome where
  postponed : Bool := false
  regularCapture : Bool := false
  malloc : Bool := true
  bufs : Bool := true
  node : Bool := true

/-- `reprocess` finds the channel whose source the frame comes from. -/
def World.reprocessable (w : World) (f : SuperBuf) : Bool :=
  w.reproc.any (·.source == f.chId) || w.dual.any (·.source == f.chId)

/-! The commands of `dataProcessRoutine`. `CAMERA_CMD_TYPE_DO_NEXT_JOB` goes through the three input
queues and waits for the encoder and for the reprocess channel on the way. -/

def nextJpeg (node : Bool) (w : World) : World :=
  match w.inputJpegQ with
  | [] => { w with pc := .raw }
  | job :: rest =>
    if w.active then
      { w with
        inputJpegQ := rest
        ongoingJpegQ := enqueue node job w.ongoingJpegQ
        pc := .encoding job }
    else
      { w with
        inputJpegQ := rest
        ledger := w.ledger.releaseJpegJobData w.found job
        pc := .raw }

/-- `encodeData` returns, with the id of the job that it started or with an error. -/
def encoded (job : JpegJob) (started : Option Nat) (w : World) : World :=
  match started with
  | some jobId =>
    { w with
      ongoingJpegQ := w.ongoingJpegQ.map fun j =>
        if j.srcFrame = job.srcFrame then { j with jobId := jobId } else j
      pc := .raw }
  | none =>
    { w with
      ongoingJpegQ := w.ongoingJpegQ.dropLast
      ledger := w.ledger.releaseJpegJobData w.found job
      pc := .raw }

def nextRaw (o : RawInput) (w : World) : World :=
  match w.inputRawQ with
  | [] => { w with pc := .pp }
  | f :: rest =>
    let w := { w with inputRawQ := rest, pc := .pp }
    let r := if w.active then processRawImageImpl o f w else (w, .unknownError)
    if r.2 = .noError then r.1 else r.1.onLedger fun found g => g.giveBack found f

/-- `reprocess` up to the request to the channel. -/
def nextPP (o : PPOutcome) (w : World) : World :=
  match w.inputPPQ with
  | [] => { w with pc := .idle }
  | f :: rest =>
    if w.active && o.postponed then { w with pc := .idle }
    else
      let w := { w with inputPPQ := rest, pc := .idle }
      if !w.active || !o.malloc || w.reproc.isNone || !w.reprocessable f ||
          (o.regularCapture && !o.bufs) then
        w.onLedger fun found g => g.giveBack found f
      else
        let job : PPJob := { srcFrame := f, reprocFrameRelease := o.regularCapture }
        { w with
          ongoingPPQ := enqueue o.node job w.ongoingPPQ
          offline := if o.regularCapture then f.id :: w.offline else w.offline
          pc := .reprocessing job }

def reprocessed (job : PPJob) (ok : Bool) (w : World) : World :=
  if ok then { w with pc := .idle }
  else
    { w with
      ongoingPPQ := w.ongoingPPQ.dropLast
      ledger := w.ledger.giveBack w.found job.srcFrame
      pc := .idle }

/-- `CAMERA_CMD_TYPE_STOP_DATA_PROC` begins. `told` says that the command to the save thread, which
flushes its own queue first, could be allocated. -/
def stop (told : Bool) (w : World) : World :=
  { w with active := false, pc := .stopping (if told then .save else .abort) }

def stopNext (stage : Stage) (w : World) : World :=
  match stage with
  | .save => match w.inputSaveQ with
    | [] => { w with pc := .stopping .abort }
    | jobId :: rest => releaseSaveJobData jobId { w with inputSaveQ := rest }
  | .abort => match w.ongoingJpegQ with
    | [] => { w with reproc := none, dual := none, pc := .stopping .ongoingPP }
    | job :: rest =>
      { w with ongoingJpegQ := rest, ledger := w.ledger.releaseJpegJobData w.found job }
  | .ongoingPP =>
    { w with
      ongoingPPQ := []
      ledger := w.ongoingPPQ.foldl (fun g j => g.releaseOngoingPPData w.found j) w.ledger
      pc := .stopping .inputJpeg }
  | .inputJpeg =>
    { w with
      inputJpegQ := []
      ledger := w.inputJpegQ.foldl (fun g j => g.releaseJpegJobData w.found j) w.ledger
      pc := .stopping .inputPP }
  | .inputPP =>
    { w with
      inputPPQ := []
      ledger := w.inputPPQ.foldl (fun g f => g.giveBack w.found f) w.ledger
      pc := .stopping .inputRaw }
  | .inputRaw =>
    { w with
      inputRawQ := []
      ledger := w.inputRawQ.foldl (fun g f => g.giveBack w.found f) w.ledger
      pc := .idle }

/-- `start`, up to the command for the thread: the reprocess channels that are needed, each with the
handle it gets if it can be added and started. The result says whether the command is sent. -/
def start (source : Nat) (reproc dual : Option (Option Nat)) (w : World) : World × Bool :=
  if !w.inited then (w, false)
  else
    let w := match reproc with
      | none => w
      | some handle => { w with reproc := handle.map (⟨·, source⟩) }
    if reproc = some none then (w, false)
    else match w.reproc, dual with
      | some r, some handle =>
        ({ w with dual := handle.map (⟨·, r.handle⟩) }, handle.isSome)
      | _, _ => (w, true)

/-- `notified` and `flushNotified` are the notifier's: the next notification is delivered or dropped,
or all are. A command of the data thread may find any of the others between its steps. -/
inductive Event
  | init
  | deinit
  | addChannel (chId : Nat)
  | delChannel (chId : Nat)
  | start (source : Nat) (reproc dual : Option (Option Nat))
  | processData (chId : Nat) (d : DataInput)
  | processRawData (chId : Nat) (node : Bool)
  | processPPData (chId : Nat) (p : PPInput)
  | jpegEvt (e : JpegEvt)
  | saveNext
  | notified
  | flushNotified
  | startProc
  | nextJpeg (node : Bool)
  | encoded (started : Option Nat)
  | nextRaw (o : RawInput)
  | nextPP (o : PPOutcome)
  | reprocessed (ok : Bool)
  | stop (told : Bool)
  | stopNext

def step (w : World) : Event → Option World
  | .init => if w.inited then none else some { w with inited := true, active := false }
  | .deinit => if w.inited ∧ w.pc = .idle then some { w with inited := false } else none
  | .addChannel chId => some { w with channels := chId :: w.channels }
  | .delChannel chId => some { w with channels := w.channels.filter (· != chId) }
  | .start source reproc dual => some (PostProc.start source reproc dual w).1
  | .processData chId d => some (PostProc.processData chId d w).1
  | .processRawData chId node => some (PostProc.processRawData chId node w).1
  | .processPPData chId p => some (PostProc.processPPData chId p w).1
  | .jpegEvt e => some (processJpegEvt e w)
  | .saveNext => some (PostProc.saveNext w)
  | .notified => match w.dataQ with
    | [] => none
    | f :: rest => some (releaseNotifyData (some f) { w with dataQ := rest })
  | .flushNotified =>
    some { w with
      dataQ := []
      ledger := w.dataQ.foldl (fun g f => g.giveBack w.found f) w.ledger }
  | .startProc => if w.inited ∧ w.pc = .idle then some { w with active := true } else none
  | .nextJpeg node =>
    if w.inited ∧ w.pc = .idle then some (PostProc.nextJpeg node w) else none
  | .encoded started => match w.pc with
    | .encoding job => some (PostProc.encoded job started w)
    | _ => none
  | .nextRaw o => if w.pc = .raw then some (PostProc.nextRaw o w) else none
  | .nextPP o => if w.pc = .pp then some (PostProc.nextPP o w) else none
  | .reprocessed ok => match w.pc with
    | .reprocessing job => some (PostProc.reprocessed job ok w)
    | _ => none
  | .stop told => if w.inited ∧ w.pc = .idle then some (PostProc.stop told w) else none
  | .stopNext => match w.pc with
    | .stopping stage => some (PostProc.stopNext stage w)
    | _ => none

end Wt88047.PostProc
