import Mathlib.Data.List.Basic

/-! `takePicture` with everything it adds, starts and queues, and every step that can fail. A result
is the state and whether the status is `NO_ERROR`. -/

namespace Wt88047.TakePicture

inductive JobVar
  | metadata
  | postview
  | snapshot
  | rawdata
  | reproc
  deriving DecidableEq

/-- A deferred job; that of `mReprocJob` starts the post-processor, all others allocate buffers. -/
structure Job where
  var : JobVar
  ch : Nat
  deriving DecidableEq

structure Channel where
  id : Nat
  started : Bool := false
  deriving DecidableEq

/-- `postproc` tells that some part of the post-processor is started, `fpsAdjusted` that the
backend runs with the frame rate for the capture. -/
structure Hwi where
  capture : Option Channel := none
  raw : Option Channel := none
  postproc : Bool := false
  jobs : List Job := []
  fpsAdjusted : Bool := false
  fpsReconfigure : Bool := false
  channels : Nat := 0
  deriving DecidableEq

/-- What the parameters, the capabilities and the properties say. `jpegFormat` covers JPEG, NV16
and NV21, `oneSnapshot` is `numOfSnapshotsExpected() == 1`. -/
structure Config where
  zslMode : Bool := false
  zslChannel : Bool := true
  jpegFormat : Bool := true
  longshot : Bool := false
  prepSnapRun : Bool := false
  recordingHint : Bool := false
  rawYuv : Bool := false
  oneSnapshot : Bool := true
  lowPowerModeSupported : Bool := true
  thermalAdjusted : Bool := false
  ubiFocus : Bool := false
  ubiRefocus : Bool := false
  multiTouchFocus : Bool := false
  optiZoom : Bool := false
  fssr : Bool := false
  hdr : Bool := false
  chromaFlash : Bool := false
  aeBracket : Bool := false

/-- How `QCameraPostProcessor::start` ends: with success, with an error before anything is started,
or with one after it (the second reprocess channel or the JPEG session). -/
inductive PpStart
  | ok
  | failed
  | left
  deriving DecidableEq

/-- The steps of `addStreamToChannel`: the stream info buffer, `addStream`, a free job slot. -/
structure StreamOutcome where
  info : Bool := true
  addStream : Bool := true
  slot : Bool := true

/-- What succeeds. `second` is the postview or preview stream. `ahead` is the number of deferred jobs
that nobody has waited for and that the thread has ended when a channel is deleted, or by the
return. -/
structure Outcome where
  adjustFps : Bool := true
  ppStart : PpStart := .ok
  startAdvanced : Bool := true
  zslTake : Bool := true
  newChannel : Bool := true
  init : Bool := true
  metadata : StreamOutcome := {}
  second : StreamOutcome := {}
  snapshot : StreamOutcome := {}
  rawStream : StreamOutcome := {}
  postviewSlot : Bool := true
  config : Bool := true
  reprocSlot : Bool := true
  start : Bool := true
  longShot : Bool := true
  ahead : Nat := 0

namespace Config

def advanced (c : Config) : Bool :=
  c.ubiFocus || c.ubiRefocus || c.multiTouchFocus || c.optiZoom || c.hdr || c.fssr ||
    c.chromaFlash || c.aeBracket

def isAdvCamFeaturesEnabled (c : Config) : Bool :=
  c.ubiFocus || c.chromaFlash || c.optiZoom || c.ubiRefocus || c.hdr || c.fssr || c.multiTouchFocus

def captureAdvanced (c : Config) : Bool := c.ubiFocus || c.ubiRefocus || c.chromaFlash

def needAdjustFPS (c : Config) : Bool :=
  (c.zslMode && !c.prepSnapRun && c.oneSnapshot && !c.longshot && !c.isAdvCamFeaturesEnabled) &&
    c.lowPowerModeSupported && !c.thermalAdjusted

def deferred (c : Config) : Bool := !c.zslMode && !c.longshot && !c.recordingHint

end Config

namespace Hwi

def startPostproc (o : PpStart) (s : Hwi) : Hwi :=
  if o = .failed then s else { s with postproc := true }

def stopPostproc (s : Hwi) : Hwi := { s with postproc := false }

def run (o : Outcome) (n : Nat) (s : Hwi) : Hwi :=
  let s' := { s with jobs := s.jobs.drop n }
  if (s.jobs.take n).any fun j => j.var = .reproc then s'.startPostproc o.ppStart else s'

def upTo (v : JobVar) : List Job → Nat
  | [] => 0
  | j :: rest => if upTo v rest = 0 then if j.var = v then 1 else 0 else upTo v rest + 1

def waitDefferedWork (o : Outcome) (v : JobVar) (s : Hwi) : Hwi := s.run o (upTo v s.jobs)

/-- `queueDefferedWork`, whose id goes to `v`. -/
def queueDefferedWork (v : JobVar) (ch : Nat) (slot : Bool) (s : Hwi) : Hwi × Bool :=
  if slot then ({ s with jobs := s.jobs ++ [⟨v, ch⟩] }, true) else (s, false)

def waitStreams (o : Outcome) (s : Hwi) : Hwi :=
  (((s.waitDefferedWork o .metadata).waitDefferedWork o .postview).waitDefferedWork o
    .snapshot).waitDefferedWork o .rawdata

/-- `addStreamToChannel`; `v` is where it puts the id of a deferred job, if the stream has one. -/
def addStreamToChannel (c : Config) (o : Outcome) (x : StreamOutcome) (v : Option JobVar) (ch : Nat)
    (s : Hwi) : Hwi × Bool :=
  if !x.info then (s, false)
  else if !x.addStream then (s.waitStreams o, false)
  else
    match v with
    | none => (s, true)
    | some v =>
      if !c.deferred then (s, true)
      else if x.slot then s.queueDefferedWork v ch true
      else (s.waitStreams o, false)

/-- `delete` of a channel that was made in this call and is in no slot: the thread may have got
ahead with jobs. -/
def deleteNew (o : Outcome) (s : Hwi) : Hwi := s.run o o.ahead

def delCapture (s : Hwi) : Hwi := { s with capture := none }

def delRaw (s : Hwi) : Hwi := { s with raw := none }

def addCaptureStreams (c : Config) (o : Outcome) (ch : Nat) (s : Hwi) : Hwi × Bool :=
  let r := s.addStreamToChannel c o o.metadata (some .metadata) ch
  if !r.2 then r else
  let r := r.1.addStreamToChannel c o o.second none ch
  if !r.2 then r else
  let r := r.1.addStreamToChannel c o o.snapshot (some .snapshot) ch
  if !r.2 then r else
  if c.rawYuv then r.1.addStreamToChannel c o o.rawStream (some .rawdata) ch else r

def addCaptureChannel (c : Config) (o : Outcome) (s : Hwi) : Hwi × Bool :=
  let s := { s with capture := none }
  if !o.newChannel then (s, false)
  else
    let ch := s.channels
    let s := { s with channels := s.channels + 1 }
    if !o.init then (s.deleteNew o, false)
    else
      let r := s.addCaptureStreams c o ch
      if r.2 then ({ r.1 with capture := some ⟨ch, false⟩ }, true) else (r.1.deleteNew o, false)

def addRawChannel (c : Config) (o : Outcome) (s : Hwi) : Hwi × Bool :=
  let s := { s with raw := none }
  if !o.newChannel then (s, false)
  else
    let ch := s.channels
    let s := { s with channels := s.channels + 1 }
    if !o.init then (s.deleteNew o, false)
    else
      let r := s.addStreamToChannel c o o.metadata (some .metadata) ch
      if !r.2 then (r.1.deleteNew o, false)
      else
        let s := r.1.waitDefferedWork o .metadata
        let r := s.addStreamToChannel c o o.rawStream (some .rawdata) ch
        if !r.2 then (r.1.deleteNew o, false)
        else ({ r.1.waitDefferedWork o .rawdata with raw := some ⟨ch, false⟩ }, true)

def takeZsl (c : Config) (o : Outcome) (s : Hwi) : Hwi × Bool :=
  let s := { s with
    fpsReconfigure := c.needAdjustFPS
    fpsAdjusted := if c.needAdjustFPS then o.adjustFps || s.fpsAdjusted else s.fpsAdjusted }
  if !c.zslChannel then (s, false)
  else
    let s := s.startPostproc o.ppStart
    if o.ppStart ≠ .ok then (s, false)
    else if c.advanced && !o.startAdvanced then (s, false)
    else if o.zslTake then (s, true) else (s.stopPostproc, false)

def startCapture (c : Config) (o : Outcome) (ch : Channel) (s : Hwi) : Hwi × Bool :=
  if !o.config then (s.delCapture, false)
  else
    let s := (s.queueDefferedWork .reproc ch.id o.reprocSlot).1
    if !o.start then ((s.waitDefferedWork o .reproc).delCapture, false)
    else
      let s := { s with capture := some { ch with started := true } }
      if c.captureAdvanced && !o.startAdvanced then (s.run o o.ahead, false)
      else if c.longshot && !o.longShot then ((s.waitDefferedWork o .reproc).delCapture, false)
      else (s.run o o.ahead, true)

def allocatePostview (o : Outcome) (ch : Channel) (s : Hwi) : Hwi × Bool :=
  let s := ((s.waitDefferedWork o .snapshot).waitDefferedWork o .metadata).waitDefferedWork o .rawdata
  let r := s.queueDefferedWork .postview ch.id o.postviewSlot
  (r.1.waitDefferedWork o .postview, r.2)

def takeCapture (c : Config) (o : Outcome) (s : Hwi) : Hwi × Bool :=
  let r := s.addCaptureChannel c o
  if !r.2 then r
  else
    match r.1.capture with
    | none => (r.1, false)
    | some ch =>
      if c.longshot then r.1.startCapture c o ch
      else
        let r := r.1.allocatePostview o ch
        if !r.2 then r else r.1.startCapture c o ch

def takeRaw (c : Config) (o : Outcome) (s : Hwi) : Hwi × Bool :=
  let r := s.addRawChannel c o
  if !r.2 then r
  else
    let s := r.1.startPostproc o.ppStart
    if o.ppStart ≠ .ok then (s.delRaw, false)
    else if o.config && o.start then
      ({ s with raw := s.raw.map fun ch => { ch with started := true } }, true)
    else (s.stopPostproc.delRaw, false)

def takePicture (c : Config) (o : Outcome) (s : Hwi) : Hwi × Bool :=
  if c.zslMode then s.takeZsl c o
  else if c.jpegFormat then s.takeCapture c o
  else s.takeRaw c o

end Hwi

/-- No capture or raw channel, no part of the post-processor started, no deferred job, and the frame
rate as it was. -/
structure Clean (s : Hwi) : Prop where
  capture : s.capture = none
  raw : s.raw = none
  postproc : s.postproc = false
  jobs : s.jobs = []
  fps : s.fpsAdjusted = false

def StreamOutcome.ok (job : Bool) (x : StreamOutcome) : Bool := x.info && x.addStream && (!job || x.slot)

def rawAdded (c : Config) (o : Outcome) : Bool :=
  o.newChannel && o.init && o.metadata.ok c.deferred && o.rawStream.ok c.deferred

def streamsAdded (c : Config) (o : Outcome) : Bool :=
  o.metadata.ok c.deferred && o.second.ok false && o.snapshot.ok c.deferred &&
    (!c.rawYuv || o.rawStream.ok c.deferred)

def captureAdded (c : Config) (o : Outcome) : Bool := o.newChannel && o.init && streamsAdded c o

def unwaited (c : Config) (o : Outcome) : Nat :=
  if c.deferred && o.metadata.ok true then
    if !o.second.info then 1
    else if !o.second.addStream then 0
    else if !o.snapshot.info then 1
    else if o.snapshot.ok true && c.rawYuv && !o.rawStream.info then 2
    else 0
  else 0

def ppByJob (o : Outcome) : Prop := o.reprocSlot = true ∧ o.ppStart ≠ .failed

/-- Once the frame rate is adjusted no step fails; the post-processor does not fail half-way; and
the advanced capture starts. -/
structure ZslSound (c : Config) (o : Outcome) : Prop where
  fps : c.needAdjustFPS = true → o.adjustFps = true → c.zslChannel = true ∧ o.ppStart = .ok ∧
    (c.advanced = true → o.startAdvanced = true) ∧ o.zslTake = true
  half : c.zslChannel = true → o.ppStart ≠ .left
  advanced : c.zslChannel = true → o.ppStart = .ok → c.advanced = true → o.startAdvanced = true

/-- The thread has ended the jobs of a channel that is deleted because an information buffer cannot
be allocated; there is a slot for the job of the postview stream; the advanced capture starts; and
where the start of the channel or of the long shot fails, the post-processor was not started. -/
structure CaptureSound (c : Config) (o : Outcome) : Prop where
  unwaited : o.newChannel = true → o.init = true → unwaited c o ≤ o.ahead
  postview : captureAdded c o = true → c.longshot = false → o.postviewSlot = true
  start : captureAdded c o = true → o.config = true → o.start = false → ¬ppByJob o
  advanced : captureAdded c o = true → o.config = true → o.start = true →
    c.captureAdvanced = true → o.startAdvanced = true
  longShot : captureAdded c o = true → o.config = true → o.start = true → c.longshot = true →
    o.longShot = false → ¬ppByJob o

def Sound (c : Config) (o : Outcome) : Prop :=
  if c.zslMode then ZslSound c o
  else if c.jpegFormat then CaptureSound c o
  else rawAdded c o = true → o.ppStart ≠ .left

end Wt88047.TakePicture
