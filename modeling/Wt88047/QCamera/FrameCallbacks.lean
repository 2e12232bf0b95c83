import Mathlib.Data.List.Perm.Basic
import Wt88047.QCamera.PostProcFrames

/-! The callbacks that the HAL sets on its streams and channels, and what each of them does with the buffers and
with the structure of the frame it is called with. -/

namespace Wt88047.FrameCallbacks

open PostProc

/-- What the callbacks ask of the object in `mem_info`: whether `getMemory` has memory for the buffer, and, where
it stands for buffers of the display, whether `mLocalFlag` says that the HAL has the buffer. -/
structure MemInfo where
  memory : Bool
  owned : Bool
  deriving DecidableEq

/-- `mm_camera_buf_def_t` -/
structure BufDef where
  bufIdx : Nat
  streamId : Nat
  frameIdx : Nat
  memInfo : Option MemInfo
  deriving DecidableEq

/-- The `mm_camera_super_buf_t` of a stream callback, with `bufs[0]`. -/
structure StreamFrame where
  cameraHandle : Nat
  buf : BufDef
  deriving DecidableEq

/-- The `mm_camera_super_buf_t` of a channel callback. -/
structure SuperBuf where
  cameraHandle : Nat
  chId : Nat
  bufs : List BufDef
  deriving DecidableEq

/-- `QCameraChannel` with the handles of its streams. -/
structure Channel where
  handle : Nat
  streams : List Nat
  deriving DecidableEq

/-- What the callbacks read of `QCamera2HardwareInterface`; `cameraHandle` is none while `mCameraHandle` is null,
and `needProcess` has both answers of `needProcessPreviewFrame`, which the callback without a display asks twice. -/
structure Hal where
  cameraHandle : Option Nat
  zsl : Option Channel
  snapshot : Option Channel
  video : Option Channel
  needProcess : Bool × Bool
  previewFrameSkip : Option (Nat × Nat)
  dataCb : Bool
  dataCbTimestamp : Bool
  previewFrameMsg : Bool
  videoFrameMsg : Bool
  lowPower : Bool
  dumpMetadata : Bool
  dualReprocess : Bool
  postproc : World

/-- How a `notifyCallback` ends: `refused` covers a notifier that is not active and one without memory for the
item; `unsent` is an item that was queued, whose command could not be sent. -/
inductive Notify
  | refused | sent | unsent
  deriving DecidableEq

/-- `rc == NO_ERROR` -/
def Notify.ok (n : Notify) : Bool := n = .sent

def Notify.queued (n : Notify) : Bool := n ≠ .refused

/-- The answers that the calls of one callback get: those of the display's window, of the notifier, of the `malloc`
for the copy of the frame, and what the post-processor reads and can allocate. -/
structure Answers where
  enqueueBuffer : Bool
  dequeued : Option Nat
  notify : Notify
  copy : Bool
  data : DataInput
  pp : PPInput

/-- What has become of the frame: the buffers returned by `bufDone`, those that the display, the application or
the post-processor have now, and how often the structure was freed. `fromDisplay` is an older buffer that came back
from the display and was returned. -/
structure Result where
  bufDone : List BufDef := []
  display : List BufDef := []
  application : List BufDef := []
  postproc : List BufDef := []
  fromDisplay : Option Nat := none
  freed : Nat := 0
  deriving DecidableEq

/-- The object if `userdata` is one and its camera is that of the frame. -/
def checkHal (hal : Option Hal) (cameraHandle : Nat) : Option Hal :=
  hal.filter fun h => h.cameraHandle = some cameraHandle

def checkChannel (ch : Option Channel) (chId : Nat) : Option Channel :=
  ch.filter fun c => c.handle = chId

/-- `mPreviewFrameSkipValid` with the range; the callback then forgets a range that has passed. -/
def Hal.skips (h : Hal) (frameIdx : Nat) : Bool :=
  h.previewFrameSkip.any fun range => range.1 ≤ frameIdx && frameIdx ≤ range.2

/-- `QCameraGrallocMemory::displayBuffer`: whether the display has taken the buffer, and which one it gave. -/
def displayBuffer (m : MemInfo) (a : Answers) : Bool × Option Nat :=
  if m.owned then (a.enqueueBuffer, a.dequeued) else (false, none)

/-- `preview_stream_cb_routine`. The preview callback to the application, which follows, has memory of its own. -/
def previewStreamCb (hal : Option Hal) (a : Answers) (f : StreamFrame) : Result :=
  match hal with
  | none => { freed := 1 }
  | some h =>
    match f.buf.memInfo with
    | none => { freed := 1 }
    | some m =>
      if !h.needProcess.1 then { bufDone := [f.buf], freed := 1 }
      else if h.skips f.buf.frameIdx then { bufDone := [f.buf], freed := 1 }
      else
        let (taken, dequeued) := displayBuffer m a
        { display := if taken then [f.buf] else [], fromDisplay := dequeued, freed := 1 }

/-- `nodisplay_preview_stream_cb_routine`. The item for the application has `returnStreamBuffer` to return the
buffer. -/
def nodisplayPreviewStreamCb (hal : Option Hal) (a : Answers) (f : StreamFrame) : Result :=
  match checkHal hal f.cameraHandle with
  | none => { freed := 1 }
  | some h =>
    if !h.needProcess.1 then { bufDone := [f.buf], freed := 1 }
    else if h.skips f.buf.frameIdx then { bufDone := [f.buf], freed := 1 }
    else if !f.buf.memInfo.any (·.memory) then { freed := 1 }
    else if h.needProcess.2 && h.dataCb && h.previewFrameMsg then
      { application := if a.notify.queued then [f.buf] else []
        bufDone := if a.notify.ok then [] else [f.buf]
        freed := 1 }
    else { bufDone := [f.buf], freed := 1 }

/-- `postview_stream_cb_routine` -/
def postviewStreamCb (hal : Option Hal) (f : StreamFrame) : Result :=
  if hal.isNone then { freed := 1 }
  else if f.buf.memInfo.isNone then { freed := 1 }
  else { bufDone := [f.buf], freed := 1 }

/-- `video_stream_cb_routine` -/
def videoStreamCb (hal : Option Hal) (a : Answers) (f : StreamFrame) : Result :=
  match checkHal hal f.cameraHandle with
  | none => { freed := 1 }
  | some h =>
    if f.buf.memInfo.any (·.memory) && h.dataCbTimestamp && h.videoFrameMsg then
      { application := if a.notify.queued then [f.buf] else []
        bufDone := if a.notify.ok then [] else [f.buf]
        freed := 1 }
    else { freed := 1 }

/-- `QCameraChannel::bufDone`: a buffer of no stream of the channel is passed over. -/
def Channel.bufDone (c : Channel) (f : SuperBuf) : Result :=
  { bufDone := f.bufs.filter fun b => c.streams.contains b.streamId }

/-- `processData` keeps the frame: it is in one of the queues then. -/
def takesData (d : DataInput) (w : World) : Bool :=
  w.inited && if d.needReprocess || d.nvFormat then d.node else d.malloc && d.node

/-- `processPPData` keeps the frame. -/
def takesPPData (p : PPInput) (w : World) : Bool :=
  w.inited && if w.ongoingPPQ.isEmpty then p.thumbFromMain && p.malloc && p.node
    else if !p.thumbFromMain && p.nvFormat then p.node else p.malloc && p.node

def sendData (h : Hal) (a : Answers) (f : SuperBuf) : Result :=
  { postproc := if takesData a.data h.postproc then f.bufs else [] }

def sendPPData (h : Hal) (a : Answers) (f : SuperBuf) : Result :=
  { postproc := if takesPPData a.pp h.postproc then f.bufs else [] }

def zslChannelCb (hal : Option Hal) (a : Answers) (f : SuperBuf) : Result :=
  match checkHal hal f.cameraHandle with
  | none => {}
  | some h =>
    match checkChannel h.zsl f.chId with
    | none => {}
    | some c => if !a.copy then c.bufDone f else sendData h a f

/-- `snapshot_channel_cb_routine`. For the dump of the metadata it looks at the snapshot channel again, even if the
frame comes from the video channel. -/
def snapshotChannelCb (hal : Option Hal) (a : Answers) (f : SuperBuf) : Result :=
  match checkHal hal f.cameraHandle with
  | none => { freed := 1 }
  | some h =>
    match checkChannel (if h.lowPower then h.video else h.snapshot) f.chId with
    | none => {}
    | some c =>
      if h.dumpMetadata && (checkChannel h.snapshot f.chId).isNone then {}
      else if !a.copy then c.bufDone f
      else sendData h a f

/-- `postproc_channel_cb_routine` -/
def postprocChannelCb (hal : Option Hal) (a : Answers) (f : SuperBuf) : Result :=
  match checkHal hal f.cameraHandle with
  | none => {}
  | some h => if !a.copy then {} else if h.dualReprocess then sendData h a f else sendPPData h a f

/-- `dual_reproc_channel_cb_routine` -/
def dualReprocChannelCb (hal : Option Hal) (a : Answers) (f : SuperBuf) : Result :=
  match checkHal hal f.cameraHandle with
  | none => {}
  | some h => if !a.copy then {} else sendPPData h a f

inductive Callback
  | preview (f : StreamFrame) | nodisplayPreview (f : StreamFrame) | postview (f : StreamFrame)
  | video (f : StreamFrame)
  | zsl (f : SuperBuf) | snapshot (f : SuperBuf) | postproc (f : SuperBuf) | dualReproc (f : SuperBuf)
  deriving DecidableEq

def Callback.run (cb : Callback) (hal : Option Hal) (a : Answers) : Result :=
  match cb with
  | .preview f => previewStreamCb hal a f
  | .nodisplayPreview f => nodisplayPreviewStreamCb hal a f
  | .postview f => postviewStreamCb hal f
  | .video f => videoStreamCb hal a f
  | .zsl f => zslChannelCb hal a f
  | .snapshot f => snapshotChannelCb hal a f
  | .postproc f => postprocChannelCb hal a f
  | .dualReproc f => dualReprocChannelCb hal a f

end Wt88047.FrameCallbacks
