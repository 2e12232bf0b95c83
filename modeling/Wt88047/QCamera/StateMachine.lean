import Wt88047.Lib.Runs
import Mathlib.Algebra.Order.Ring.Nat

/-! The state machine of the camera HAL. Its thread takes one event at a time; what the handlers ask
of the hardware interface, and what that answers, is logged with the results that they signal. -/

namespace Wt88047.QCamera

inductive Evt
  | setPreviewWindow | setCallbacks | enableMsgType | disableMsgType | msgTypeEnabled
  | setParams | getParams | putParams
  | startPreview | startNodisplayPreview | stopPreview | previewEnabled
  | storeMetadataInBufs | startRecording | stopRecording | recordingEnabled | releaseRecoridngFrame
  | prepareSnapshot | takePicture | cancelPicture
  | startAutoFocus | stopAutoFocus | sendCommand
  | release | dump | regFaceImage
  | evtInternal | evtNotify | jpegEvtNotify | snapshotDone | thermalNotify | stopCaptureChannel
  | restartPerview
  deriving DecidableEq

inductive InternalEvt
  | focusUpdate | prepSnapshotDone | faceDetectResult | histogramStats | cropInfo
  | asdUpdate | awbUpdate | aeUpdate | focusPosUpdate
  deriving DecidableEq

inductive ServerEvt
  | reprocessStageDone | daemonDied | other
  deriving DecidableEq

inductive Command
  | longshotOn | longshotOff | other
  deriving DecidableEq

inductive State
  | previewStopped | previewReady | previewing | prepareSnapshot | picTaking | recording
  | videoPicTaking | previewPicTaking
  deriving DecidableEq

def State.next : State → List State
  | .previewStopped => [.previewStopped, .previewReady, .previewing]
  | .previewReady => [.previewReady, .previewing, .previewStopped]
  | .previewing =>
    [.previewing, .previewStopped, .prepareSnapshot, .picTaking, .previewPicTaking, .recording]
  | .prepareSnapshot => [.prepareSnapshot, .previewing]
  | .picTaking => [.picTaking, .previewing, .previewStopped]
  | .recording => [.recording, .videoPicTaking, .previewing, .previewStopped]
  | .videoPicTaking => [.videoPicTaking, .recording, .previewing, .previewStopped]
  | .previewPicTaking =>
    [.previewPicTaking, .videoPicTaking, .picTaking, .previewing, .previewStopped]

/-- `qcamera_ch_type_enum_t`, the channels that carry preview or video. -/
inductive ChType
  | zsl | preview | video
  deriving DecidableEq

inductive Op
  | setPreviewWindow | setCallBacks | enableMsgType | disableMsgType | msgTypeEnabled
  | updateParameters | clearMemoryPool | commitParameterChanges | getParameters | putParameters
  | preparePreview | startPreview | stopPreview | unpreparePreview
  | storeMetaDataInBuffers | dump | sendCommand | registerFaceImage | updateThermalLevel
  | autoFocus | cancelAutoFocus | release | closeNativeHandle | releaseRecordingFrame
  | updateRecordingHintValue (value : Bool) | linkStream | stopRecording
  | prepareHardwareForSnapshot | takePicture | longShot | cancelPicture
  | stopCaptureChannel (destroy : Bool) | setPreviewStarted
  | takeLiveSnapshot | cancelLiveSnapshot
  | startChannel (ch : ChType) | stopChannel (ch : ChType) | delChannel (ch : ChType)
  | processAutoFocusEvent | processPrepSnapshotDoneEvent | processFaceDetectionResult
  | processHistogramStats | processZoomEvent | processASDUpdate | processAWBUpdate
  | processAEInfo | processFocusPositionInfo | processJpegNotify
  | setMultipleStages | playShutter | sendEvtNotify
  deriving DecidableEq

def noError : Int := 0
/-- `-ENOSYS` -/
def invalidOperation : Int := -38
/-- `-EINVAL` -/
def badValue : Int := -22

/-- `result_type`, with the member of the union that it selects. -/
inductive ApiData
  | default
  | enableFlag (enabled : Int)
  | params (text : Nat)
  | handle (id : Int)
  deriving DecidableEq

/-- `qcamera_api_result_t` -/
structure ApiResult where
  status : Int
  requestApi : Evt
  data : ApiData
  deriving DecidableEq

inductive Effect
  | call (op : Op) (rc : Int)
  | signalAPIResult (result : ApiResult)
  | signalEvtResult (result : ApiResult)
  deriving DecidableEq

structure Payload where
  cmd : Command
  evtType : InternalEvt
  serverEventType : ServerEvt
  deriving DecidableEq

/-- What the hardware interface answers while one event is handled. `arg1` is the argument of
`sendCommand` as that leaves it; `metaStream` tells that low power mode is on and the preview
channel has a metadata stream. -/
structure Parent where
  rc : Op → Int
  enabled : Int
  params : Nat
  faceId : Int
  arg1 : Option Evt
  previewWindow : Bool
  needRestart : Bool
  recordingHint : Bool
  zslMode : Bool
  longshotEnabled : Bool
  previewRestart : Bool
  multipleStages : Bool
  longshotSnapLimited : Bool
  captureShutter : Bool
  metaStream : Bool

structure Input where
  evt : Evt
  payload : Payload
  parent : Parent

/-- `QCameraStateMachine`: `m_state`, and all that its thread has done so far. -/
structure QCameraStateMachine where
  mState : State
  log : List Effect
  deriving DecidableEq

namespace Parent

/-- Camera mode with a window, all calls returning what `rc` says. -/
def plain (rc : Op → Int) : Parent where
  rc := rc
  enabled := 0
  params := 0
  faceId := 0
  arg1 := none
  previewWindow := true
  needRestart := false
  recordingHint := false
  zslMode := false
  longshotEnabled := false
  previewRestart := false
  multipleStages := false
  longshotSnapLimited := false
  captureShutter := false
  metaStream := false

variable (p : Parent)

def previewRc : Int :=
  if p.rc .preparePreview = noError then p.rc .startPreview else p.rc .preparePreview

def recordingPreviewRc : Int :=
  if p.recordingHint then noError
  else if p.rc .preparePreview = noError then p.rc (.startChannel .preview)
  else p.rc .preparePreview

def recordingLinkRc : Int := if p.metaStream then p.rc .linkStream else p.recordingPreviewRc

def startRecordingRc : Int :=
  if p.recordingLinkRc = noError then p.rc (.startChannel .video) else p.recordingLinkRc

def cancelOp : Op :=
  if p.zslMode || p.longshotEnabled then .cancelPicture else .cancelLiveSnapshot

end Parent

namespace QCameraStateMachine

variable (m : QCameraStateMachine) (p : Parent) (x : Payload) (evt : Evt)

def init : QCameraStateMachine := ⟨.previewStopped, []⟩

def enter (s : State) : QCameraStateMachine := { m with mState := s }

def call (op : Op) : QCameraStateMachine := { m with log := m.log ++ [.call op (p.rc op)] }

def signalAPIResult (result : ApiResult) : QCameraStateMachine :=
  { m with log := m.log ++ [.signalAPIResult result] }

def signalEvtResult (rc : Int) : QCameraStateMachine :=
  { m with log := m.log ++ [.signalEvtResult ⟨rc, evt, .default⟩] }

def answer (rc : Int) : QCameraStateMachine := m.signalAPIResult ⟨rc, evt, .default⟩

def answerFlag (enabled : Int) : QCameraStateMachine :=
  m.signalAPIResult ⟨noError, evt, .enableFlag enabled⟩

def refuse : QCameraStateMachine := m.answer evt invalidOperation

def forward (op : Op) : QCameraStateMachine := (m.call p op).answer evt (p.rc op)

def msgTypeEnabled : QCameraStateMachine := (m.call p .msgTypeEnabled).answerFlag evt p.enabled

def getParameters : QCameraStateMachine :=
  (m.call p .getParameters).signalAPIResult ⟨noError, evt, .params p.params⟩

def registerFaceImage : QCameraStateMachine :=
  (m.call p .registerFaceImage).signalAPIResult ⟨p.rc .registerFaceImage, evt, .handle p.faceId⟩

def freeVideoHandle : QCameraStateMachine := (m.call p .closeNativeHandle).refuse evt

/-- `preparePreview`, then `startPreview`, undone when that fails. -/
def prepareAndStart : QCameraStateMachine :=
  let m := m.call p .preparePreview
  if p.rc .preparePreview = noError then
    let m := m.call p .startPreview
    if p.rc .startPreview = noError then m else m.call p .unpreparePreview
  else m

/-- `QCamera2HardwareInterface::takePicture`. Outside ZSL mode each of its paths, the failing ones
too, has stopped and deleted the preview channel. -/
def takePicture : QCameraStateMachine :=
  if p.zslMode then m.call p .takePicture
  else ((m.call p (.stopChannel .preview)).call p (.delChannel .preview)).call p .takePicture

def startRecording : QCameraStateMachine :=
  let m :=
    if p.recordingHint then m
    else
      let m := ((m.call p .stopPreview).call p (.updateRecordingHintValue true)).call p .preparePreview
      if p.rc .preparePreview = noError then m.call p (.startChannel .preview) else m
  let m := if p.metaStream then m.call p .linkStream else m
  if p.recordingLinkRc = noError then m.call p (.startChannel .video) else m

def processInternal (e : InternalEvt) : QCameraStateMachine :=
  match e with
  | .focusUpdate => m.call p .processAutoFocusEvent
  | .prepSnapshotDone => m
  | .faceDetectResult => m.call p .processFaceDetectionResult
  | .histogramStats => m.call p .processHistogramStats
  | .cropInfo => m.call p .processZoomEvent
  | .asdUpdate => m.call p .processASDUpdate
  | .awbUpdate => m.call p .processAWBUpdate
  | .aeUpdate => m.call p .processAEInfo
  | .focusPosUpdate => m.call p .processFocusPositionInfo

def notifyDied (e : ServerEvt) : QCameraStateMachine :=
  if e = .daemonDied then m.call p .sendEvtNotify else m

def procEvtPreviewStoppedState : QCameraStateMachine :=
  match evt with
  | .setPreviewWindow => m.forward p evt .setPreviewWindow
  | .setCallbacks => m.forward p evt .setCallBacks
  | .enableMsgType => m.forward p evt .enableMsgType
  | .disableMsgType => m.forward p evt .disableMsgType
  | .msgTypeEnabled => m.msgTypeEnabled p evt
  | .setParams =>
    let m := m.call p .updateParameters
    let m := if p.needRestart then m.call p .clearMemoryPool else m
    if p.rc .updateParameters = noError then m.forward p evt .commitParameterChanges
    else m.answer evt (p.rc .updateParameters)
  | .getParams => m.getParameters p evt
  | .putParams => m.forward p evt .putParameters
  | .startPreview =>
    if p.previewWindow then
      let m := m.prepareAndStart p
      let m := if p.previewRc = noError then m.enter .previewing else m
      m.answer evt p.previewRc
    else
      let m := m.call p .preparePreview
      let m := if p.rc .preparePreview = noError then m.enter .previewReady else m
      m.answer evt (p.rc .preparePreview)
  | .startNodisplayPreview =>
    let m := m.prepareAndStart p
    let m := if p.previewRc = noError then m.enter .previewing else m
    m.answer evt p.previewRc
  | .stopPreview => m.answer evt noError
  | .previewEnabled | .recordingEnabled => m.answerFlag evt 0
  | .release => m.forward p evt .release
  | .storeMetadataInBufs => m.forward p evt .storeMetaDataInBuffers
  | .dump => m.forward p evt .dump
  | .sendCommand => m.forward p evt .sendCommand
  | .releaseRecoridngFrame => m.freeVideoHandle p evt
  | .startRecording | .stopRecording | .prepareSnapshot | .takePicture => m.refuse evt
  | .startAutoFocus | .cancelPicture => m.answer evt noError
  | .stopAutoFocus => m.forward p evt .cancelAutoFocus
  | .regFaceImage => m.registerFaceImage p evt
  | .thermalNotify => m.forward p evt .updateThermalLevel
  | .evtNotify => m.notifyDied p x.serverEventType
  | .snapshotDone => m.signalEvtResult evt noError
  | .evtInternal | .jpegEvtNotify | .stopCaptureChannel | .restartPerview => m

def procEvtPreviewReadyState : QCameraStateMachine :=
  match evt with
  | .setPreviewWindow =>
    let m := m.call p .setPreviewWindow
    if p.previewWindow then
      let m := m.call p .startPreview
      let m :=
        if p.rc .startPreview = noError then m.enter .previewing
        else (m.call p .unpreparePreview).enter .previewStopped
      m.answer evt (p.rc .startPreview)
    else m.answer evt noError
  | .setCallbacks => m.forward p evt .setCallBacks
  | .enableMsgType => m.forward p evt .enableMsgType
  | .disableMsgType => m.forward p evt .disableMsgType
  | .msgTypeEnabled => m.msgTypeEnabled p evt
  | .setParams =>
    let m := m.call p .updateParameters
    if p.rc .updateParameters = noError then
      if p.needRestart then
        let m := ((m.call p .unpreparePreview).call p .clearMemoryPool).call p .commitParameterChanges
        let m := m.call p .preparePreview
        let m := if p.rc .preparePreview = noError then m else m.enter .previewStopped
        m.answer evt (p.rc .preparePreview)
      else m.forward p evt .commitParameterChanges
    else m.answer evt (p.rc .updateParameters)
  | .getParams => m.getParameters p evt
  | .putParams => m.forward p evt .putParameters
  | .startPreview => m.answer evt noError
  | .stopPreview => ((m.call p .unpreparePreview).enter .previewStopped).answer evt noError
  | .previewEnabled => m.answerFlag evt 1
  | .recordingEnabled => m.answerFlag evt 0
  | .storeMetadataInBufs => m.forward p evt .storeMetaDataInBuffers
  | .dump => m.forward p evt .dump
  | .startAutoFocus => m.forward p evt .autoFocus
  | .stopAutoFocus => m.forward p evt .cancelAutoFocus
  | .sendCommand => m.forward p evt .sendCommand
  | .regFaceImage => m.registerFaceImage p evt
  | .releaseRecoridngFrame => m.freeVideoHandle p evt
  | .startNodisplayPreview | .startRecording | .stopRecording | .prepareSnapshot | .takePicture
  | .cancelPicture | .release => m.refuse evt
  | .evtNotify => m.notifyDied p x.serverEventType
  | .snapshotDone => m.signalEvtResult evt noError
  | .thermalNotify => m.forward p evt .updateThermalLevel
  | .evtInternal | .jpegEvtNotify | .stopCaptureChannel | .restartPerview => m

def procEvtPreviewingState : QCameraStateMachine :=
  match evt with
  | .setPreviewWindow => m.refuse evt
  | .setCallbacks => m.forward p evt .setCallBacks
  | .enableMsgType => m.forward p evt .enableMsgType
  | .disableMsgType => m.forward p evt .disableMsgType
  | .msgTypeEnabled => m.msgTypeEnabled p evt
  | .setParams =>
    let m := m.call p .updateParameters
    if p.rc .updateParameters = noError then
      if p.needRestart then
        let m := ((m.call p .stopPreview).call p .clearMemoryPool).call p .commitParameterChanges
        let m := m.prepareAndStart p
        let m := if p.previewRc = noError then m else m.enter .previewStopped
        m.answer evt p.previewRc
      else m.forward p evt .commitParameterChanges
    else m.answer evt (p.rc .updateParameters)
  | .getParams => m.getParameters p evt
  | .putParams => m.forward p evt .putParameters
  | .startPreview | .startNodisplayPreview => m.answer evt noError
  | .stopPreview => ((m.call p .stopPreview).enter .previewStopped).answer evt (p.rc .stopPreview)
  | .previewEnabled => m.answerFlag evt 1
  | .recordingEnabled => m.answerFlag evt 0
  | .storeMetadataInBufs => m.forward p evt .storeMetaDataInBuffers
  | .dump => m.forward p evt .dump
  | .startAutoFocus => m.forward p evt .autoFocus
  | .stopAutoFocus => m.forward p evt .cancelAutoFocus
  | .startRecording =>
    let m := m.startRecording p
    let m := if p.startRecordingRc = noError then m.enter .recording else m
    m.answer evt p.startRecordingRc
  | .prepareSnapshot =>
    let m := m.call p .prepareHardwareForSnapshot
    -- the answer has to wait for the metadata
    if p.rc .prepareHardwareForSnapshot = noError then m.enter .prepareSnapshot
    else m.answer evt (p.rc .prepareHardwareForSnapshot)
  | .takePicture =>
    -- `takePicture` overwrites what this restart returns
    let m :=
      if p.recordingHint then
        ((m.call p .stopPreview).call p (.updateRecordingHintValue false)).prepareAndStart p
      else m
    let m :=
      if p.zslMode || p.longshotEnabled then
        let m := (m.enter .previewPicTaking).takePicture p
        if p.rc .takePicture = noError then m else m.enter .previewing
      else
        let m := (m.enter .picTaking).takePicture p
        if p.rc .takePicture = noError then m else m.enter .previewStopped
    m.answer evt (p.rc .takePicture)
  | .sendCommand =>
    let m := m.call p .sendCommand
    if x.cmd = .longshotOn ∧ p.arg1 = some .restartPerview then
      let m := ((m.call p .stopPreview).call p .clearMemoryPool).prepareAndStart p
      m.answer evt p.previewRc
    else m.answer evt (p.rc .sendCommand)
  | .regFaceImage => m.registerFaceImage p evt
  | .releaseRecoridngFrame => m.freeVideoHandle p evt
  | .cancelPicture | .stopRecording | .release => m.refuse evt
  | .evtInternal => m.processInternal p x.evtType
  | .evtNotify => m.notifyDied p x.serverEventType
  | .thermalNotify => m.forward p evt .updateThermalLevel
  | .snapshotDone => m.signalEvtResult evt noError
  | .jpegEvtNotify | .stopCaptureChannel | .restartPerview => m

def procEvtPrepareSnapshotState : QCameraStateMachine :=
  match evt with
  | .setPreviewWindow | .setCallbacks | .enableMsgType | .disableMsgType | .msgTypeEnabled
  | .setParams | .getParams | .putParams | .startPreview | .startNodisplayPreview | .stopPreview
  | .previewEnabled | .recordingEnabled | .storeMetadataInBufs | .dump | .startAutoFocus
  | .stopAutoFocus | .startRecording | .takePicture | .prepareSnapshot | .sendCommand
  | .cancelPicture | .stopRecording | .releaseRecoridngFrame | .release => m.refuse evt
  | .evtInternal =>
    match x.evtType with
    | .prepSnapshotDone =>
      ((m.call p .processPrepSnapshotDoneEvent).enter .previewing).answer .prepareSnapshot noError
    | e => m.processInternal p e
  | .evtNotify => m.notifyDied p x.serverEventType
  | .snapshotDone => m.signalEvtResult evt noError
  | .thermalNotify => m.forward p evt .updateThermalLevel
  -- the event that registers a face ends in the default branch
  | .regFaceImage | .jpegEvtNotify | .stopCaptureChannel | .restartPerview => m

def procEvtPicTakingState : QCameraStateMachine :=
  match evt with
  | .setPreviewWindow => m.refuse evt
  | .setCallbacks => m.forward p evt .setCallBacks
  | .enableMsgType => m.forward p evt .enableMsgType
  | .disableMsgType => m.forward p evt .disableMsgType
  | .msgTypeEnabled => m.msgTypeEnabled p evt
  | .setParams =>
    let m := m.call p .updateParameters
    if p.rc .updateParameters = noError then m.forward p evt .commitParameterChanges
    else m.answer evt (p.rc .updateParameters)
  | .getParams => m.getParameters p evt
  | .putParams => m.forward p evt .putParameters
  | .stopPreview =>
    ((m.call p .cancelPicture).enter .previewStopped).answer evt (p.rc .cancelPicture)
  | .previewEnabled => m.answerFlag evt 0
  | .recordingEnabled => m.answerFlag evt 0
  | .storeMetadataInBufs => m.forward p evt .storeMetaDataInBuffers
  | .dump => m.forward p evt .dump
  | .startAutoFocus => m.forward p evt .autoFocus
  | .stopAutoFocus => m.forward p evt .cancelAutoFocus
  | .sendCommand =>
    let m := m.call p .sendCommand
    let m := if x.cmd = .longshotOff then m.enter .previewing else m
    m.answer evt (p.rc .sendCommand)
  | .cancelPicture =>
    ((m.call p .cancelPicture).enter .previewStopped).answer evt (p.rc .cancelPicture)
  | .regFaceImage => m.registerFaceImage p evt
  | .takePicture => if p.longshotEnabled then m.forward p evt .longShot else m.refuse evt
  | .prepareSnapshot | .startRecording | .stopRecording | .releaseRecoridngFrame | .startPreview
  | .startNodisplayPreview | .release => m.refuse evt
  | .evtInternal =>
    match x.evtType with
    | .faceDetectResult | .histogramStats => m
    | e => m.processInternal p e
  | .evtNotify =>
    match x.serverEventType with
    | .reprocessStageDone =>
      if p.longshotEnabled then
        let m := if p.multipleStages then m else m.call p .setMultipleStages
        m.call p .playShutter
      else m
    | e => m.notifyDied p e
  | .jpegEvtNotify => m.call p .processJpegNotify
  | .stopCaptureChannel =>
    let m := m.call p (.stopCaptureChannel p.previewRestart)
    if p.previewRestart && p.rc (.stopCaptureChannel p.previewRestart) = noError then
      let m := m.call p .preparePreview
      if p.rc .preparePreview = noError then
        (m.call p .setPreviewStarted).call p .startPreview
      else m
    else m
  | .snapshotDone =>
    let m := m.call p .cancelPicture
    let m := if p.previewRestart then m.enter .previewing else m.enter .previewStopped
    m.signalEvtResult evt (p.rc .cancelPicture)
  | .thermalNotify => m.forward p evt .updateThermalLevel
  | .restartPerview => m

/-- `SET_PARAMS` during a recording. -/
def setParamsRecording : QCameraStateMachine :=
  let m := m.call p .updateParameters
  if p.rc .updateParameters = noError then
    if p.needRestart then m.answer evt badValue else m.forward p evt .commitParameterChanges
  else m.answer evt (p.rc .updateParameters)

def procEvtRecordingState : QCameraStateMachine :=
  match evt with
  | .startPreview | .setPreviewWindow => m.answer evt noError
  | .setCallbacks => m.forward p evt .setCallBacks
  | .enableMsgType => m.forward p evt .enableMsgType
  | .disableMsgType => m.forward p evt .disableMsgType
  | .msgTypeEnabled => m.msgTypeEnabled p evt
  | .setParams => m.setParamsRecording p evt
  | .getParams => m.getParameters p evt
  | .putParams => m.forward p evt .putParameters
  | .previewEnabled => m.answerFlag evt 0
  | .recordingEnabled => m.answerFlag evt 1
  | .storeMetadataInBufs => m.forward p evt .storeMetaDataInBuffers
  | .dump => m.forward p evt .dump
  | .startAutoFocus => m.forward p evt .autoFocus
  | .stopAutoFocus => m.forward p evt .cancelAutoFocus
  | .sendCommand => m.forward p evt .sendCommand
  | .takePicture =>
    let m := (m.enter .videoPicTaking).call p .takeLiveSnapshot
    let m := if p.rc .takeLiveSnapshot = noError then m else m.enter .recording
    m.answer evt (p.rc .takeLiveSnapshot)
  | .startRecording => m.answer evt noError
  | .stopRecording =>
    ((m.call p .stopRecording).enter .previewing).answer evt (p.rc .stopRecording)
  | .stopPreview =>
    let m := (m.call p .stopRecording).enter .previewing
    ((m.call p .stopPreview).enter .previewStopped).answer evt (p.rc .stopPreview)
  | .releaseRecoridngFrame => m.forward p evt .releaseRecordingFrame
  | .regFaceImage => m.registerFaceImage p evt
  | .prepareSnapshot => m.answer evt noError
  | .cancelPicture | .startNodisplayPreview | .release => m.refuse evt
  | .evtInternal => m.processInternal p x.evtType
  | .evtNotify => m.notifyDied p x.serverEventType
  | .thermalNotify => m.forward p evt .updateThermalLevel
  | .snapshotDone => m.signalEvtResult evt noError
  | .jpegEvtNotify | .stopCaptureChannel | .restartPerview => m

def procEvtVideoPicTakingState : QCameraStateMachine :=
  match evt with
  | .setPreviewWindow => m.refuse evt
  | .setCallbacks => m.forward p evt .setCallBacks
  | .enableMsgType => m.forward p evt .enableMsgType
  | .disableMsgType => m.forward p evt .disableMsgType
  | .msgTypeEnabled => m.msgTypeEnabled p evt
  | .setParams => m.setParamsRecording p evt
  | .getParams => m.getParameters p evt
  | .putParams => m.forward p evt .putParameters
  | .previewEnabled => m.answerFlag evt 1
  | .recordingEnabled => m.answerFlag evt 1
  | .storeMetadataInBufs => m.forward p evt .storeMetaDataInBuffers
  | .dump => m.forward p evt .dump
  | .startAutoFocus => m.forward p evt .autoFocus
  | .stopAutoFocus => m.forward p evt .cancelAutoFocus
  | .sendCommand => m.forward p evt .sendCommand
  | .stopRecording =>
    let m := (m.call p .cancelLiveSnapshot).enter .recording
    ((m.call p .stopRecording).enter .previewing).answer evt (p.rc .stopRecording)
  | .releaseRecoridngFrame => m.forward p evt .releaseRecordingFrame
  | .cancelPicture =>
    ((m.call p .cancelLiveSnapshot).enter .recording).answer evt (p.rc .cancelLiveSnapshot)
  | .regFaceImage => m.registerFaceImage p evt
  | .stopPreview =>
    let m := (m.call p .cancelLiveSnapshot).enter .recording
    let m := (m.call p .stopRecording).enter .previewing
    ((m.call p .stopPreview).enter .previewStopped).answer evt (p.rc .stopPreview)
  | .startRecording | .startPreview | .startNodisplayPreview | .prepareSnapshot | .takePicture
  | .release => m.refuse evt
  | .evtInternal => m.processInternal p x.evtType
  | .evtNotify => m.notifyDied p x.serverEventType
  | .jpegEvtNotify => m.call p .processJpegNotify
  | .snapshotDone =>
    ((m.call p .cancelLiveSnapshot).enter .recording).signalEvtResult evt (p.rc .cancelLiveSnapshot)
  | .thermalNotify => m.forward p evt .updateThermalLevel
  | .stopCaptureChannel | .restartPerview => m

def procEvtPreviewPicTakingState : QCameraStateMachine :=
  match evt with
  | .setCallbacks => m.forward p evt .setCallBacks
  | .enableMsgType => m.forward p evt .enableMsgType
  | .disableMsgType => m.forward p evt .disableMsgType
  | .msgTypeEnabled => m.msgTypeEnabled p evt
  | .setParams =>
    let m := m.call p .updateParameters
    if p.rc .updateParameters = noError then
      if p.needRestart then
        let m := ((m.call p .stopPreview).call p .clearMemoryPool).call p .commitParameterChanges
        let m := m.prepareAndStart p
        let m := if p.previewRc = noError then m else m.enter .picTaking
        m.answer evt p.previewRc
      else m.forward p evt .commitParameterChanges
    else m.answer evt (p.rc .updateParameters)
  | .getParams => m.getParameters p evt
  | .putParams => m.forward p evt .putParameters
  | .previewEnabled => m.answerFlag evt 1
  | .recordingEnabled => m.answerFlag evt 0
  | .storeMetadataInBufs => m.forward p evt .storeMetaDataInBuffers
  | .dump => m.forward p evt .dump
  | .startAutoFocus => m.forward p evt .autoFocus
  | .stopAutoFocus => m.forward p evt .cancelAutoFocus
  | .sendCommand =>
    let m := m.call p .sendCommand
    let m := if x.cmd = .longshotOff then m.enter .previewing else m
    m.answer evt (p.rc .sendCommand)
  | .releaseRecoridngFrame => m.forward p evt .releaseRecordingFrame
  | .cancelPicture =>
    ((m.call p p.cancelOp).enter .previewing).answer evt (p.rc p.cancelOp)
  | .stopPreview =>
    let m := m.call p p.cancelOp
    let m :=
      if p.zslMode then m.call p (.stopChannel .zsl)
      else if p.longshotEnabled then m
      else m.call p (.stopChannel .preview)
    ((m.call p .unpreparePreview).enter .previewStopped).answer evt (p.rc p.cancelOp)
  | .startRecording =>
    if p.zslMode || p.longshotEnabled then m.refuse evt
    else
      let m := m.startRecording p
      let m := if p.startRecordingRc = noError then m.enter .videoPicTaking else m
      m.answer evt p.startRecordingRc
  | .regFaceImage => m.registerFaceImage p evt
  | .takePicture => if p.longshotEnabled then m.forward p evt .longShot else m.refuse evt
  | .prepareSnapshot | .stopRecording | .startPreview | .startNodisplayPreview | .setPreviewWindow
  | .release => m.refuse evt
  | .evtInternal => m.processInternal p x.evtType
  | .evtNotify =>
    match x.serverEventType with
    | .reprocessStageDone =>
      if p.longshotEnabled then
        let m := if p.multipleStages then m else m.call p .setMultipleStages
        if p.longshotSnapLimited || p.captureShutter then m else m.call p .playShutter
      else m
    | e => m.notifyDied p e
  | .jpegEvtNotify => m.call p .processJpegNotify
  | .snapshotDone =>
    ((m.call p p.cancelOp).enter .previewing).signalEvtResult evt (p.rc p.cancelOp)
  | .thermalNotify => m.forward p evt .updateThermalLevel
  | .stopCaptureChannel | .restartPerview => m

def stateMachine (i : Input) : QCameraStateMachine :=
  match m.mState with
  | .previewStopped => m.procEvtPreviewStoppedState i.parent i.payload i.evt
  | .previewReady => m.procEvtPreviewReadyState i.parent i.payload i.evt
  | .previewing => m.procEvtPreviewingState i.parent i.payload i.evt
  | .prepareSnapshot => m.procEvtPrepareSnapshotState i.parent i.payload i.evt
  | .picTaking => m.procEvtPicTakingState i.parent i.payload i.evt
  | .recording => m.procEvtRecordingState i.parent i.payload i.evt
  | .videoPicTaking => m.procEvtVideoPicTakingState i.parent i.payload i.evt
  | .previewPicTaking => m.procEvtPreviewPicTakingState i.parent i.payload i.evt

def step (i : Input) : Option QCameraStateMachine := some (m.stateMachine i)

@[simp] theorem enter_mState (s : State) : (m.enter s).mState = s := rfl

@[simp] theorem call_mState (op : Op) : (m.call p op).mState = m.mState := rfl

@[simp] theorem signalEvtResult_mState (rc : Int) : (m.signalEvtResult evt rc).mState = m.mState := rfl

@[simp] theorem answer_mState (rc : Int) : (m.answer evt rc).mState = m.mState := rfl

@[simp] theorem answerFlag_mState (n : Int) : (m.answerFlag evt n).mState = m.mState := rfl

@[simp] theorem refuse_mState : (m.refuse evt).mState = m.mState := rfl

@[simp] theorem forward_mState (op : Op) : (m.forward p evt op).mState = m.mState := rfl

@[simp] theorem msgTypeEnabled_mState : (m.msgTypeEnabled p evt).mState = m.mState := rfl

@[simp] theorem getParameters_mState : (m.getParameters p evt).mState = m.mState := rfl

@[simp] theorem registerFaceImage_mState : (m.registerFaceImage p evt).mState = m.mState := rfl

@[simp] theorem freeVideoHandle_mState : (m.freeVideoHandle p evt).mState = m.mState := rfl

@[simp] theorem prepareAndStart_mState : (m.prepareAndStart p).mState = m.mState := by
  unfold prepareAndStart
  split_ifs <;> rfl

@[simp] theorem takePicture_mState : (m.takePicture p).mState = m.mState := by
  unfold takePicture
  split_ifs <;> rfl

@[simp] theorem startRecording_mState : (m.startRecording p).mState = m.mState := by
  unfold startRecording
  split_ifs <;> rfl

@[simp] theorem processInternal_mState (t : InternalEvt) :
    (m.processInternal p t).mState = m.mState := by
  cases t <;> rfl

@[simp] theorem notifyDied_mState (t : ServerEvt) : (m.notifyDied p t).mState = m.mState := by
  unfold notifyDied
  split_ifs <;> rfl

@[simp] theorem setParamsRecording_mState : (m.setParamsRecording p evt).mState = m.mState := by
  unfold setParamsRecording
  split_ifs <;> rfl

/-! Which states can follow each other. -/

theorem previewStopped_next (hm : m.mState = .previewStopped) :
    (m.procEvtPreviewStoppedState p x evt).mState ∈ State.next .previewStopped := by
  cases evt <;> simp only [procEvtPreviewStoppedState] <;> (try split_ifs) <;> simp [State.next, hm]

theorem previewReady_next (hm : m.mState = .previewReady) :
    (m.procEvtPreviewReadyState p x evt).mState ∈ State.next .previewReady := by
  cases evt <;> simp only [procEvtPreviewReadyState] <;> (try split_ifs) <;> simp [State.next, hm]

theorem previewing_next (hm : m.mState = .previewing) :
    (m.procEvtPreviewingState p x evt).mState ∈ State.next .previewing := by
  cases evt <;> simp only [procEvtPreviewingState] <;> (try split_ifs) <;> simp [State.next, hm]

theorem prepareSnapshot_next (hm : m.mState = .prepareSnapshot) :
    (m.procEvtPrepareSnapshotState p x evt).mState ∈ State.next .prepareSnapshot := by
  cases evt
  case evtInternal => cases h : x.evtType <;> simp [procEvtPrepareSnapshotState, State.next, h, hm]
  all_goals simp [procEvtPrepareSnapshotState, State.next, hm]

theorem picTaking_next (hm : m.mState = .picTaking) :
    (m.procEvtPicTakingState p x evt).mState ∈ State.next .picTaking := by
  cases evt
  case evtInternal => cases h : x.evtType <;> simp [procEvtPicTakingState, State.next, h, hm]
  case evtNotify =>
    cases h : x.serverEventType <;> simp only [procEvtPicTakingState, h] <;> (try split_ifs) <;>
      simp [State.next, hm]
  all_goals
    simp only [procEvtPicTakingState]
    (try split_ifs) <;> simp [State.next, hm]

theorem recording_next (hm : m.mState = .recording) :
    (m.procEvtRecordingState p x evt).mState ∈ State.next .recording := by
  cases evt <;> simp only [procEvtRecordingState] <;> (try split_ifs) <;> simp [State.next, hm]

theorem videoPicTaking_next (hm : m.mState = .videoPicTaking) :
    (m.procEvtVideoPicTakingState p x evt).mState ∈ State.next .videoPicTaking := by
  cases evt <;> simp [procEvtVideoPicTakingState, State.next, hm]

theorem previewPicTaking_next (hm : m.mState = .previewPicTaking) :
    (m.procEvtPreviewPicTakingState p x evt).mState ∈ State.next .previewPicTaking := by
  cases evt
  case evtNotify =>
    cases h : x.serverEventType <;> simp only [procEvtPreviewPicTakingState, h] <;>
      (try split_ifs) <;> simp [State.next, hm]
  all_goals
    simp only [procEvtPreviewPicTakingState]
    (try split_ifs) <;> simp [State.next, hm]

theorem stateMachine_next (i : Input) : (m.stateMachine i).mState ∈ m.mState.next := by
  cases hm : m.mState <;> simp only [stateMachine, hm]
  case previewStopped => exact previewStopped_next m _ _ _ hm
  case previewReady => exact previewReady_next m _ _ _ hm
  case previewing => exact previewing_next m _ _ _ hm
  case prepareSnapshot => exact prepareSnapshot_next m _ _ _ hm
  case picTaking => exact picTaking_next m _ _ _ hm
  case recording => exact recording_next m _ _ _ hm
  case videoPicTaking => exact videoPicTaking_next m _ _ _ hm
  case previewPicTaking => exact previewPicTaking_next m _ _ _ hm

end QCameraStateMachine

end Wt88047.QCamera
