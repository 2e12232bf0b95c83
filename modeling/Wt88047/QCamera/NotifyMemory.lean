import Wt88047.Lib.Custody
import Wt88047.QCamera.FrameCallbacks
import Wt88047.QCamera.PreviewCallback

/-! The results that the HAL sends to the application in memory of its own: faces, histograms, scenes and preview
frames. Each handler asks for the memory, fills it and hands it to a notification, whose release callback gives it
back. -/

namespace Wt88047.NotifyMemory

open FrameCallbacks Padding PlaneLayout PreviewCallback Superbuf

/-- What `mGetMemory` gives; in `noData` the memory is there and its `data` is NULL. -/
inductive Memory
  | refused | noData | data
  deriving DecidableEq

inductive Status
  | noError | noMemory | unknownError
  deriving DecidableEq

def notifyRc : Notify → Status
  | .sent => .noError
  | .refused => .unknownError
  | .unsent => .noMemory

structure Rect where
  left : Int
  top : Int
  width : Int
  height : Int
  deriving DecidableEq

structure Coordinate where
  x : Int
  y : Int
  deriving DecidableEq

structure FaceInfo where
  faceId : Int
  score : Int
  faceBoundary : Rect
  leftEyeCenter : Coordinate
  rightEyeCenter : Coordinate
  mouthCenter : Coordinate
  smileDegree : Nat
  smileConfidence : Nat
  faceRecognised : Nat
  gazeAngle : Int
  updownDir : Int
  leftrightDir : Int
  rollDir : Int
  leftRightGaze : Int
  topBottomGaze : Int
  blinkDetected : Nat
  leftBlink : Nat
  rightBlink : Nat
  deriving DecidableEq

structure Face where
  rect : Int × Int × Int × Int
  score : Int
  id : Int
  leftEye : Int × Int
  rightEye : Int × Int
  mouth : Int × Int
  smileDegree : Int
  smileScore : Int
  blinkDetected : Int
  faceRecognised : Int
  gazeAngle : Int
  updownDir : Int
  leftrightDir : Int
  rollDir : Int
  leyeBlink : Int
  reyeBlink : Int
  leftRightGaze : Int
  topBottomGaze : Int
  deriving DecidableEq

inductive FaceDetectType
  | preview | snapshot
  deriving DecidableEq

def maxRoi : Nat := 5

structure FaceDetectionData where
  numFacesDetected : UInt8
  faces : List FaceInfo
  fdType : FaceDetectType
  faces_length : faces.length = maxRoi

structure HistogramData where
  maxHistValue : Nat
  histBuf : List Nat
  deriving DecidableEq

/-- `cam_hist_stats_t` with the union read by its type. -/
inductive HistStats
  | bayer (r b gr gb : HistogramData)
  | yuv (stats : HistogramData)

inductive AutoScene
  | normal | scenery | portrait | portraitBacklight | sceneryBacklight | backlight
  deriving DecidableEq

def AutoScene.toInt : AutoScene → Int
  | .normal => 0
  | .scenery => 1
  | .portrait => 2
  | .portraitBacklight => 3
  | .sceneryBacklight => 4
  | .backlight => 5

/-- `CAMERA_META_DATA_ASD`, `CAMERA_META_DATA_FD` and `CAMERA_META_DATA_HDR` -/
inductive MetaDataType
  | asd | fd | hdr
  deriving DecidableEq

inductive Payload
  | metaData (type : MetaDataType) (dataLen : Nat) (data : List Int)
  | faces (header : Option (MetaDataType × Nat)) (faces : List Face)
  | histogram (data : HistogramData)
  | image (data : List UInt8)

/-- What a handler does: it obtains memory, queues a notification (with its data, or with `data` NULL, and with
`releaseCameraMemory` for the memory or without it), or releases the memory itself. -/
inductive Act
  | obtain
  | notified (data : Option Payload) (releaseCb : Bool)
  | release

structure Handled where
  rc : Status
  acts : List Act

structure Hal where
  faceDetectionEnabled : Bool
  histogramEnabled : Bool
  autoHdrEnabled : Bool
  dataCb : Bool
  previewMetadataMsg : Bool
  metaDataMsg : Bool
  numPreviewFaces : UInt8
  displayWidth : Int
  displayHeight : Int

structure FaceSizes where
  metadata : Nat
  face : Nat
  metadata_pos : 0 < metadata

def store (size offset len : Nat) : Option Unit := if offset + len ≤ size then some () else none

def send (notify : Notify) (data : Option Payload) : List Act :=
  (if notify.queued then [.notified data true] else []) ++ if notify.ok then [] else [.release]

def mapToDriverCoordinate (val base scale offset : Int) : Int := (val * scale).tdiv base + offset

def Hal.mapFace (h : Hal) (f : FaceInfo) : Face :=
  let x := fun val => mapToDriverCoordinate val h.displayWidth 2000 (-1000)
  let y := fun val => mapToDriverCoordinate val h.displayHeight 2000 (-1000)
  let left := x f.faceBoundary.left
  let top := y f.faceBoundary.top
  { rect := (left, top, left + mapToDriverCoordinate f.faceBoundary.width h.displayWidth 2000 0,
      top + mapToDriverCoordinate f.faceBoundary.height h.displayHeight 2000 0)
    score := f.score
    id := f.faceId
    leftEye := (x f.leftEyeCenter.x, y f.leftEyeCenter.y)
    rightEye := (x f.rightEyeCenter.x, y f.rightEyeCenter.y)
    mouth := (x f.mouthCenter.x, y f.mouthCenter.y)
    smileDegree := f.smileDegree
    smileScore := f.smileConfidence
    blinkDetected := f.blinkDetected
    faceRecognised := f.faceRecognised
    gazeAngle := f.gazeAngle
    updownDir := f.updownDir * 2
    leftrightDir := f.leftrightDir * 2
    rollDir := f.rollDir * 2
    leyeBlink := f.leftBlink
    reyeBlink := f.rightBlink
    leftRightGaze := f.leftRightGaze
    topBottomGaze := f.topBottomGaze }

def fillFaces (h : Hal) (fd : FaceDetectionData) (sizes : FaceSizes) (size base : Nat) :
    Nat → Nat → Option (List Face)
  | 0, _ => some []
  | n + 1, i => do
    let info ← fd.faces[i]?
    store size (base + i * sizes.face) sizes.face
    let rest ← fillFaces h fd sizes size base n (i + 1)
    some (h.mapFace info :: rest)

/-- `roiData` and the faces behind it, from `faceData` on. -/
def fillRoiData (h : Hal) (fd : FaceDetectionData) (sizes : FaceSizes) (size faceData : Nat) : Option (List Face) := do
  store size faceData sizes.metadata
  fillFaces h fd sizes size (faceData + sizes.metadata) fd.numFacesDetected.toNat 0

def Hal.needPreviewFDCallback (h : Hal) (numFaces : UInt8) : Bool := !(numFaces == 0 && h.numPreviewFaces == 0)

def Hal.facesWanted (h : Hal) (fd : FaceDetectionData) : Bool :=
  match fd.fdType with
  | .preview => h.previewMetadataMsg && h.needPreviewFDCallback fd.numFacesDetected
  | .snapshot => h.metaDataMsg

/-- The handler with its memory; `mNumPreviewFaces` is the second component. -/
def notifyFaces (sizes : FaceSizes) (h : Hal) (fd : FaceDetectionData) (notify : Notify) : Option (Handled × UInt8) :=
  match fd.fdType with
  | .preview => do
    let faceResultSize := sizes.metadata + sizes.face * maxRoi
    let faces ← fillRoiData h fd sizes faceResultSize 0
    some (⟨notifyRc notify, .obtain :: send notify (some (.faces none faces))⟩, fd.numFacesDetected)
  | .snapshot => do
    let n := fd.numFacesDetected.toNat
    let dataLen := if 0 < n then sizes.metadata + sizes.face * n else 0
    let faceResultSize := 4 + 4 + dataLen
    store faceResultSize 0 4
    store faceResultSize 4 4
    let faces ← if dataLen = 0 then some [] else fillRoiData h fd sizes faceResultSize 8
    some (⟨notifyRc notify, .obtain :: send notify (some (.faces (some (.fd, dataLen)) faces))⟩, h.numPreviewFaces)

def processFaceDetectionResult (sizes : FaceSizes) (h : Hal) (fd : FaceDetectionData) (memory : Memory)
    (notify : Notify) : Option (Handled × UInt8) :=
  if !h.faceDetectionEnabled then some (⟨.noError, []⟩, h.numPreviewFaces)
  else if !h.dataCb || !h.facesWanted fd then some (⟨.noError, []⟩, h.numPreviewFaces)
  else if h.displayWidth ≤ 0 ∨ h.displayHeight ≤ 0 then some (⟨.unknownError, []⟩, h.numPreviewFaces)
  else
    match memory with
    | .refused => some (⟨.noMemory, []⟩, h.numPreviewFaces)
    -- the memory is cleared before anything asks whether it has data
    | .noData => none
    | .data => notifyFaces sizes h fd notify

def metadataFaces (valid : Bool) (fd : FaceDetectionData) : Option FaceDetectionData :=
  if !valid then none
  else if maxRoi < fd.numFacesDetected.toNat then none
  else some { fd with fdType := .preview }

/-- The part of `zsl_channel_cb` that is about faces; it only logs that there are too many. -/
def zslFaces (valid : Bool) (fd : FaceDetectionData) : FaceDetectionData :=
  { fd with fdType := .snapshot, numFacesDetected := if valid then fd.numFacesDetected else 0 }

/-- A handler that asks whether the memory has data, and returns if it has not. -/
def notifyFilled (size : Nat) (writes : List (Nat × Nat)) (payload : Payload) (memory : Memory) (notify : Notify)
    (rc : Status) : Option Handled :=
  match memory with
  | .refused => some ⟨.noMemory, []⟩
  | .noData => some ⟨.unknownError, [.obtain]⟩
  | .data => do
    writes.forM fun w => store size w.1 w.2
    some ⟨rc, .obtain :: send notify (some payload)⟩

def HistStats.data : HistStats → HistogramData
  | .bayer _ _ _ gb => gb
  | .yuv stats => stats

def histogramSize : Nat := 4 + 4 * 256

def processHistogramStats (h : Hal) (stats : HistStats) (memory : Memory) (notify : Notify) : Option Handled :=
  if !h.histogramEnabled then some ⟨.noError, []⟩
  else notifyFilled histogramSize [(0, histogramSize)] (.histogram stats.data) memory notify .noError

/-- `confident` is whether the confidence is above `HDR_CONFIDENCE_THRESHOLD`. -/
def processHDRData (h : Hal) (isHdrScene confident : Bool) (memory : Memory) (notify : Notify) : Option Handled :=
  let hdrSceneEnabled := isHdrScene && confident && h.autoHdrEnabled
  if h.metaDataMsg then
    notifyFilled (4 + 4 + 4) [(0, 4), (4, 4), (8, 4)] (.metaData .hdr 4 [if hdrSceneEnabled then 1 else 0]) memory
      notify (notifyRc notify)
  else some ⟨.noError, []⟩

def processASDUpdate (scene : AutoScene) (memory : Memory) (notify : Notify) : Option Handled :=
  notifyFilled (4 + 4 + 4) [(0, 4), (4, 4), (8, 4)] (.metaData .asd 4 [scene.toInt]) memory notify .noError

def previewFormatsMap : List CamFormat :=
  [.yuv420Nv21, .yuv420Yv12, .yuv420Nv21Adreno, .yuv420Yv12, .yuv420Nv12, .yuv420Nv12Venus]

/-- `previewBufSize` of a frame in YV12. -/
def yv12Size (mp : Nat → PlaneInfo) : Option Nat := do
  let ySize ← int ((mp 0).stride * (mp 0).scanline)
  let uSize ← int ((mp 1).stride * (mp 1).scanline)
  let vSize ← int ((mp 2).stride * (mp 2).scanline)
  let yuSize ← int (ySize + uSize)
  int (yuSize + vSize)

def handed (fmt : CamFormat) (mp : Nat → PlaneInfo) (dim : Dimension) (frame : List UInt8) (memory : Bool)
    (fresh : Nat → UInt8) : Option (Option (List UInt8)) :=
  if fmt = .yuv420Yv12 then (yv12Size mp).map fun size =>
    if memory ∧ size ≠ 0 then some (frame.take size) else none
  else PreviewCallback.sendPreviewCallback mp dim frame memory fresh

/-- For the other formats no memory is obtained, and both sizes stay 0, so that the notification has `dataToApp`,
which is NULL. -/
def sendPreviewCallback (fmt : CamFormat) (mp : Nat → PlaneInfo) (dim : Dimension) (frame : List UInt8)
    (memory : Memory) (notify : Notify) (fresh : Nat → UInt8) : Option Handled :=
  if fmt = .yuv420Nv21 ∨ fmt = .yuv420Nv12 ∨ fmt = .yuv420Yv12 then do
    let data ← handed fmt mp dim frame (memory = .data) fresh
    match memory with
    | .refused => some ⟨.noMemory, []⟩
    | .noData => some ⟨.noMemory, [.obtain]⟩
    | .data => some ⟨notifyRc notify, .obtain :: send notify (data.map .image)⟩
  else some ⟨notifyRc notify, if notify.queued then [.notified none false] else []⟩

structure PreviewFrame where
  build : Build
  info : StreamInfo
  dim : Dimension
  padding : PaddingInfo
  layout : Layout
  before : BufPlanes
  frame : List UInt8
  format : info.fmt ∈ previewFormatsMap
  stream : info.streamType = .preview
  laid_out : previewLayout build info dim padding = some (some layout)
  width_pos : 0 < dim.width
  height_pos : 0 < dim.height
  frame_size : frame.length = layout.frameLen

def PreviewFrame.mp (p : PreviewFrame) : Nat → PlaneInfo := (p.layout.writeTo p.before).mp

inductive Result
  | faces (fd : FaceDetectionData)
  | histogram (stats : HistStats)
  | hdrScene (isHdrScene confident : Bool)
  | autoScene (scene : AutoScene)
  | preview (p : PreviewFrame)

/-- What a handler does with a result; none where it reads or writes where it must not. -/
def handle (sizes : FaceSizes) (fresh : Nat → UInt8) (h : Hal) (r : Result) (memory : Memory) (notify : Notify) :
    Option Handled :=
  match r with
  | .faces fd => (processFaceDetectionResult sizes h fd memory notify).map (·.1)
  | .histogram stats => processHistogramStats h stats memory notify
  | .hdrScene isHdrScene confident => processHDRData h isHdrScene confident memory notify
  | .autoScene scene => processASDUpdate scene memory notify
  | .preview p => sendPreviewCallback p.info.fmt p.mp p.dim p.frame memory notify fresh

def Act.custody : Act → List (Custody.Event Unit)
  | .obtain => [.take ()]
  | .notified _ releaseCb => if releaseCb then [.give ()] else []
  | .release => [.give ()]

def ReleasedOnce (acts : List Act) : Prop := Custody.Settled (acts.flatMap Act.custody)

def HasData : Act → Prop
  | .notified data _ => data.isSome
  | _ => True

/-- The handler stays within its source and its memory, its memory is released once, and no notification is queued
without data. -/
def Sound (r : Option Handled) : Prop := ∃ x, r = some x ∧ ReleasedOnce x.acts ∧ ∀ a ∈ x.acts, HasData a

/-- The memory, if there is any, has data, and `notifyCallback` does not fail with the notification queued. -/
def Kept (memory : Memory) (notify : Notify) : Prop := memory = .refused ∨ memory = .data ∧ notify ≠ .unsent

def Hal.asksForFaces (h : Hal) (fd : FaceDetectionData) : Prop :=
  h.faceDetectionEnabled ∧ h.dataCb ∧ h.facesWanted fd ∧ 0 < h.displayWidth ∧ 0 < h.displayHeight

def PreviewFrame.Small (p : PreviewFrame) : Prop :=
  (p.layout.planes.map fun q => q.stride * q.scanline).sum < 2 ^ 31

def Meets (h : Hal) (r : Result) (memory : Memory) (notify : Notify) : Prop :=
  match r with
  | .faces fd => h.asksForFaces fd → Kept memory notify ∧ (memory = .data → fd.numFacesDetected.toNat ≤ maxRoi)
  | .histogram _ => h.histogramEnabled → Kept memory notify
  | .hdrScene _ _ => h.metaDataMsg → Kept memory notify
  | .autoScene _ => Kept memory notify
  | .preview p =>
    if p.info.fmt = .yuv420Nv21 ∨ p.info.fmt = .yuv420Nv12 ∨ p.info.fmt = .yuv420Yv12 then
      p.Small ∧ Kept memory notify
    else notify = .refused

variable (rc : Status)

theorem sound_of_nothing : Sound (some ⟨rc, []⟩) :=
  ⟨⟨rc, []⟩, rfl, Custody.settled_nil, fun _ ha => absurd ha List.not_mem_nil⟩

theorem not_sound_of_leak : ¬Sound (some ⟨rc, [.obtain]⟩) := by
  rintro ⟨x, hx, hreleased, -⟩
  obtain rfl := Option.some.inj hx
  have hout : some true = some false := hreleased ()
  cases hout

variable (notify : Notify)

theorem released_send (data : Option Payload) :
    ReleasedOnce (.obtain :: send notify data) ↔ notify ≠ .unsent := by
  cases notify with
  | refused => exact ⟨fun _ => by decide, fun _ _ => rfl⟩
  | sent => exact ⟨fun _ => by decide, fun _ _ => rfl⟩
  | unsent =>
    refine ⟨fun h => ?_, fun h => absurd rfl h⟩
    have htwice : none = some false := h ()
    cases htwice

theorem sound_send (payload : Payload) :
    Sound (some ⟨rc, .obtain :: send notify (some payload)⟩) ↔ notify ≠ .unsent := by
  constructor
  · rintro ⟨x, hx, hreleased, -⟩
    obtain rfl := Option.some.inj hx
    exact (released_send notify (some payload)).mp hreleased
  · intro h
    refine ⟨_, rfl, (released_send notify (some payload)).mpr h, fun a ha => ?_⟩
    rcases List.mem_cons.mp ha with rfl | ha
    · trivial
    · cases notify <;> simp [send, Notify.queued, Notify.ok] at ha
      · exact ha ▸ trivial
      · exact ha ▸ rfl
      · rcases ha with rfl | rfl
        · rfl
        · trivial

theorem not_kept_noData : ¬Kept .noData notify := by
  rintro (h | ⟨h, -⟩) <;> cases h

theorem kept_data : Kept .data notify ↔ notify ≠ .unsent := by
  constructor
  · rintro (h | ⟨-, h⟩)
    · cases h
    · exact h
  · exact fun h => .inr ⟨rfl, h⟩

variable {size : Nat}

theorem notifyFilled_sound {writes : List (Nat × Nat)}
    (hwrites : writes.forM (fun w => store size w.1 w.2) = some ()) (payload : Payload)
    (memory : Memory) (notify : Notify) (rc : Status) :
    Sound (notifyFilled size writes payload memory notify rc) ↔ Kept memory notify := by
  cases memory with
  | refused => exact ⟨fun _ => .inl rfl, fun _ => sound_of_nothing .noMemory⟩
  | noData => exact ⟨fun h => absurd h (not_sound_of_leak .unknownError), fun h => absurd h (not_kept_noData notify)⟩
  | data =>
    rw [kept_data, notifyFilled]
    dsimp only [bind, Option.bind]
    rw [hwrites]
    exact sound_send rc notify payload

theorem metaData_writes :
    [(0, 4), (4, 4), (8, 4)].forM (fun w : Nat × Nat => store (4 + 4 + 4) w.1 w.2) = some () := rfl

theorem fillFaces_some {h : Hal} {fd : FaceDetectionData} {sizes : FaceSizes} {size base n i : Nat}
    (hroom : base + (i + n) * sizes.face ≤ size) (hin : i + n ≤ maxRoi) :
    fillFaces h fd sizes size base n i = some ((fd.faces.drop i).take n |>.map h.mapFace) := by
  induction n generalizing i with
  | zero => rfl
  | succ n ih =>
    have hi : i < fd.faces.length := by rw [fd.faces_length]; omega
    have hstep : base + i * sizes.face + sizes.face ≤ size := by
      have hle : (i + 1) * sizes.face ≤ (i + (n + 1)) * sizes.face := Nat.mul_le_mul_right _ (by omega)
      rw [Nat.add_one_mul] at hle
      omega
    rw [fillFaces, List.getElem?_eq_getElem hi]
    dsimp only [bind, Option.bind]
    rw [store, if_pos hstep]
    dsimp only
    rw [ih (by rw [Nat.add_right_comm, Nat.add_assoc]; exact hroom) (by omega)]
    dsimp only
    rw [List.drop_eq_getElem_cons hi, List.take_succ_cons, List.map_cons]

variable {fd : FaceDetectionData} {sizes : FaceSizes}

theorem fillFaces_none {h : Hal} {base n i : Nat} (hpast : maxRoi < i + n) (hi : i ≤ maxRoi) :
    fillFaces h fd sizes size base n i = none := by
  induction n generalizing i with
  | zero => omega
  | succ n ih =>
    rw [fillFaces]
    dsimp only [bind, Option.bind]
    cases hface : fd.faces[i]? with
    | none => rfl
    | some info =>
      have hlt := (List.getElem?_eq_some_iff.mp hface).1
      rw [fd.faces_length] at hlt
      dsimp only
      cases store size (base + i * sizes.face) sizes.face with
      | none => rfl
      | some _ =>
        dsimp only
        rw [ih (by omega) (by omega)]

theorem fillRoiData_some {h : Hal} {faceData : Nat}
    (hroom : faceData + sizes.metadata + sizes.face * fd.numFacesDetected.toNat ≤ size)
    (hin : fd.numFacesDetected.toNat ≤ maxRoi) :
    fillRoiData h fd sizes size faceData = some ((fd.faces.take fd.numFacesDetected.toNat).map h.mapFace) := by
  have hfill := @fillFaces_some h fd sizes size (faceData + sizes.metadata) fd.numFacesDetected.toNat 0
    (by rw [Nat.zero_add, Nat.mul_comm]; exact hroom) (by rwa [Nat.zero_add])
  rw [fillRoiData, store, if_pos (by omega)]
  exact hfill

theorem fillRoiData_none {h : Hal} {faceData : Nat} (hpast : maxRoi < fd.numFacesDetected.toNat) :
    fillRoiData h fd sizes size faceData = none := by
  rw [fillRoiData]
  dsimp only [bind, Option.bind]
  cases store size faceData sizes.metadata with
  | none => rfl
  | some _ => exact fillFaces_none (by rwa [Nat.zero_add]) (Nat.zero_le _)

theorem not_sound_none : ¬Sound none := by
  rintro ⟨x, hx, -⟩
  cases hx

theorem faces_filled (sizes : FaceSizes) (h : Hal) (fd : FaceDetectionData) (notify : Notify)
    (hin : fd.numFacesDetected.toNat ≤ maxRoi) :
    ∃ payload n, notifyFaces sizes h fd notify =
      some (⟨notifyRc notify, .obtain :: send notify (some payload)⟩, n) := by
  rw [notifyFaces]
  dsimp only [bind, Option.bind]
  cases fd.fdType with
  | preview =>
    have hroom := Nat.mul_le_mul_left sizes.face hin
    dsimp only
    rw [fillRoiData_some (by omega) hin]
    exact ⟨_, _, rfl⟩
  | snapshot =>
    dsimp only
    rw [store, if_pos (by omega)]
    dsimp only
    rw [store, if_pos (by omega)]
    dsimp only
    by_cases hzero : 0 < fd.numFacesDetected.toNat
    · have hpos := sizes.metadata_pos
      rw [if_pos hzero, if_neg (by omega), fillRoiData_some (by omega) hin]
      exact ⟨_, _, rfl⟩
    · rw [if_neg hzero, if_pos rfl]
      exact ⟨_, _, rfl⟩

theorem faces_past (sizes : FaceSizes) (h : Hal) (fd : FaceDetectionData) (notify : Notify)
    (hpast : maxRoi < fd.numFacesDetected.toNat) : notifyFaces sizes h fd notify = none := by
  rw [notifyFaces]
  dsimp only [bind, Option.bind]
  cases fd.fdType with
  | preview =>
    dsimp only
    rw [fillRoiData_none hpast]
  | snapshot =>
    have hpos := sizes.metadata_pos
    have hsome : 0 < fd.numFacesDetected.toNat := Nat.zero_lt_of_lt hpast
    dsimp only
    rw [if_pos hsome, store, if_pos (by omega)]
    dsimp only
    rw [store, if_pos (by omega)]
    dsimp only
    rw [if_neg (by omega), fillRoiData_none hpast]

theorem faces_unwanted {sizes : FaceSizes} {h : Hal} {fd : FaceDetectionData} {memory : Memory} {notify : Notify}
    (hnot : ¬h.asksForFaces fd) :
    ∃ rc, processFaceDetectionResult sizes h fd memory notify = some (⟨rc, []⟩, h.numPreviewFaces) := by
  unfold processFaceDetectionResult
  by_cases henabled : h.faceDetectionEnabled = true
  · rw [if_neg (by simpa using henabled)]
    by_cases hwanted : h.dataCb = true ∧ h.facesWanted fd = true
    · rw [if_neg (by simpa using hwanted)]
      have hdim : h.displayWidth ≤ 0 ∨ h.displayHeight ≤ 0 := by
        by_contra hdim
        exact hnot ⟨henabled, hwanted.1, hwanted.2, by omega, by omega⟩
      exact ⟨.unknownError, if_pos hdim⟩
    · rw [if_pos (by simpa [Decidable.imp_iff_not_or] using hwanted)]
      exact ⟨.noError, rfl⟩
  · rw [if_pos (by simpa using henabled)]
    exact ⟨.noError, rfl⟩

theorem faces_asked {h : Hal} {memory : Memory} {notify : Notify} (hasks : h.asksForFaces fd) :
    Sound ((processFaceDetectionResult sizes h fd memory notify).map (·.1)) ↔
      Kept memory notify ∧ (memory = .data → fd.numFacesDetected.toNat ≤ maxRoi) := by
  obtain ⟨henabled, hdataCb, hwanted, hwidth, hheight⟩ := hasks
  unfold processFaceDetectionResult
  rw [if_neg (by simpa using henabled), if_neg (by simp [hdataCb, hwanted]),
    if_neg (by omega)]
  cases memory with
  | refused => exact ⟨fun _ => ⟨.inl rfl, fun hdata => by cases hdata⟩, fun _ => sound_of_nothing .noMemory⟩
  | noData => exact ⟨fun hsound => absurd hsound not_sound_none, fun hkept => absurd hkept.1 (not_kept_noData notify)⟩
  | data =>
    rw [kept_data]
    by_cases hin : fd.numFacesDetected.toNat ≤ maxRoi
    · obtain ⟨payload, n, hfill⟩ := faces_filled sizes h fd notify hin
      rw [hfill]
      exact (sound_send (notifyRc notify) notify payload).trans ⟨fun hrc => ⟨hrc, fun _ => hin⟩, fun hrc => hrc.1⟩
    · rw [faces_past sizes h fd notify (Nat.lt_of_not_le hin)]
      exact ⟨fun hsound => absurd hsound not_sound_none, fun hkept => absurd (hkept.2 rfl) hin⟩

theorem previewNv12_planes {info : StreamInfo} {dim : Dimension} {padding : PaddingInfo} {l : Layout}
    (h : previewNv12 info dim padding = some l) : ∃ y uv, l.planes = [y, uv] := by
  unfold previewNv12 at h
  obtain ⟨_, -, h⟩ := Option.bind_eq_some_iff.mp h
  obtain ⟨_, -, h⟩ := Option.bind_eq_some_iff.mp h
  obtain ⟨y, -, h⟩ := Option.bind_eq_some_iff.mp h
  obtain ⟨_, -, h⟩ := Option.bind_eq_some_iff.mp h
  obtain ⟨uv, -, h⟩ := Option.bind_eq_some_iff.mp h
  exact ⟨y, uv, pagedLayout_planes h⟩

theorem previewYv12_planes {dim : Dimension} {l : Layout} (h : previewYv12 dim = some l) :
    ∃ y c, l.planes = [y, c, c] ∧ dim.width ≤ y.stride ∧ dim.height ≤ y.scanline := by
  unfold previewYv12 at h
  obtain ⟨stride, hstride, h⟩ := Option.bind_eq_some_iff.mp h
  obtain ⟨scanline, hscan, h⟩ := Option.bind_eq_some_iff.mp h
  obtain ⟨y, hy, h⟩ := Option.bind_eq_some_iff.mp h
  obtain ⟨_, -, h⟩ := Option.bind_eq_some_iff.mp h
  obtain ⟨c, -, h⟩ := Option.bind_eq_some_iff.mp h
  have hwidth : dim.width ≤ stride := padInt_some hstride ▸ le_padToSize (by decide) _
  have hheight : dim.height ≤ scanline := padInt_some hscan ▸ le_padToSize (by decide) _
  obtain rfl := previewPlane_some hy
  exact ⟨_, c, pagedLayout_planes h, hwidth, hheight⟩

theorem yv12Size_eq (mp : Nat → PlaneInfo) : yv12Size mp = int ((mp 0).stride * (mp 0).scanline +
    (mp 1).stride * (mp 1).scanline + (mp 2).stride * (mp 2).scanline) := by
  by_cases hsum : (mp 0).stride * (mp 0).scanline + (mp 1).stride * (mp 1).scanline +
      (mp 2).stride * (mp 2).scanline < 2 ^ 31
  · rw [yv12Size, int_eq_some (by omega : (mp 0).stride * (mp 0).scanline < 2 ^ 31),
      int_eq_some (by omega : (mp 1).stride * (mp 1).scanline < 2 ^ 31),
      int_eq_some (by omega : (mp 2).stride * (mp 2).scanline < 2 ^ 31)]
    dsimp only [bind, Option.bind]
    rw [int_eq_some (by omega)]
  · rw [int, if_neg hsum]
    cases hrun : yv12Size mp with
    | none => rfl
    | some size =>
      obtain ⟨_, hy, h⟩ := Option.bind_eq_some_iff.mp hrun
      obtain ⟨_, hu, h⟩ := Option.bind_eq_some_iff.mp h
      obtain ⟨_, hv, h⟩ := Option.bind_eq_some_iff.mp h
      obtain ⟨_, hyu, h⟩ := Option.bind_eq_some_iff.mp h
      have hlt := int_lt h
      rw [int_some hyu, int_some hy, int_some hu, int_some hv] at hlt
      exact absurd hlt hsum

def PreviewFrame.nv (p : PreviewFrame) (h : previewNv12 p.info p.dim p.padding = some p.layout) : Preview where
  info := p.info
  dim := p.dim
  padding := p.padding
  layout := p.layout
  before := p.before
  frame := p.frame
  laid_out := h
  width_pos := p.width_pos
  height_pos := p.height_pos
  frame_size := p.frame_size

def PreviewFrame.HandedOver (p : PreviewFrame) (fresh : Nat → UInt8) : Prop :=
  (p.Small ∧ ∃ img, ∀ memory, handed p.info.fmt p.mp p.dim p.frame memory fresh =
    some (if memory then some img else none)) ∨
  (¬p.Small ∧ ∀ memory, handed p.info.fmt p.mp p.dim p.frame memory fresh = none)

variable {p : PreviewFrame}

theorem nv_handed (hfmt : p.info.fmt ≠ .yuv420Yv12)
    (h : previewNv12 p.info p.dim p.padding = some p.layout) (fresh : Nat → UInt8) :
    p.HandedOver fresh := by
  obtain ⟨y, uv, hplanes⟩ := previewNv12_planes h
  have hsmall : p.Small ↔ (p.nv h).Small := by
    rw [PreviewFrame.Small, Preview.Small, hplanes]
    simp [Preview.mp, PreviewFrame.nv, Layout.writeTo, hplanes]
  have hpad : (p.nv h).Padded := by
    simp [Preview.Padded, Preview.widthPadding, Preview.heightPadding, PreviewFrame.nv, p.stream]
  by_cases hs : (p.nv h).Small
  · refine .inl ⟨hsmall.mpr hs, (p.nv h).image, fun memory => ?_⟩
    rw [handed, if_neg hfmt]
    exact packed_of_small hs hpad fresh memory
  · refine .inr ⟨mt hsmall.mp hs, fun memory => ?_⟩
    rw [handed, if_neg hfmt]
    cases hrun : PreviewCallback.sendPreviewCallback p.mp p.dim p.frame memory fresh with
    | none => rfl
    | some r => exact absurd (send_some hrun).2 hs

theorem yv12_handed (hfmt : p.info.fmt = .yuv420Yv12) (h : previewYv12 p.dim = some p.layout)
    (fresh : Nat → UInt8) : p.HandedOver fresh := by
  obtain ⟨y, c, hplanes, hwidth, hheight⟩ := previewYv12_planes h
  have hmp : p.mp 0 = y ∧ p.mp 1 = c ∧ p.mp 2 = c := by simp [PreviewFrame.mp, Layout.writeTo, hplanes]
  have hpos : 0 < y.stride * y.scanline :=
    Nat.mul_pos (Nat.lt_of_lt_of_le p.width_pos hwidth) (Nat.lt_of_lt_of_le p.height_pos hheight)
  have hsize := yv12Size_eq p.mp
  rw [hmp.1, hmp.2.1, hmp.2.2] at hsize
  have hsmall : p.Small ↔ y.stride * y.scanline + c.stride * c.scanline + c.stride * c.scanline < 2 ^ 31 := by
    rw [PreviewFrame.Small, hplanes]
    simp [Nat.add_assoc]
  by_cases hs : p.Small
  · refine .inl ⟨hs, p.frame.take (y.stride * y.scanline + c.stride * c.scanline + c.stride * c.scanline),
      fun memory => ?_⟩
    rw [handed, if_pos hfmt, hsize, int_eq_some (hsmall.mp hs), Option.map_some]
    cases memory with
    | false => simp
    | true => rw [if_pos ⟨rfl, by omega⟩, if_pos rfl]
  · refine .inr ⟨hs, fun memory => ?_⟩
    rw [handed, if_pos hfmt, hsize, int, if_neg (mt hsmall.mpr hs), Option.map_none]

theorem handed_over
    (hfmt : p.info.fmt = .yuv420Nv21 ∨ p.info.fmt = .yuv420Nv12 ∨ p.info.fmt = .yuv420Yv12)
    (fresh : Nat → UInt8) : p.HandedOver fresh := by
  have hlaid := p.laid_out
  rw [previewLayout] at hlaid
  rcases hfmt with hfmt | hfmt | hfmt
  · rw [hfmt] at hlaid
    exact nv_handed (by rw [hfmt]; decide) (Option.some.inj hlaid) fresh
  · rw [hfmt] at hlaid
    exact nv_handed (by rw [hfmt]; decide) (Option.some.inj hlaid) fresh
  · rw [hfmt] at hlaid
    exact yv12_handed hfmt (Option.some.inj hlaid) fresh

theorem preview_sound (p : PreviewFrame) (memory : Memory) (notify : Notify) (fresh : Nat → UInt8)
    (hfmt : p.info.fmt = .yuv420Nv21 ∨ p.info.fmt = .yuv420Nv12 ∨ p.info.fmt = .yuv420Yv12) :
    Sound (sendPreviewCallback p.info.fmt p.mp p.dim p.frame memory notify fresh) ↔ p.Small ∧ Kept memory notify := by
  rw [sendPreviewCallback, if_pos hfmt]
  dsimp only [bind, Option.bind]
  rcases handed_over hfmt fresh with ⟨hsmall, img, hrun⟩ | ⟨hsmall, hrun⟩
  · rw [hrun]
    cases memory with
    | refused => exact ⟨fun _ => ⟨hsmall, .inl rfl⟩, fun _ => sound_of_nothing .noMemory⟩
    | noData => exact ⟨fun h => absurd h (not_sound_of_leak .noMemory), fun h => absurd h.2 (not_kept_noData notify)⟩
    | data =>
      rw [kept_data]
      exact (sound_send (notifyRc notify) notify (.image img)).trans ⟨fun h => ⟨hsmall, h⟩, fun h => h.2⟩
  · rw [hrun]
    exact ⟨fun h => absurd h not_sound_none, fun h => absurd h.1 hsmall⟩

theorem unsized_sound :
    Sound (some ⟨rc, if notify.queued then [.notified none false] else []⟩) ↔ notify = .refused := by
  constructor
  · rintro ⟨x, hx, -, hdata⟩
    obtain rfl := Option.some.inj hx
    cases notify with
    | refused => rfl
    | sent => exact absurd (hdata _ List.mem_cons_self) Bool.false_ne_true
    | unsent => exact absurd (hdata _ List.mem_cons_self) Bool.false_ne_true
  · rintro rfl
    exact sound_of_nothing rc

/-- A handler stays within its source and its memory, releases the memory once and queues data exactly where the
memory has data and `notifyCallback` does not fail with the notification queued; where the faces are not more than
those of the array; and where the preview has a format whose size is known and planes that are small enough. -/
theorem result_handled (sizes : FaceSizes) (fresh : Nat → UInt8) (h : Hal) (r : Result) (memory : Memory)
    (notify : Notify) : Sound (handle sizes fresh h r memory notify) ↔ Meets h r memory notify := by
  cases r with
  | faces fd =>
    by_cases hasks : h.asksForFaces fd
    · exact (faces_asked hasks).trans ⟨fun hsound _ => hsound, fun hmeets => hmeets hasks⟩
    · obtain ⟨rc, hrun⟩ := @faces_unwanted sizes h fd memory notify hasks
      rw [handle, hrun]
      exact ⟨fun _ hyes => absurd hyes hasks, fun _ => sound_of_nothing rc⟩
  | histogram stats =>
    rw [handle, processHistogramStats, Meets]
    by_cases henabled : h.histogramEnabled = true
    · rw [if_neg (by simpa using henabled), notifyFilled_sound rfl]
      exact ⟨fun hkept _ => hkept, fun hmeets => hmeets henabled⟩
    · rw [if_pos (by simpa using henabled)]
      exact ⟨fun _ hyes => absurd hyes henabled, fun _ => sound_of_nothing .noError⟩
  | hdrScene isHdrScene confident =>
    rw [handle, processHDRData, Meets]
    by_cases hmsg : h.metaDataMsg = true
    · rw [if_pos hmsg, notifyFilled_sound metaData_writes]
      exact ⟨fun hkept _ => hkept, fun hmeets => hmeets hmsg⟩
    · rw [if_neg hmsg]
      exact ⟨fun _ hyes => absurd hyes hmsg, fun _ => sound_of_nothing .noError⟩
  | autoScene scene => exact notifyFilled_sound metaData_writes (.metaData .asd 4 [scene.toInt]) memory notify .noError
  | preview p =>
    rw [handle, Meets]
    by_cases hfmt : p.info.fmt = .yuv420Nv21 ∨ p.info.fmt = .yuv420Nv12 ∨ p.info.fmt = .yuv420Yv12
    · rw [if_pos hfmt, preview_sound p memory notify fresh hfmt]
    · rw [if_neg hfmt, sendPreviewCallback, if_neg hfmt]
      exact unsized_sound (notifyRc notify) notify

def everythingOn : Hal := ⟨true, true, true, true, true, true, 0, 1280, 720⟩

def noFace : FaceInfo := ⟨0, 0, ⟨0, 0, 0, 0⟩, ⟨0, 0⟩, ⟨0, 0⟩, ⟨0, 0⟩, 0, 0, 0, 0, 0, 0, 0, 0, 0, 0, 0, 0⟩

def sixFaces : FaceDetectionData := ⟨6, List.replicate 5 noFace, .preview, rfl⟩

def adrenoFrame : PreviewFrame where
  build := ⟨false, none⟩
  info := ⟨.yuv420Nv21Adreno, .preview, false, 0⟩
  dim := ⟨64, 64⟩
  padding := ⟨32, 2, 4096⟩
  layout := ⟨[⟨4096, 0, 0, 0, 64, 64, 64, 64⟩, ⟨4096, 0, 0, 0, 64, 32, 64, 32⟩], 8192⟩
  before := ⟨0, fun _ => ⟨0, 0, 0, 0, 0, 0, 0, 0⟩, 0⟩
  frame := List.replicate 8192 0
  format := by decide
  stream := rfl
  laid_out := rfl
  width_pos := by decide
  height_pos := by decide
  frame_size := List.length_replicate

/-- The sixth face of a snapshot is read behind the array, a histogram's memory without data is not released, and a
preview for the Adreno is sent without data. -/
theorem sixth_face_read_past_end :
    ¬Sound (handle ⟨8, 72, by decide⟩ (fun _ => 0) everythingOn (.faces (zslFaces true sixFaces)) .data .sent) ∧
    ¬Sound (handle ⟨8, 72, by decide⟩ (fun _ => 0) everythingOn (.histogram (.yuv ⟨0, []⟩)) .noData .sent) ∧
    ¬Sound (handle ⟨8, 72, by decide⟩ (fun _ => 0) everythingOn (.preview adrenoFrame) .data .sent) :=
  ⟨not_sound_none, not_sound_of_leak .unknownError, fun h => absurd ((unsized_sound .noError .sent).mp h) (by decide)⟩

end Wt88047.NotifyMemory
