import Wt88047.Gps.LocCfg
import Wt88047.MmCamera.Superbuf

/-! How many snapshots are taken and how many buffers the streams need. The functions compute with `int` and return
`uint8_t`; the same formulas are read here with and without these types. -/

namespace Wt88047.SnapshotCounts

open LocCfg (Text strtok)
open Superbuf (StreamType)

structure Casts where
  uint8 : Int → Int
  int : Int → Int

def source : Casts := ⟨fun z => z % 256, fun z => z.bmod (2 ^ 32)⟩

def unbounded : Casts := ⟨fun z => z, fun z => z⟩

structure Capability where
  ubifocusBurstCount : UInt8
  refocusBurstCount : UInt8
  refocusOutputCount : UInt8
  mtfBurstCount : UInt8
  mtfOutputCount : UInt8
  optiZoomBurstCount : UInt8
  zoomThreshold : UInt8
  fssrBurstCount : UInt8
  hdrNumFrames : UInt32
  minNumPpBufs : UInt32
  usePixForSOC : Bool

/-- What the functions read of `QCameraParameters`. `burstNum`, `zslQueueDepth` and `zoom` are what `getInt` gives,
`snapshotNumber` and `longshotStages` the system properties, `burstNumBefore` and `numSnapshotBefore` what was set
before; `exposuresWhenOn` is the list of exposures when bracketing was turned on, `exposures` the list now. The last
two are whether there is memory to count either list. -/
structure Parameters where
  capability : Capability
  burstNum : Int
  snapshotNumber : Int
  burstNumBefore : UInt8
  afBracketingOn : Bool
  reFocusOn : Bool
  multiTouchFocusOn : Bool
  mtfBracketBurstCount : UInt8
  currNumBufMTF : UInt8
  optiZoomOn : Bool
  zoom : Int
  fssrOn : Bool
  chromaFlashOn : Bool
  hdrEnabled : Bool
  hdrSceneEnabled : Bool
  hdr1xFrameEnabled : Bool
  hdr1xExtraBufferNeeded : Bool
  aeBracket : Option Text
  exposures : Option Text
  exposuresWhenOn : Option Text
  seeMoreOn : Bool
  zslMode : Bool
  recordingHint : Bool
  lowMemoryDevice : Bool
  zslQueueDepth : Int
  maxLongshotNum : Int32
  longshotStages : Int
  numSnapshotBefore : Int
  setMemory : Bool
  getMemory : Bool

namespace Parameters

variable (c : Casts) (p : Parameters)

def isUbiFocusEnabled : Bool := p.afBracketingOn && !p.reFocusOn

def isUbiRefocus : Bool := p.reFocusOn && 1 < p.capability.refocusOutputCount

def isMultiTouchFocusEnabled : Bool := p.multiTouchFocusOn && (1 < p.mtfBracketBurstCount || 1 < p.currNumBufMTF)

def isMTFRefocus : Bool := p.isMultiTouchFocusEnabled && 1 < p.capability.mtfOutputCount

def isOptiZoomEnabled : Bool := p.optiZoomOn && (p.capability.zoomThreshold.toNat : Int) ≤ p.zoom % 256

def isHDREnabled (burstNum : Int) : Bool := burstNum == 1 && (p.hdrEnabled || p.hdrSceneEnabled)

def isAdvCamFeaturesEnabled (burstNum : Int) : Bool :=
  p.isUbiFocusEnabled || p.chromaFlashOn || p.isOptiZoomEnabled || p.isUbiRefocus || p.isHDREnabled burstNum ||
    p.fssrOn || p.isMultiTouchFocusEnabled

def getBurstNum : Int :=
  let n := if p.burstNum ≤ 0 then
      let n := if p.isAdvCamFeaturesEnabled p.burstNumBefore.toNat then 1 else p.snapshotNumber
      if n ≤ 0 then 1 else n
    else p.burstNum
  c.uint8 n

def hdr : Bool := p.isHDREnabled (p.getBurstNum c)

def getNumOfExtraHDROutBufsIfNeeded : Int :=
  c.uint8 ((if p.hdr c && p.hdr1xFrameEnabled then 1 else 0) * p.getBurstNum c)

def extraHdrIn : Int :=
  (if p.hdr c then
    p.capability.hdrNumFrames.toNat + (if p.hdr1xFrameEnabled && p.hdr1xExtraBufferNeeded then 1 else 0) - 1 else 0) *
      p.getBurstNum c

def getNumOfExtraHDRInBufsIfNeeded : Int := c.uint8 (p.extraHdrIn c)

def countExposures (list : Text) : Int := max 1 (strtok ',' list).length

/-- `AE_BRACKET` -/
def aeBracketOn : Text := ['A', 'E', '-', 'B', 'r', 'a', 'c', 'k', 'e', 't']

def aeBracketOff : Text := ['O', 'f', 'f']

/-- `nExpnum` -/
def numExposures : Int :=
  match p.aeBracket with
  | none => 0
  | some str =>
    if str = [] then 0
    else if str = aeBracketOn then countExposures (p.exposures.getD [])
    else 1 + p.getNumOfExtraHDROutBufsIfNeeded c

/-- `setNumOfSnapshot` fails with `NO_MEMORY`. -/
def setFails : Bool := p.aeBracket = some aeBracketOn && !(p.exposures.getD []).isEmpty && !p.setMemory

def setNumOfSnapshot : Int :=
  let nBurstNum := if p.isUbiRefocus then (p.capability.refocusOutputCount.toNat : Int) + 1 else p.getBurstNum c
  if p.setFails then p.numSnapshotBefore else c.int (nBurstNum * p.numExposures c)

def getNumOfSnapshots : Int :=
  let val := p.setNumOfSnapshot c
  if 0 < val then c.uint8 val else 1

/-- `m_AEBracketingClient.values`, an array of `MAX_EXP_BRACKETING_LENGTH` characters that `strlcpy` fills. -/
def clientValues : Text :=
  if p.aeBracket = some aeBracketOn then (p.exposuresWhenOn.getD []).take (32 - 1) else []

def isAEBracketEnabled : Bool := p.aeBracket.any fun str => str ≠ aeBracketOff

inductive Mode
  | ubiFocus | ubiRefocus | optiZoom | fssr | chromaFlash | multiTouchFocus | hdr | aeBracket | none
  deriving DecidableEq

def mode : Mode :=
  if p.isUbiFocusEnabled then .ubiFocus
  else if p.isUbiRefocus then .ubiRefocus
  else if p.isOptiZoomEnabled then .optiZoom
  else if p.fssrOn then .fssr
  else if p.chromaFlashOn then .chromaFlash
  else if p.isMultiTouchFocusEnabled then .multiTouchFocus
  else if p.hdr c then .hdr
  else if p.isAEBracketEnabled then .aeBracket
  else .none

/-- Without memory for the list the function returns `NO_MEMORY`, which is -12. -/
def advancedBurstCount : Int :=
  let burstCount : Int := match p.mode c with
    | .ubiFocus => p.capability.ubifocusBurstCount.toNat
    | .ubiRefocus => p.capability.refocusBurstCount.toNat
    | .optiZoom => p.capability.optiZoomBurstCount.toNat
    | .fssr => p.capability.fssrBurstCount.toNat
    | .chromaFlash => 2
    | .multiTouchFocus => p.currNumBufMTF.toNat
    | .hdr => p.capability.hdrNumFrames.toNat
    | .aeBracket => (strtok ',' p.clientValues).length
    | .none => 0
  if p.mode c = .aeBracket ∧ !p.clientValues.isEmpty ∧ !p.getMemory then -12
  else if burstCount ≤ 0 then 1 else burstCount

def getBurstCountForAdvancedCapture : Int := c.uint8 (p.advancedBurstCount c)

def imageProcBufs : Int :=
  if p.isUbiRefocus then p.capability.refocusBurstCount.toNat - 1
  else
    (if p.isUbiFocusEnabled then (p.capability.ubifocusBurstCount.toNat : Int) - 1
    else if p.multiTouchFocusOn then
      p.capability.mtfBurstCount.toNat - 1 + if p.isMTFRefocus then p.capability.mtfBurstCount.toNat + 1 else 0
    else if p.optiZoomOn then p.capability.optiZoomBurstCount.toNat - 1
    else if p.chromaFlashOn then 1
    else if p.fssrOn then p.capability.fssrBurstCount.toNat - 1
    else 0) * p.getBurstNum c

def getNumOfExtraBuffersForImageProc : Int := c.uint8 (p.imageProcBufs c)

def getNumOfExtraBuffersForVideo : Int := if p.seeMoreOn then 1 else 0

def getNumOfExtraBuffersForPreview : Int := if p.seeMoreOn && !p.zslMode && p.recordingHint then 1 else 0

def zslDepth : Int :=
  if p.lowMemoryDevice then 1 else if p.zslQueueDepth < 0 then 2 else p.zslQueueDepth

def getZSLQueueDepth : Int := c.uint8 p.zslDepth

def maxUnmatched : Int := p.capability.minNumPpBufs.toNat + p.getBurstNum c / 10

def getMaxUnmatchedFramesInQueue : Int := c.uint8 (p.maxUnmatched c)

/-- At least `MIN_LONGSHOT_LIMITED_BUFFERS`. -/
def getNumOfBuffersForLongshotLimitedMode : Int := max 9 (c.int (p.maxLongshotNum.toInt - 1))

/-- `CAMERA_DEFAULT_LONGSHOT_STAGES` and `CAMERA_MIN_LONGSHOT_STAGES` are 4 and 2. -/
def getLongshotStages : Int :=
  let propStages := c.uint8 p.longshotStages
  if 0 < propStages ∧ propStages ≤ 4 then propStages else if p.lowMemoryDevice then 2 else 4

end Parameters

/-- What `getBufNumRequired` reads of the HAL; `previewWindow` is what the window says of its undequeued buffers,
or leaves at 0. -/
structure Hal where
  parameters : Parameters
  noDisplayMode : Bool
  previewWindow : Option Int
  longshotEnabled : Bool
  longshotSnapLimited : Bool
  sensorYuv : Bool

structure Counts where
  snapshots : Int
  zslQBuffers : Int
  maxUnmatched : Int
  extraHdrIn : Int
  extraHdrOut : Int
  imageProc : Int
  longshotLimited : Int
  longshotStages : Int

def counts (c : Casts) (p : Parameters) : Counts where
  snapshots := p.getNumOfSnapshots c
  zslQBuffers := p.getZSLQueueDepth c
  maxUnmatched := p.getMaxUnmatchedFramesInQueue c
  extraHdrIn := p.getNumOfExtraHDRInBufsIfNeeded c
  extraHdrOut := p.getNumOfExtraHDROutBufsIfNeeded c
  imageProc := p.getNumOfExtraBuffersForImageProc c
  longshotLimited := p.getNumOfBuffersForLongshotLimitedMode c
  longshotStages := p.getLongshotStages c

namespace Hal

/-- `getMinPPBufs` gives `MIN_PP_BUF_CNT`, which is 1. -/
def minPPBufs : Int := 1

def minUndequeCount (h : Hal) : Int := if h.noDisplayMode then 0 else h.previewWindow.getD 2

/-- `CAMERA_MIN_JPEG_ENCODING_BUFFERS` is 2. -/
def minCircularBufNum (k : Counts) : Int := k.maxUnmatched + 2

/-- `EXTRA_ZSL_PREVIEW_STREAM_BUF` is 2. -/
def maxStreamBuf (k : Counts) : Int :=
  k.zslQBuffers + minCircularBufNum k + k.extraHdrIn - k.extraHdrOut + k.imageProc + 2

/-- `isLongshotSnapLimited() && mLongshotEnabled` -/
def longshotLimited (h : Hal) : Bool := h.longshotSnapLimited && h.longshotEnabled

/-- `CAMERA_ISP_PING_PONG_BUFFERS` is 2. -/
def pingPong (h : Hal) : Int := if h.sensorYuv && !h.parameters.capability.usePixForSOC then 2 else 0

def captureBufs (k : Counts) : Int := k.snapshots + k.extraHdrIn - k.extraHdrOut + k.imageProc

/-- `bufferCnt`; `CAMERA_MIN_STREAMING_BUFFERS` is 3 and `CAMERA_MIN_VIDEO_BUFFERS` 9. -/
def bufferCnt (h : Hal) (k : Counts) : StreamType → Int
  | .preview =>
    (if h.parameters.zslMode then
      if h.longshotLimited then k.longshotLimited
      else k.zslQBuffers + minCircularBufNum k + k.imageProc + 2 + h.parameters.getNumOfExtraBuffersForPreview +
        k.extraHdrIn
    else 3 + k.maxUnmatched + h.parameters.getNumOfExtraBuffersForPreview) + h.minUndequeCount
  | .postview => min (captureBufs k + minPPBufs) (maxStreamBuf k) + h.minUndequeCount
  | .snapshot =>
    if h.parameters.zslMode || h.longshotEnabled then
      (if k.snapshots = 1 ∧ !h.longshotEnabled then k.zslQBuffers + 3 + k.imageProc + k.extraHdrIn
      else if h.longshotLimited then k.longshotLimited
      else k.zslQBuffers + minCircularBufNum k + k.imageProc + k.extraHdrIn) - h.pingPong
    else min (captureBufs k) (maxStreamBuf k)
  | .raw =>
    if h.parameters.zslMode then k.zslQBuffers + minCircularBufNum k - h.pingPong
    else min (captureBufs k) (maxStreamBuf k)
  | .video => 9 + h.parameters.getNumOfExtraBuffersForVideo
  | .metadata =>
    (if h.parameters.zslMode && h.longshotLimited then k.longshotLimited
    else min (if h.parameters.zslMode then maxStreamBuf k else captureBufs k + k.maxUnmatched + 3) (maxStreamBuf k)) +
      h.minUndequeCount
  | .offlineProc => min (if h.longshotEnabled then k.longshotStages else k.snapshots) (maxStreamBuf k)
  | _ => 0

def getBufNumRequired (c : Casts) (h : Hal) (t : StreamType) : Int :=
  c.uint8 (h.bufferCnt (counts c h.parameters) t)

end Hal

def needsBuffers : StreamType → Bool
  | .preview | .postview | .snapshot | .raw | .video | .metadata | .offlineProc => true
  | _ => false

/-- A count is what its formula gives where that fits in 8 bits, and the largest value where it does not. -/
def Right (count formula : Int) : Prop :=
  (0 ≤ formula ∧ formula ≤ 255 → count = formula) ∧ (¬(0 ≤ formula ∧ formula ≤ 255) → count = 255)

/-- The exposures that `setNumOfSnapshot` counts are those that are counted of the list sent to the backend. -/
def SameExposures (p : Parameters) : Prop :=
  p.mode source = .aeBracket → p.setFails = false →
    p.numExposures source = Parameters.countExposures p.clientValues

structure Hal.Counted (h : Hal) : Prop where
  snapshots : Right (h.parameters.getNumOfSnapshots source) (h.parameters.getNumOfSnapshots unbounded)
  snapshots_pos : 1 ≤ h.parameters.getNumOfSnapshots source
  burst : Right (h.parameters.getBurstCountForAdvancedCapture source)
    (h.parameters.getBurstCountForAdvancedCapture unbounded)
  burst_pos : 1 ≤ h.parameters.getBurstCountForAdvancedCapture source
  hdrIn : Right (h.parameters.getNumOfExtraHDRInBufsIfNeeded source)
    (h.parameters.getNumOfExtraHDRInBufsIfNeeded unbounded)
  buffers : ∀ t, needsBuffers t → Right (h.getBufNumRequired source t) (h.getBufNumRequired unbounded t)
  buffers_pos : ∀ t, needsBuffers t → 1 ≤ h.getBufNumRequired source t
  exposures : SameExposures h.parameters

structure Exact (p : Parameters) : Prop where
  burstNum : p.getBurstNum unbounded ≤ 255
  snapshots : p.setNumOfSnapshot unbounded ≤ 255
  hdrIn : 0 ≤ p.extraHdrIn unbounded ∧ p.extraHdrIn unbounded ≤ 255
  imageProc : 0 ≤ p.imageProcBufs unbounded ∧ p.imageProcBufs unbounded ≤ 255
  zslQueue : p.zslDepth ≤ 255
  unmatched : p.maxUnmatched unbounded ≤ 255
  longshotNum : -(2 ^ 31) < p.maxLongshotNum.toInt
  longshotStages : 0 < p.longshotStages % 256 ∧ p.longshotStages % 256 ≤ 4 → 0 < p.longshotStages ∧ p.longshotStages ≤ 4

def Lands (n : Int) : Prop := 1 ≤ n ∧ n ≤ 255 ∨ n % 256 = 255

def ListKept (p : Parameters) : Prop :=
  p.mode unbounded = .aeBracket → p.setFails = false → p.aeBracket ≠ some [] ∧
    (p.aeBracket = some Parameters.aeBracketOn → Parameters.countExposures (p.exposures.getD []) =
      Parameters.countExposures ((p.exposuresWhenOn.getD []).take (32 - 1)))

structure Hal.Fits (h : Hal) : Prop where
  burst : Lands (h.parameters.advancedBurstCount unbounded)
  buffers : ∀ t, needsBuffers t → Lands (h.bufferCnt (counts unbounded h.parameters) t)
  exposures : ListKept h.parameters

theorem uint8_eq {z : Int} (hpos : 0 ≤ z) (hle : z ≤ 255) : source.uint8 z = z := by
  simp only [source]
  omega

theorem right_of_fits {z : Int} (hpos : 0 ≤ z) (hle : z ≤ 255) : Right z z :=
  ⟨fun _ => rfl, fun hnot => absurd ⟨hpos, hle⟩ hnot⟩

theorem right_iff_lands (z : Int) : Right (source.uint8 z) z ∧ 1 ≤ source.uint8 z ↔ Lands z := by
  simp only [Right, Lands, source]
  omega

namespace Parameters

variable {p : Parameters}

theorem getBurstNum_pos (p : Parameters) : 1 ≤ p.getBurstNum unbounded := by
  rw [getBurstNum]
  dsimp only [unbounded]
  split
  · split <;> omega
  · omega

theorem getBurstNum_eq (h : Exact p) : p.getBurstNum source = p.getBurstNum unbounded :=
  uint8_eq (Int.le_trans (by decide) (getBurstNum_pos p)) h.burstNum

theorem hdr_eq (h : Exact p) : p.hdr source = p.hdr unbounded := by rw [hdr, hdr, getBurstNum_eq h]

theorem mode_eq (h : Exact p) : p.mode source = p.mode unbounded := by rw [mode, mode, hdr_eq h]

theorem extraHdrIn_eq (h : Exact p) : p.extraHdrIn source = p.extraHdrIn unbounded := by
  rw [extraHdrIn, extraHdrIn, hdr_eq h, getBurstNum_eq h]

theorem getNumOfExtraHDRIn_eq (h : Exact p) :
    p.getNumOfExtraHDRInBufsIfNeeded source = p.getNumOfExtraHDRInBufsIfNeeded unbounded := by
  rw [getNumOfExtraHDRInBufsIfNeeded, extraHdrIn_eq h]
  exact uint8_eq h.hdrIn.1 h.hdrIn.2

theorem getBurstNum_of_hdr {c : Casts} (h : p.hdr c = true) : p.getBurstNum c = 1 := by
  rw [hdr, isHDREnabled, Bool.and_eq_true] at h
  exact eq_of_beq h.1

theorem extraHdrOut_le (p : Parameters) : 0 ≤ p.getNumOfExtraHDROutBufsIfNeeded unbounded ∧
    p.getNumOfExtraHDROutBufsIfNeeded unbounded ≤ 1 := by
  have hval : p.getNumOfExtraHDROutBufsIfNeeded unbounded =
      (if p.hdr unbounded && p.hdr1xFrameEnabled then 1 else 0) * p.getBurstNum unbounded := rfl
  rw [hval]
  split
  · rename_i hon
    rw [getBurstNum_of_hdr (Bool.and_eq_true _ _ ▸ hon).1]
    decide
  · rw [Int.zero_mul]
    decide

theorem getNumOfExtraHDROut_eq (h : Exact p) :
    p.getNumOfExtraHDROutBufsIfNeeded source = p.getNumOfExtraHDROutBufsIfNeeded unbounded := by
  obtain ⟨hpos, hle⟩ := extraHdrOut_le p
  have hcut : p.getNumOfExtraHDROutBufsIfNeeded source =
      source.uint8 (p.getNumOfExtraHDROutBufsIfNeeded unbounded) := by
    rw [getNumOfExtraHDROutBufsIfNeeded, getNumOfExtraHDROutBufsIfNeeded, hdr_eq h, getBurstNum_eq h]
    rfl
  rw [hcut]
  exact uint8_eq hpos (by omega)

theorem numExposures_eq (h : Exact p) : p.numExposures source = p.numExposures unbounded := by
  rw [numExposures, numExposures, getNumOfExtraHDROut_eq h]

theorem numExposures_nonneg (p : Parameters) : 0 ≤ p.numExposures unbounded := by
  have hout := (extraHdrOut_le p).1
  rw [numExposures]
  split
  · exact Int.le_refl 0
  · split
    · exact Int.le_refl 0
    · split
      · exact Int.le_trans (by decide) (Int.le_max_left 1 _)
      · omega

theorem setNumOfSnapshot_eq (h : Exact p) : p.setNumOfSnapshot source = p.setNumOfSnapshot unbounded := by
  have hle := h.snapshots
  rw [setNumOfSnapshot] at hle ⊢
  rw [setNumOfSnapshot, getBurstNum_eq h, numExposures_eq h]
  by_cases hfails : p.setFails = true
  · rw [if_pos hfails, if_pos hfails]
  · rw [if_neg hfails] at hle
    rw [if_neg hfails, if_neg hfails]
    have hburst := getBurstNum_pos p
    have hpos : 0 ≤ (if p.isUbiRefocus = true then (p.capability.refocusOutputCount.toNat : Int) + 1
        else p.getBurstNum unbounded) * p.numExposures unbounded := by
      refine Int.mul_nonneg ?_ (numExposures_nonneg p)
      split <;> omega
    simp only [unbounded, source] at hle hpos ⊢
    exact Int.bmod_eq_of_le (by omega) (by omega)

theorem getNumOfSnapshots_eq (h : Exact p) : p.getNumOfSnapshots source = p.getNumOfSnapshots unbounded := by
  rw [getNumOfSnapshots, getNumOfSnapshots, setNumOfSnapshot_eq h]
  split
  · rename_i hpos
    exact uint8_eq (Int.le_of_lt hpos) h.snapshots
  · rfl

theorem getNumOfSnapshots_range (h : Exact p) :
    1 ≤ p.getNumOfSnapshots unbounded ∧ p.getNumOfSnapshots unbounded ≤ 255 := by
  have hle := h.snapshots
  rw [getNumOfSnapshots]
  split
  · rename_i hpos
    exact ⟨hpos, hle⟩
  · decide

theorem imageProc_eq (h : Exact p) :
    p.getNumOfExtraBuffersForImageProc source = p.getNumOfExtraBuffersForImageProc unbounded := by
  have hsame : p.imageProcBufs source = p.imageProcBufs unbounded := by
    rw [imageProcBufs, imageProcBufs, getBurstNum_eq h]
  rw [getNumOfExtraBuffersForImageProc, hsame]
  exact uint8_eq h.imageProc.1 h.imageProc.2

theorem zslDepth_nonneg (p : Parameters) : 0 ≤ p.zslDepth := by
  rw [zslDepth]
  split
  · decide
  · split <;> omega

theorem getZSLQueueDepth_eq (h : Exact p) : p.getZSLQueueDepth source = p.getZSLQueueDepth unbounded :=
  uint8_eq (zslDepth_nonneg p) h.zslQueue

theorem getMaxUnmatched_eq (h : Exact p) :
    p.getMaxUnmatchedFramesInQueue source = p.getMaxUnmatchedFramesInQueue unbounded := by
  have hpos : 0 ≤ p.maxUnmatched unbounded := by
    have hburst := getBurstNum_pos p
    rw [maxUnmatched]
    omega
  have hsame : p.maxUnmatched source = p.maxUnmatched unbounded := by rw [maxUnmatched, maxUnmatched, getBurstNum_eq h]
  rw [getMaxUnmatchedFramesInQueue, hsame]
  exact uint8_eq hpos h.unmatched

theorem longshotLimited_eq (h : Exact p) :
    p.getNumOfBuffersForLongshotLimitedMode source = p.getNumOfBuffersForLongshotLimitedMode unbounded := by
  have hlow := h.longshotNum
  have hhigh := p.maxLongshotNum.toInt_lt
  have hkeep : source.int (p.maxLongshotNum.toInt - 1) = unbounded.int (p.maxLongshotNum.toInt - 1) :=
    Int.bmod_eq_of_le (by omega) (by omega)
  rw [getNumOfBuffersForLongshotLimitedMode, getNumOfBuffersForLongshotLimitedMode, hkeep]

theorem getLongshotStages_eq (h : Exact p) : p.getLongshotStages source = p.getLongshotStages unbounded := by
  have hstages := h.longshotStages
  rw [getLongshotStages, getLongshotStages]
  by_cases hcut : 0 < source.uint8 p.longshotStages ∧ source.uint8 p.longshotStages ≤ 4
  · have hraw : 0 < unbounded.uint8 p.longshotStages ∧ unbounded.uint8 p.longshotStages ≤ 4 := hstages hcut
    rw [if_pos hcut, if_pos hraw]
    exact uint8_eq (Int.le_of_lt hraw.1) (Int.le_trans hraw.2 (by decide))
  · have hraw : ¬(0 < unbounded.uint8 p.longshotStages ∧ unbounded.uint8 p.longshotStages ≤ 4) := by
      intro hraw
      have hsame : source.uint8 p.longshotStages = unbounded.uint8 p.longshotStages :=
        uint8_eq (Int.le_of_lt hraw.1) (Int.le_trans hraw.2 (by decide))
      exact hcut (hsame ▸ hraw)
    rw [if_neg hcut, if_neg hraw]

end Parameters

theorem counts_eq {p : Parameters} (h : Exact p) : counts source p = counts unbounded p := by
  rw [counts, counts, Parameters.getNumOfSnapshots_eq h, Parameters.getZSLQueueDepth_eq h,
    Parameters.getMaxUnmatched_eq h, Parameters.getNumOfExtraHDRIn_eq h, Parameters.getNumOfExtraHDROut_eq h,
    Parameters.imageProc_eq h, Parameters.longshotLimited_eq h, Parameters.getLongshotStages_eq h]

theorem advancedBurstCount_eq {p : Parameters} (h : Exact p) :
    p.advancedBurstCount source = p.advancedBurstCount unbounded := by
  rw [Parameters.advancedBurstCount, Parameters.advancedBurstCount, Parameters.mode_eq h]

theorem Parameters.bracket_of_mode {c : Casts} {p : Parameters} (h : p.mode c = .aeBracket) :
    p.hdr c = false ∧ p.isAEBracketEnabled = true := by
  rw [mode] at h
  grind

theorem sameExposures_iff {p : Parameters} (h : Exact p) : SameExposures p ↔ ListKept p := by
  rw [SameExposures, ListKept, Parameters.mode_eq h]
  refine imp_congr_right fun hmode => imp_congr_right fun _ => ?_
  obtain ⟨hhdr, hbracket⟩ := Parameters.bracket_of_mode hmode
  rw [Parameters.numExposures_eq h]
  cases hstr : p.aeBracket with
  | none => simp [Parameters.isAEBracketEnabled, hstr] at hbracket
  | some str =>
    rw [Parameters.numExposures, Parameters.clientValues, hstr]
    dsimp only
    by_cases hempty : str = []
    · have hoff : ¬some str = some Parameters.aeBracketOn := by rw [hempty]; decide
      rw [if_pos hempty, if_neg hoff, hempty]
      simp [Parameters.countExposures, strtok, LocCfg.strtokFrom]
    · rw [if_neg hempty]
      by_cases hon : str = Parameters.aeBracketOn
      · rw [if_pos hon, if_pos (congrArg some hon)]
        exact ⟨fun hsame => ⟨fun heq => hempty (Option.some.inj heq), fun _ => hsame⟩, fun hkept => hkept.2 (hon ▸ rfl)⟩
      · have hoff : ¬some str = some Parameters.aeBracketOn := fun heq => hon (Option.some.inj heq)
        have hout : p.getNumOfExtraHDROutBufsIfNeeded unbounded = 0 := by
          rw [Parameters.getNumOfExtraHDROutBufsIfNeeded, hhdr]
          exact Int.zero_mul _
        rw [if_neg hon, if_neg hoff, hout]
        exact ⟨fun _ => ⟨fun heq => hempty (Option.some.inj heq), fun heq => absurd heq hoff⟩, fun _ => rfl⟩

theorem listKept_of_short {p : Parameters} (hbracket : p.aeBracket ≠ some []) (hsame : p.exposuresWhenOn = p.exposures)
    (hshort : (p.exposures.getD []).length < 32) : ListKept p := by
  refine fun _ _ => ⟨hbracket, fun _ => ?_⟩
  rw [hsame, List.take_of_length_le (by omega)]

def smallCapability : Capability := ⟨5, 5, 2, 5, 2, 8, 2, 8, 3, 2, false⟩

def bracketed : Hal where
  parameters :=
    { capability := smallCapability, burstNum := 2, snapshotNumber := 0, burstNumBefore := 1, afBracketingOn := false
      reFocusOn := false, multiTouchFocusOn := false, mtfBracketBurstCount := 0, currNumBufMTF := 0
      optiZoomOn := false, zoom := 0, fssrOn := false, chromaFlashOn := false, hdrEnabled := false
      hdrSceneEnabled := false, hdr1xFrameEnabled := false, hdr1xExtraBufferNeeded := false
      aeBracket := some Parameters.aeBracketOn, exposures := some ['0', ',', '6']
      exposuresWhenOn := some ['0', ',', '6'], seeMoreOn := false, zslMode := true, recordingHint := false
      lowMemoryDevice := false, zslQueueDepth := 2, maxLongshotNum := -1, longshotStages := 0
      numSnapshotBefore := 1, setMemory := true, getMemory := true }
  noDisplayMode := false
  previewWindow := some 2
  longshotEnabled := false
  longshotSnapLimited := false
  sensorYuv := false

end Wt88047.SnapshotCounts
