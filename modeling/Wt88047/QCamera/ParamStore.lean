import Wt88047.Lib.Staging
import Wt88047.QCamera.ParamBatch

/-! The parameter map of `QCameraParameters`, the changes staged beside it, and what the backend has
accepted. -/

namespace Wt88047.ParamStore

open Params (align4 entrySize capacity)

inductive SetterParm
  | fpsRange
  | zslMode
  | hfr
  | other (n : Nat)
  deriving DecidableEq

inductive ParmType
  | ledMode
  | frameSkip
  | setter (p : SetterParm)
  deriving DecidableEq

abbrev Data := List UInt8

def int32 (v : Int) : Data := Bytes.bytes 4 (v % 2 ^ 32).toNat

abbrev camFlashModeOff : Int := 0

abbrev camFlashModeOn : Int := 2

/-- What setters write beside the map and the batch, as far as `updateFlash` and the commit read
it. -/
structure Members where
  recordingHintNew : Bool := false
  updateEffects : Bool := false
  sceneTransitionAuto : Bool := false
  releaseTorchCamera : Bool := false
  torch : Bool := true
  burstNum : Nat := 1
  hdrEnabled : Bool := false
  aeBracketingEnabled : Bool := false
  afBracketingOn : Bool := false
  optiZoomOn : Bool := false
  reFocusOn : Bool := false
  fssrOn : Bool := false
  sensorHDREnabled : Bool := false
  chromaFlashOn : Bool := false
  flashValue : Int := camFlashModeOff
  deriving DecidableEq

structure Locals where
  zslModeNew : Bool := false
  hfrMode : Int := 0
  hfrFpsRange : Int × Int := (0, 0)
  hfrOn : Bool := false
  fixedFrameRateSet : Bool := false
  deriving DecidableEq

structure Store where
  params : String → Option String
  tempMap : List (String × String) := []
  batch : List (ParmType × Data) := []
  currSize : Nat := 0
  backend : ParmType → Option Data
  members : Members := {}
  locals : Locals := {}
  recordingHint : Bool := false
  zslMode : Bool := false
  hdrSceneEnabled : Bool := false
  flashDaemonValue : Int := camFlashModeOff

namespace Store

def initBatchUpdate (s : Store) : Store := { s with tempMap := [], batch := [], currSize := 0 }

def commitParamChanges (s : Store) : Store :=
  let m := s.members
  { s with
    params := Staging.commit s.tempMap s.params
    tempMap := []
    recordingHint := m.recordingHintNew
    zslMode := s.locals.zslModeNew
    members := { m with
      updateEffects := m.sceneTransitionAuto || m.updateEffects
      sceneTransitionAuto := false
      releaseTorchCamera :=
        m.releaseTorchCamera && !(m.torch && !m.recordingHintNew) } }

/-- `commitSetBatch`; `accepts` is whether `set_parms` succeeds. The batch stays as it is. -/
def commitSetBatch (accepts : Bool) (s : Store) : Store × Bool :=
  if s.batch = [] then (s.commitParamChanges, true)
  else if accepts then
    (({ s with backend := Staging.commit s.batch s.backend } : Store).commitParamChanges, true)
  else (s, false)

/-- `AddSetParmEntryToBatch`, whose early commit ignores a failure. The value of an entry type has
always the same length. -/
def addSetParmEntryToBatch (accepts : Bool) (t : ParmType) (d : Data) (s : Store) : Store :=
  let alignedSizeReq := align4 (d.length + entrySize)
  if (Staging.find s.batch t).isSome then { s with batch := Staging.put s.batch t d }
  else
    let s := if capacity - s.currSize < alignedSizeReq then (s.commitSetBatch accepts).1.initBatchUpdate
      else s
    { s with batch := Staging.put s.batch t d, currSize := s.currSize + alignedSizeReq }

def updateParamEntry (key value : String) (s : Store) : Store :=
  { s with tempMap := Staging.put s.tempMap key value }

/-- `set` of the map itself. -/
def set (key value : String) (s : Store) : Store :=
  { s with params := Function.update s.params key (some value) }

def isHDREnabled (s : Store) : Bool :=
  s.members.burstNum = 1 && (s.members.hdrEnabled || s.hdrSceneEnabled)

def flashMode (s : Store) : Int :=
  let m := s.members
  if s.isHDREnabled || m.aeBracketingEnabled || m.afBracketingOn || m.optiZoomOn || m.reFocusOn ||
      m.fssrOn || m.sensorHDREnabled then camFlashModeOff
  else if m.chromaFlashOn then camFlashModeOn
  else m.flashValue

def stageFlash (accepts : Bool) (s : Store) : Store :=
  if s.flashMode ≠ s.flashDaemonValue then
    { s.addSetParmEntryToBatch accepts .ledMode (int32 s.flashMode) with
      flashDaemonValue := s.flashMode }
  else s

/-- `updateFlash(true)`. -/
def updateFlash (accepts : Bool) (s : Store) : Store × Bool :=
  (s.initBatchUpdate.stageFlash accepts).commitSetBatch accepts

def setHDRSceneEnable (accepts bflag : Bool) (s : Store) : Store :=
  let changed := s.hdrSceneEnabled ≠ bflag
  let s := { s with hdrSceneEnabled := bflag }
  if changed then (s.updateFlash accepts).1 else s

/-- `adjustPreviewFpsRange` and `setFrameSkip`: one entry, committed at once. -/
def commitEntry (accepts : Bool) (t : ParmType) (d : Data) (s : Store) : Store × Bool :=
  (s.initBatchUpdate.addSetParmEntryToBatch accepts t d).commitSetBatch accepts

def adjustPreviewFpsRange (accepts : Bool) (range : Data) (s : Store) : Store × Bool :=
  s.commitEntry accepts (.setter .fpsRange) range

def setFrameSkip (accepts : Bool) (pattern : Int) (s : Store) : Store × Bool :=
  s.commitEntry accepts .frameSkip (int32 pattern)

end Store

structure Tidy (s : Store) : Prop where
  tempMap : Staging.Unique s.tempMap
  batch : Staging.Unique s.batch

namespace Store

variable {s : Store} {t : ParmType} {d : Data}

def ahead (s : Store) : ParmType → Option Data := Staging.through s.batch s.backend

def mapAhead (s : Store) : String → Option String := Staging.through s.tempMap s.params

theorem tidy_init : Tidy s.initBatchUpdate := ⟨List.nodup_nil, List.nodup_nil⟩

end Store

structure Committed (s s' : Store) : Prop where
  params : s'.params = s.mapAhead
  tempMap : s'.tempMap = []
  batch : s'.batch = s.batch
  backend : s'.backend = s.ahead
  hdrScene : s'.hdrSceneEnabled = s.hdrSceneEnabled
  daemon : s'.flashDaemonValue = s.flashDaemonValue
  flashMode : s'.flashMode = s.flashMode
  locals : s'.locals = s.locals
  zslMode : s'.zslMode = s.locals.zslModeNew

structure Staged (s s' : Store) : Prop where
  tidy : Tidy s'
  mapAhead : s'.mapAhead = s.mapAhead
  backend : s'.backend = s.backend ∨ s'.backend = s.ahead
  daemon : s'.flashDaemonValue = s.flashDaemonValue
  flashMode : s'.flashMode = s.flashMode

namespace Store

variable {s : Store} {t : ParmType} {d : Data}

theorem commitSetBatch_true (h : Tidy s) :
    (s.commitSetBatch true).2 = true ∧ Committed s (s.commitSetBatch true).1 := by
  have hmap : Staging.commit s.tempMap s.params = s.mapAhead := Staging.commit_eq h.tempMap
  unfold commitSetBatch
  by_cases hb : s.batch = []
  · have hback : s.backend = s.ahead := by
      unfold ahead
      rw [hb]
      rfl
    rw [if_pos hb]
    exact ⟨rfl, hmap, rfl, rfl, hback, rfl, rfl, rfl, rfl, rfl⟩
  · rw [if_neg hb, if_pos rfl]
    exact ⟨rfl, hmap, rfl, rfl, Staging.commit_eq h.batch, rfl, rfl, rfl, rfl, rfl⟩

theorem commitSetBatch_accepted (h : Tidy s) {accepts : Bool} (ha : (s.commitSetBatch accepts).2 = true) :
    Committed s (s.commitSetBatch accepts).1 := by
  cases accepts with
  | true => exact (commitSetBatch_true h).2
  | false =>
    have hb : s.batch = [] := by
      by_contra hne
      unfold commitSetBatch at ha
      rw [if_neg hne] at ha
      cases ha
    have hsame : s.commitSetBatch false = s.commitSetBatch true := by
      unfold commitSetBatch
      rw [if_pos hb, if_pos hb]
    rw [hsame]
    exact (commitSetBatch_true h).2

theorem commitSetBatch_refused {accepts : Bool} (ha : (s.commitSetBatch accepts).2 = false) :
    (s.commitSetBatch accepts).1 = s := by
  unfold commitSetBatch at ha ⊢
  split_ifs at ha ⊢
  rfl

theorem addSetParm_true (h : Tidy s) (t : ParmType) (d : Data) :
    (s.addSetParmEntryToBatch true t d).ahead = Function.update s.ahead t (some d) ∧
      Staged s (s.addSetParmEntryToBatch true t d) := by
  unfold addSetParmEntryToBatch
  by_cases hfound : (Staging.find s.batch t).isSome = true
  · rw [if_pos hfound]
    exact ⟨Staging.through_put, ⟨h.tempMap, h.batch.put t d⟩, rfl, .inl rfl, rfl, rfl⟩
  rw [if_neg hfound]
  dsimp only
  by_cases hfull : capacity - s.currSize < align4 (d.length + entrySize)
  · obtain ⟨_, hc⟩ := commitSetBatch_true h
    have hback : (s.commitSetBatch true).1.initBatchUpdate.ahead = s.ahead := hc.backend
    have htidy : Tidy (s.commitSetBatch true).1.initBatchUpdate := tidy_init
    rw [if_pos hfull]
    refine ⟨?_, ⟨htidy.tempMap, htidy.batch.put t d⟩, hc.params, .inr hc.backend, hc.daemon,
      hc.flashMode⟩
    rw [← hback]
    exact Staging.through_put
  · rw [if_neg hfull]
    exact ⟨Staging.through_put, ⟨h.tempMap, h.batch.put t d⟩, rfl, .inl rfl, rfl, rfl⟩

end Store

theorem Committed.settled {s s' : Store} (h : Committed s s') : s'.ahead = s'.backend := by
  unfold Store.ahead
  rw [h.batch, h.backend]
  exact Staging.through_through

theorem Committed.tidy {s s' : Store} (h : Committed s s') (hs : Tidy s) : Tidy s' := by
  refine ⟨?_, ?_⟩
  · rw [h.tempMap]
    exact List.nodup_nil
  · rw [h.batch]
    exact hs.batch

namespace Store

variable {s : Store}

theorem updateFlash_true (h : s.backend .ledMode = some (int32 s.flashDaemonValue)) :
    Tidy (s.updateFlash true).1 ∧ (s.updateFlash true).1.ahead = (s.updateFlash true).1.backend ∧
      (s.updateFlash true).1.flashDaemonValue = s.flashMode ∧
      (s.updateFlash true).1.flashMode = s.flashMode ∧
      (s.updateFlash true).1.backend .ledMode = some (int32 s.flashMode) := by
  unfold updateFlash stageFlash
  have hmode : s.initBatchUpdate.flashMode = s.flashMode := rfl
  have hdaemon : s.initBatchUpdate.flashDaemonValue = s.flashDaemonValue := rfl
  rw [hmode, hdaemon]
  by_cases hne : s.flashMode ≠ s.flashDaemonValue
  · obtain ⟨hadded, hstaged⟩ := addSetParm_true (@tidy_init s) .ledMode (int32 s.flashMode)
    have htidy : Tidy { s.initBatchUpdate.addSetParmEntryToBatch true .ledMode (int32 s.flashMode) with
        flashDaemonValue := s.flashMode } := ⟨hstaged.tidy.tempMap, hstaged.tidy.batch⟩
    obtain ⟨_, hc⟩ := commitSetBatch_true htidy
    rw [if_pos hne]
    refine ⟨hc.tidy htidy, hc.settled, hc.daemon, hc.flashMode.trans hstaged.flashMode, ?_⟩
    have hled := congrFun hadded .ledMode
    rw [Function.update_self] at hled
    rw [hc.backend]
    exact hled
  · obtain ⟨_, hc⟩ := commitSetBatch_true (@tidy_init s)
    have heq : s.flashMode = s.flashDaemonValue := not_not.mp hne
    rw [if_neg hne]
    refine ⟨hc.tidy tidy_init, hc.settled, hc.daemon.trans heq.symm, hc.flashMode, ?_⟩
    rw [hc.backend, heq]
    exact h

theorem commitEntry_true (s : Store) (t : ParmType) (d : Data) :
    Tidy (s.commitEntry true t d).1 ∧
      (s.commitEntry true t d).1.ahead = (s.commitEntry true t d).1.backend ∧
      (s.commitEntry true t d).1.backend = Function.update s.backend t (some d) ∧
      (s.commitEntry true t d).1.flashDaemonValue = s.flashDaemonValue := by
  unfold commitEntry
  obtain ⟨hadded, hstaged⟩ := addSetParm_true (@tidy_init s) t d
  obtain ⟨_, hc⟩ := commitSetBatch_true hstaged.tidy
  exact ⟨hc.tidy hstaged.tidy, hc.settled, hc.backend.trans hadded, hc.daemon.trans hstaged.daemon⟩

end Store

end Wt88047.ParamStore
