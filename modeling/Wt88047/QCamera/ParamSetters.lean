import Wt88047.Lib.Runs
import Wt88047.QCamera.ParamStore

/-! `SET_PARAMS`: the setters of `updateParameters` one after the other, then the commit. Setters for
the ZSL mode, the frame rates and the flash are written out; the others may stage what they like. -/

namespace Wt88047.ParamCommit

open ParamStore
open Params (align4 entrySize capacity)

def keyQcZsl : String := "zsl"

def keyPreviewFpsRange : String := "preview-fps-range"

def keyPreviewFrameRate : String := "preview-frame-rate"

def keyQcVideoHighFrameRate : String := "video-hfr"

def keyQcVideoHighSpeedRecording : String := "video-hsr"

def lookupAttr (arr : List (String × Int)) (name : String) : Option Int :=
  (arr.find? fun e => e.1 = name).map Prod.snd

def onOffModesMap : List (String × Int) := [("off", 0), ("on", 1)]

def hfrModesMap : List (String × Int) :=
  [("off", 0), ("60", 1), ("90", 2), ("120", 3), ("150", 4)]

/-- What a setter does; `early` is how the commit goes that a full batch makes. -/
inductive Write
  | updateParamEntry (key value : String)
  | addSetParmEntry (t : ParmType) (d : Data) (early : Bool)
  | set (key value : String)
  | members (m : Members)
  | locals (l : Locals)
  | flashDaemonValue (v : Int)

def Write.run (s : Store) : Write → Store
  | .updateParamEntry key value => s.updateParamEntry key value
  | .addSetParmEntry t d early => s.addSetParmEntryToBatch early t d
  | .set key value => s.set key value
  | .members m => { s with members := m }
  | .locals l => { s with locals := l }
  | .flashDaemonValue v => { s with flashDaemonValue := v }

/-- What the writes are, from the store that the setter finds, and whether it returns `NO_ERROR`. -/
abbrev Setter := Store → List Write × Bool

def runWrites (l : List Write) (s : Store) : Store := l.foldl Write.run s

def runSetters : List Setter → Store → Store × Bool
  | [], s => (s, true)
  | f :: fs, s =>
    let r := runSetters fs (runWrites (f s).1 s)
    (r.1, (f s).2 && r.2)

/-- `CameraParameters::getPreviewFpsRange` on a value, the table of supported ranges in thousandths,
the property for a fixed rate, and the entry for a range, adjusted to the thermal level. -/
structure Config where
  parseFpsRange : Option String → Int × Int
  fpsRangesTbl : List (Int × Int)
  fixedFps : Int := 0
  fpsRange : Nat → Int → Int → Int → Int → Data

def Write.Plain : Write → Prop
  | .updateParamEntry key _ => key ≠ keyQcZsl ∧ key ≠ keyPreviewFpsRange
  | .addSetParmEntry t _ _ => ∃ n, t = .setter (.other n)
  | .set key _ => key ≠ keyQcZsl ∧ key ≠ keyPreviewFpsRange
  | .members _ => True
  | .locals _ => False
  | .flashDaemonValue _ => False

/-- One of the other setters. It does not look at what is staged. -/
structure OtherSetter where
  run : Setter
  plain : ∀ s, ∀ x ∈ (run s).1, x.Plain

def OtherSetter.setter (o : OtherSetter) : Setter := fun s => o.run s.initBatchUpdate

/-- The parameters of a request as the setters read them, and the other setters in the places where
they stand. `count` is what `setNumOfSnapshot` sets, unless it has no memory. -/
structure Request where
  zsl : Option String := none
  hfr : Option String := none
  hsr : Option String := none
  frameRate : Option String := none
  fpsRange : Int × Int := (0, 0)
  previewFrameRate : Int := 0
  thermalLevel : Nat := 0
  beforeZsl : List OtherSetter := []
  beforeRates : List OtherSetter := []
  beforeFlash : List OtherSetter := []
  last : List OtherSetter := []
  earlyZsl : Bool := true
  earlyHfr : Bool := true
  earlyFps : Bool := true
  earlyFlash : Bool := true
  accepts : Bool := true
  count : Option String := some "1"

namespace Request

def setZslMode (r : Request) : Setter := fun s =>
  match r.zsl with
  | none => ([], true)
  | some v =>
    if s.params keyQcZsl = some v then ([], true)
    else
      match lookupAttr onOffModesMap v with
      | none => ([], false)
      | some value =>
        ([.set keyQcZsl v, .locals { s.locals with zslModeNew := 0 < value },
          .addSetParmEntry (.setter .zslMode) (int32 value) r.earlyZsl], true)

def setPreviewFrameRate (r : Request) : Setter := fun s =>
  match r.frameRate, s.params keyPreviewFrameRate with
  | some str, some prev =>
    if str ≠ prev then
      ([.updateParamEntry keyPreviewFrameRate str,
        .locals { s.locals with fixedFrameRateSet := true }], true)
    else ([], true)
  | _, _ => ([], true)

def entryIfChanged (key : String) (str : Option String) (s : Store) : List Write :=
  match str, s.params key with
  | some v, some prev => if v ≠ prev then [.updateParamEntry key v] else []
  | _, _ => []

def newHfrMode (r : Request) : Int :=
  match r.hfr with
  | some hfr => if hfr ≠ "off" then (lookupAttr hfrModesMap hfr).getD 0 else ofHsr
  | none => ofHsr
where
  ofHsr : Int :=
    match r.hsr with
    | some hsr => if hsr ≠ "off" then (lookupAttr hfrModesMap hsr).getD 0 else 0
    | none => 0

end Request

def hfrFps (mode : Int) : Int :=
  if mode = 1 then 60000 else if mode = 2 then 90000 else if mode = 3 then 120000
  else if mode = 4 then 150000 else 0

/-- `mHfrMode > CAM_HFR_MODE_OFF && mHfrMode < CAM_HFR_MODE_MAX`. -/
def hfrIsOn (mode : Int) : Bool := 0 < mode && mode < 5

namespace Request

def hfrLocals (r : Request) (l : Locals) : Locals :=
  let mode := r.newHfrMode
  let l := if l.hfrMode ≠ mode then { l with hfrMode := mode, hfrFpsRange := (hfrFps mode, hfrFps mode) }
    else l
  if hfrIsOn l.hfrMode then { l with hfrOn := true }
  else { l with hfrFpsRange := (0, 0), hfrOn := false }

end Request

def rangeString (min max : Int) : String := toString min ++ "," ++ toString max

/-- `setPreviewFpsRange` of four rates. -/
def stageFpsRange (c : Config) (level : Nat) (early : Bool) (min max vidMin vidMax : Int) : List Write :=
  let f := c.fixedFps * 1000
  if c.fixedFps ≠ 0 then
    [.updateParamEntry keyPreviewFpsRange (rangeString f f),
      .addSetParmEntry (.setter .fpsRange) (c.fpsRange level f f f f) early]
  else
    [.updateParamEntry keyPreviewFpsRange (rangeString min max),
      .addSetParmEntry (.setter .fpsRange) (c.fpsRange level min max vidMin vidMax) early]

namespace Request

def lookupFpsRange (c : Config) (r : Request) (l : Locals) (min max : Int) : List Write × Bool :=
  if c.fpsRangesTbl.any fun e => e.1 ≤ min && max ≤ e.2 then
    (if l.hfrFpsRange.1 ≤ 0 || l.hfrFpsRange.2 ≤ 0 then
      stageFpsRange c r.thermalLevel r.earlyFps min max min max
    else stageFpsRange c r.thermalLevel r.earlyFps min max l.hfrFpsRange.1 l.hfrFpsRange.2, true)
  else ([], false)

/-- `UpdateHFRFrameRate`, and `setHighFrameRate` if the mode is new. -/
def updateHFRFrameRate (r : Request) (s : Store) : List Write :=
  let l := r.hfrLocals s.locals
  entryIfChanged keyQcVideoHighFrameRate r.hfr s ++ entryIfChanged keyQcVideoHighSpeedRecording r.hsr s ++
    .locals l :: if s.locals.hfrMode ≠ r.newHfrMode then
      [.addSetParmEntry (.setter .hfr) (int32 l.hfrMode) r.earlyHfr] else []

def setPreviewFpsRange (c : Config) (r : Request) : Setter := fun s =>
  let l := r.hfrLocals s.locals
  let hfr := r.updateHFRFrameRate s
  if r.fpsRange = c.parseFpsRange (s.params keyPreviewFpsRange) then
    if l.fixedFrameRateSet then
      let rate := r.previewFrameRate * 1000
      let q := r.lookupFpsRange c l rate rate
      (hfr ++ .locals { l with fixedFrameRateSet := false } :: q.1, q.2)
    else if s.locals.hfrMode = r.newHfrMode then (hfr, true)
    else
      let q := r.lookupFpsRange c l r.fpsRange.1 r.fpsRange.2
      (hfr ++ q.1, q.2)
  else
    let q := r.lookupFpsRange c l r.fpsRange.1 r.fpsRange.2
    (hfr ++ q.1, q.2)

/-- `updateFlash(false)`. -/
def updateFlash (r : Request) : Setter := fun s =>
  if s.flashMode ≠ s.flashDaemonValue then
    ([.addSetParmEntry .ledMode (int32 s.flashMode) r.earlyFlash, .flashDaemonValue s.flashMode], true)
  else ([], true)

def setters (c : Config) (r : Request) : List Setter :=
  r.beforeZsl.map OtherSetter.setter ++ r.setZslMode :: (r.beforeRates.map OtherSetter.setter ++
    r.setPreviewFrameRate :: r.setPreviewFpsRange c :: (r.beforeFlash.map OtherSetter.setter ++
      r.updateFlash :: r.last.map OtherSetter.setter))

end Request

/-- `adjusted` while the backend has a range from `adjustPreviewFpsRange`. -/
structure World where
  store : Store
  adjusted : Bool := false

namespace World

/-- The store after `updateParameters`, and whether it returns `NO_ERROR`. -/
def updateParameters (c : Config) (r : Request) (w : World) : Store × Bool :=
  runSetters (r.setters c) w.store.initBatchUpdate

/-- `commitParameterChanges`; the result is how the commit ends. -/
def commitParameterChanges (r : Request) (s : Store) : Store × Bool :=
  let q := s.commitSetBatch r.accepts
  match r.count with
  | some count => if q.2 then (q.1.set "num-snaps-per-shutter" count, true) else q
  | none => q

/-- `SET_PARAMS`; the result is whether it was validated and committed. -/
def setParams (c : Config) (r : Request) (w : World) : World × Bool :=
  let u := w.updateParameters c r
  if !u.2 then ({ w with store := u.1 }, false)
  else
    let q := commitParameterChanges r u.1
    let adjusted := w.adjusted && !(q.2 && (Staging.find u.1.batch (.setter .fpsRange)).isSome)
    ({ store := q.1, adjusted := adjusted }, q.2)

end World

inductive Event
  | setParams (r : Request)
  | updateFlash (accepts : Bool)
  | adjustPreviewFpsRange (range : Data) (accepts : Bool)
  | setHDRSceneEnable (bflag accepts : Bool)

def step (c : Config) (w : World) : Event → Option World
  | .setParams r => some (w.setParams c r).1
  | .updateFlash accepts => some { w with store := (w.store.updateFlash accepts).1 }
  | .adjustPreviewFpsRange range accepts =>
    let q := w.store.adjustPreviewFpsRange accepts range
    some { store := q.1, adjusted := w.adjusted || q.2 }
  | .setHDRSceneEnable bflag accepts =>
    some { w with store := w.store.setHDRSceneEnable accepts bflag }

end Wt88047.ParamCommit
