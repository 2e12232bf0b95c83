import Wt88047.Lib.Runs
import Mathlib.Data.Nat.Notation
import Mathlib.Algebra.Order.Ring.Nat

/-! Opening and closing cameras. A handle is a slot index below a history count that the handles of
cameras, channels and streams share. `camera_open` gives `g_intf_lock` back while `mm_camera_open`
runs, so a call is cut there and where it reads the table after the lock. A call in progress is
known by the object it works on. -/

namespace Wt88047.Camera

/-- The next value of `g_handler_history_count`, a `uint16_t` that leaves out 0. -/
def nextHistory (count : Nat) : Nat :=
  if (count + 1) % 65536 = 0 then 1 else (count + 1) % 65536

/-- `mm_camera_util_generate_handler`: the handle and the history count it leaves. -/
def generateHandler (index count : Nat) : Nat × Nat :=
  (nextHistory count * 256 + index, nextHistory count)

def getIndexByHandler (handler : Nat) : Nat := handler % 256

theorem getIndexByHandler_generateHandler {index : Nat} (h : index < 256) (count : Nat) :
    getIndexByHandler (generateHandler index count).1 = index := by
  show (nextHistory count * 256 + index) % 256 = index
  omega

/-- Where an object is in its life. `inService` is the time from the end of the open that made it
to the close that takes the last reference; `freed` also holds of an object whose open failed. -/
inductive Phase
  | absent
  | opening
  | inService
  | closing
  | freed
  deriving DecidableEq

/-- A `mm_camera_obj_t`. `opens` and `closes` count the successful calls on it. -/
structure CameraObj where
  idx : Nat := 0
  myHdl : Nat := 0
  refCount : Int := 0
  phase : Phase := .absent
  opens : Nat := 0
  closes : Nat := 0

namespace CameraObj

def Live (c : CameraObj) : Prop := c.phase = .opening ∨ c.phase = .inService

def Destroyed (c : CameraObj) : Prop := c.phase = .closing ∨ c.phase = .freed

end CameraObj

/-- `camObj` is `g_cam_ctrl.cam_obj`, its entries naming objects; `next` objects were ever made.
`reopened` are the objects whose count an open has raised that has not returned yet, `returned`
the answers of the successful opens: the object and the handle in the table handed out, if
there was one. -/
structure World where
  history : Nat := 0
  camObj : Nat → Option Nat := fun _ => none
  obj : Nat → CameraObj := fun _ => {}
  next : Nat := 0
  reopened : List Nat := []
  returned : List (Nat × Option Nat) := []

namespace World

def setObj (w : World) (o : Nat) (c : CameraObj) : World :=
  { w with obj := fun p => if p = o then c else w.obj p }

def setCamObj (w : World) (idx : Nat) (o : Option Nat) : World :=
  { w with camObj := fun i => if i = idx then o else w.camObj i }

@[simp] theorem setObj_obj (w : World) (o : Nat) (c : CameraObj) (p : Nat) :
    (w.setObj o c).obj p = if p = o then c else w.obj p := rfl

@[simp] theorem setCamObj_camObj (w : World) (idx : Nat) (o : Option Nat) (i : Nat) :
    (w.setCamObj idx o).camObj i = if i = idx then o else w.camObj i := rfl

end World

section

variable (numCam : Fin 128) (maxNumSensors : Nat)

def getCameraByHandler (w : World) (handle : Nat) : Option Nat :=
  if getIndexByHandler handle < maxNumSensors then
    (w.camObj (getIndexByHandler handle)).bind fun o =>
      if handle = (w.obj o).myHdl then some o else none
  else none

/-- `camera_open` up to the place where it gives the lock back. -/
def openBegin (idx : Nat) (malloc : Bool) (w : World) : World :=
  if numCam ≤ idx then w
  else
    match w.camObj idx with
    | some o =>
      { w.setObj o { w.obj o with refCount := (w.obj o).refCount + 1, opens := (w.obj o).opens + 1 }
        with reopened := o :: w.reopened }
    | none =>
      if malloc then
        { w.setObj w.next
            { idx, myHdl := (generateHandler idx w.history).1, refCount := 1, phase := .opening }
          with history := (generateHandler idx w.history).2, next := w.next + 1 }
      else w

/-- What `mm_camera_open` answers: without a device name it cannot succeed. -/
def opened (idx : Nat) (ok : Bool) : Bool := ok && decide (idx < maxNumSensors)

/-- The rest of `camera_open` after `mm_camera_open` on a new object. -/
def openEnd (o : Nat) (ok : Bool) (w : World) : World :=
  if opened maxNumSensors (w.obj o).idx ok then
    { (w.setCamObj (w.obj o).idx (some o)).setObj o { w.obj o with phase := .inService, opens := 1 }
      with returned := (o, some (w.obj o).myHdl) :: w.returned }
  else
    (w.setCamObj (w.obj o).idx none).setObj o { w.obj o with phase := .freed }

/-- The rest of `camera_open` on a camera that was open: the table is read without the lock. -/
def openReturn (o : Nat) (w : World) : World :=
  { w with
    reopened := w.reopened.erase o
    returned := (o, (w.camObj (w.obj o).idx).map fun p => (w.obj p).myHdl) :: w.returned }

/-- `mm_camera_intf_close` up to `mm_camera_close`. -/
def closeBegin (handle : Nat) (w : World) : World :=
  match getCameraByHandler maxNumSensors w handle with
  | none => w
  | some o =>
    if (w.obj o).refCount - 1 > 0 then
      w.setObj o { w.obj o with refCount := (w.obj o).refCount - 1, closes := (w.obj o).closes + 1 }
    else
      (w.setCamObj (getIndexByHandler handle) none).setObj o
        { w.obj o with refCount := (w.obj o).refCount - 1, closes := (w.obj o).closes + 1,
                       phase := .closing }

inductive Event
  | openBegin (idx : Nat) (malloc : Bool)
  | openEnd (o : Nat) (ok : Bool)
  | openReturn (o : Nat)
  | closeBegin (handle : Nat)
  | closeEnd (o : Nat)
  | generateHandler (index : Nat)
  deriving DecidableEq

def step (w : World) : Event → Option World
  | .openBegin idx malloc => some (openBegin numCam idx malloc w)
  | .openEnd o ok =>
    if (w.obj o).phase = .opening then some (openEnd maxNumSensors o ok w) else none
  | .openReturn o => if o ∈ w.reopened then some (openReturn o w) else none
  | .closeBegin handle => some (closeBegin maxNumSensors handle w)
  | .closeEnd o =>
    if (w.obj o).phase = .closing then some (w.setObj o { w.obj o with phase := .freed }) else none
  | .generateHandler index => some { w with history := (generateHandler index w.history).2 }

end

end Wt88047.Camera
