import Wt88047.Sensors.MultiHal

/-! The manager of hardware and virtual sensors. A virtual sensor listens to the hardware sensors it
is computed from, and a hardware sensor to itself. -/

namespace Wt88047.Sensors

/-- What is known of a sensor once the manager has been built: a part of its `sensor_t`, and the
contexts that its own depends on. -/
structure SensorInfo where
  oneShot : Bool
  isVirtual : Bool
  minDelay : BitVec 32
  fifoMaxEventCount : Nat
  depList : List Nat

structure SensorList where
  mSensorCount : Nat
  info : Nat → SensorInfo

def sensorsHandle (x : Nat) : Int := x + 1

def SensorList.getInfoByHandle (sensors : SensorList) (handle : Int) : Option Nat :=
  (List.range sensors.mSensorCount).find? fun x => sensorsHandle x = handle

structure SensorContext where
  enable : Int
  delayNs : Int
  latencyNs : Int
  listener : List Nat
  deriving DecidableEq

structure DriverCalls where
  enable : Option Int
  setDelay : Option Int
  setLatency : Option Int
  deriving DecidableEq

structure NativeSensorManager where
  context : Nat → SensorContext
  driver : Nat → DriverCalls

namespace NativeSensorManager

def init : NativeSensorManager := ⟨fun _ => ⟨0, 0, 0, []⟩, fun _ => ⟨none, none, none⟩⟩

def update (x : Nat) (f : SensorContext → SensorContext) (m : NativeSensorManager) :
    NativeSensorManager :=
  { m with context := Function.update m.context x (f (m.context x)) }

def tell (x : Nat) (f : DriverCalls → DriverCalls) (m : NativeSensorManager) :
    NativeSensorManager :=
  { m with driver := Function.update m.driver x (f (m.driver x)) }

/-- `driver->enable` of context `x` -/
def driverEnable (x : Nat) (enabled : Int) (m : NativeSensorManager) : NativeSensorManager :=
  m.tell x fun d => { d with enable := some enabled }

def registerListener (hw virt : Nat) (m : NativeSensorManager) : Int × NativeSensorManager :=
  if (m.context hw).listener.any fun x => sensorsHandle x = sensorsHandle virt then (-1, m)
  else (0, m.update hw fun c => { c with listener := c.listener ++ [virt] })

def unregisterListener (hw virt : Nat) (m : NativeSensorManager) : Int × NativeSensorManager :=
  if virt ∈ (m.context hw).listener then
    (0, m.update hw fun c => { c with listener := c.listener.erase virt })
  else (-1, m)

def syncDelay (hw : Nat) (m : NativeSensorManager) : NativeSensorManager :=
  match (m.context hw).listener with
  | [] => m
  | first :: rest =>
    let minNs := (first :: rest).foldl (fun minNs x =>
      if (m.context x).delayNs = 0 then minNs
      else if (m.context x).delayNs < minNs then (m.context x).delayNs else minNs)
      (m.context first).delayNs
    m.tell hw fun d => { d with setDelay := some minNs }

def syncLatency (sensors : SensorList) (hw : Nat) (m : NativeSensorManager) :
    NativeSensorManager :=
  match (m.context hw).listener with
  | [] => m
  | first :: rest =>
    let minNs := (first :: rest).foldl (fun minNs x =>
      if (m.context x).latencyNs < minNs then (m.context x).latencyNs else minNs)
      (m.context first).latencyNs
    if (sensors.info hw).fifoMaxEventCount ≠ 0 then
      m.tell hw fun d => { d with setLatency := some minNs }
    else m

def activateOn (sensors : SensorList) (list : Nat) (enable : Int) (hw : Nat)
    (m : NativeSensorManager) : NativeSensorManager :=
  if enable ≠ 0 then
    let m := (m.registerListener hw list).2
    let m := m.syncLatency sensors hw
    let m := m.driverEnable hw 1
    m.syncDelay hw
  else
    let m :=
      if (m.context hw).listener ≠ [] then
        let m := (m.unregisterListener hw list).2
        let m := m.syncDelay hw
        m.syncLatency sensors hw
      else m
    if (m.context hw).listener = [] then m.driverEnable hw 0 else m

section Calls

variable (sensors : SensorList)

def activate (handle enable : Int) (m : NativeSensorManager) : Int × NativeSensorManager :=
  match sensors.getInfoByHandle handle with
  | none => (einval, m)
  | some list =>
    let m := m.update list fun c => { c with enable := enable }
    if (sensors.info list).oneShot then (0, m.driverEnable list enable)
    else
      let m := (sensors.info list).depList.foldl (fun m hw => m.activateOn sensors list enable hw) m
      (0, if (sensors.info list).isVirtual then m.driverEnable list enable else m)

/-- `minDelay * 1000` is computed in 32 bits. -/
def minDelayNs (minDelay : BitVec 32) : Int := (minDelay * 1000#32).toInt

def setDelay (handle ns : Int) (m : NativeSensorManager) : Int × NativeSensorManager :=
  match sensors.getInfoByHandle handle with
  | none => (einval, m)
  | some list =>
    if ns = 0 then (einval, m)
    else if (sensors.info list).oneShot then (0, m)
    else
      let minNs := minDelayNs (sensors.info list).minDelay
      let m := m.update list fun c => { c with delayNs := if ns < minNs then minNs else ns }
      (0, (sensors.info list).depList.foldl (fun m hw => m.syncDelay hw) m)

def batch (handle sampleNs latencyNs : Int) (m : NativeSensorManager) :
    Int × NativeSensorManager :=
  if latencyNs ≠ 0 ∧ latencyNs < sampleNs then (einval, m)
  else
    match sensors.getInfoByHandle handle with
    | none => (einval, m)
    | some list =>
      if (sensors.info list).oneShot then (0, m)
      else
        let m := m.update list fun c => { c with delayNs := sampleNs, latencyNs := latencyNs }
        (0, (sensors.info list).depList.foldl
          (fun m hw => (m.syncDelay hw).syncLatency sensors hw) m)

end Calls

end NativeSensorManager

inductive ManagerCall
  | activate (handle enable : Int)
  | setDelay (handle ns : Int)
  | batch (handle sampleNs latencyNs : Int)
  deriving DecidableEq

namespace NativeSensorManager

def call (sensors : SensorList) (m : NativeSensorManager) : ManagerCall → Int × NativeSensorManager
  | .activate handle enable => m.activate sensors handle enable
  | .setDelay handle ns => m.setDelay sensors handle ns
  | .batch handle sampleNs latencyNs => m.batch sensors handle sampleNs latencyNs

end NativeSensorManager

end Wt88047.Sensors
