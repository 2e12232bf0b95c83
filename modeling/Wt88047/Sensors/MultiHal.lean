import Wt88047.Lib.Loop
import Wt88047.Lib.Runs
import Mathlib.Algebra.Order.Ring.Nat
import Mathlib.Logic.Function.Basic

/-! The sensors HAL that fans its calls out to other ones. Sub-HALs number their sensors on their
own; the framework sees global handles. -/

namespace Wt88047.Sensors

/-- `sensor_t`, as far as this HAL reads it. -/
structure SensorT where
  handle : Int
  type : Int
  flags : Nat
  deriving DecidableEq

/-- `hw_module_t`: where it lies, and the sensors that it declares. -/
structure HwModule where
  address : Nat
  sensors : List SensorT
  deriving DecidableEq

/-- `hw_device_t`, with the index of the module that it was opened from. -/
structure HwDevice where
  moduleIndex : Nat
  version : Int
  deriving DecidableEq

structure SensorsEvent where
  timestamp : Int
  type : Int
  sensor : Int
  metaDataSensor : Int
  deriving DecidableEq

structure FullHandle where
  moduleIndex : Nat
  localHandle : Int
  deriving DecidableEq

def metaData : Int := 0
def proximity : Int := 8
def tiltDetector : Int := 22
/-- `SENSOR_FLAG_WAKE_UP | SENSOR_FLAG_ON_CHANGE_MODE` -/
def wakeUpOnChange : Nat := 3
def apiVersion13 : Int := 0x01030001
def apiVersion14 : Int := 0x01040001
def einval : Int := -22
def sensorEventQueueCapacity : Nat := 36

structure HandleTable where
  globalToFull : Int → Option FullHandle
  fullToGlobal : FullHandle → Option Int
  nextGlobalHandle : Int

namespace HandleTable

def empty : HandleTable := ⟨fun _ => none, fun _ => none, 1⟩

def assignGlobalHandle (moduleIndex : Nat) (localHandle : Int) (t : HandleTable) :
    Int × HandleTable :=
  let full : FullHandle := ⟨moduleIndex, localHandle⟩
  let g := t.nextGlobalHandle
  (g, {
    globalToFull := Function.update t.globalToFull g (some full)
    fullToGlobal := Function.update t.fullToGlobal full (some g)
    nextGlobalHandle := g + 1 })

def getLocalHandle (t : HandleTable) (g : Int) : Int :=
  match t.globalToFull g with
  | some f => f.localHandle
  | none => -1

def getModuleIndex (t : HandleTable) (g : Int) : Int :=
  match t.globalToFull g with
  | some f => f.moduleIndex
  | none => -1

def getGlobalHandle (t : HandleTable) (f : FullHandle) : Int := (t.fullToGlobal f).getD (-1)

def copyEventRemapHandle (t : HandleTable) (src : SensorsEvent) (subIndex : Nat) : SensorsEvent :=
  if src.type = metaData then
    { src with metaDataSensor := t.getGlobalHandle ⟨subIndex, src.metaDataSensor⟩ }
  else { src with sensor := t.getGlobalHandle ⟨subIndex, src.sensor⟩ }

end HandleTable

/-- A call of a function of a sub-HAL's device. The device is also its first argument, except that
an injection passes `dev` there, which is `none` for the proxy device. -/
inductive DeviceCall
  | activate (on : HwDevice) (handle enabled : Int)
  | setDelay (on : HwDevice) (handle ns : Int)
  | injectSensorData (on : HwDevice) (dev : Option HwDevice) (data : SensorsEvent)
  deriving DecidableEq

def DeviceCall.device : DeviceCall → HwDevice
  | .activate on .. | .setDelay on .. | .injectSensorData on .. => on

/-- `sensors_poll_context_t` -/
structure PollContext where
  subHwDevices : List HwDevice
  queues : List (List SensorsEvent)
  nextReadIndex : Nat

namespace PollContext

def addSubHwDevice (d : HwDevice) (ctx : PollContext) : PollContext :=
  { ctx with subHwDevices := ctx.subHwDevices ++ [d], queues := ctx.queues ++ [[]] }

section Calls

variable (ctx : PollContext) (t : HandleTable) (reply : DeviceCall → Int)

def getV0DeviceByHandle (g : Int) : Option HwDevice :=
  let subIndex := t.getModuleIndex g
  if subIndex < 0 ∨ ctx.subHwDevices.length ≤ subIndex then none
  else ctx.subHwDevices[subIndex.toNat]?

def getV1DeviceByHandle (g : Int) : Option HwDevice := ctx.getV0DeviceByHandle t g

def getDeviceVersionByHandle (g : Int) : Int :=
  match ctx.getV0DeviceByHandle t g with
  | some v0 => v0.version
  | none => -1

def halIsAPILevelCompliant (g level : Int) : Bool :=
  let version := ctx.getDeviceVersionByHandle t g
  version ≠ -1 && level ≤ version

def activate (g enabled : Int) : Int × List DeviceCall :=
  let localHandle := t.getLocalHandle g
  match ctx.getV0DeviceByHandle t g with
  | some v0 =>
    if 0 ≤ localHandle then
      let call := .activate v0 localHandle enabled
      (reply call, [call])
    else (einval, [])
  | none => (einval, [])

def setDelay (g ns : Int) : Int × List DeviceCall :=
  let localHandle := t.getLocalHandle g
  match ctx.getV0DeviceByHandle t g with
  | some v0 =>
    if 0 ≤ localHandle then
      let call := .setDelay v0 localHandle ns
      (reply call, [call])
    else (einval, [])
  | none => (einval, [])

def injectSensorData (data : SensorsEvent) : Int × List DeviceCall :=
  let localHandle := t.getLocalHandle data.sensor
  match ctx.getV1DeviceByHandle t data.sensor with
  | some v1 =>
    if ctx.halIsAPILevelCompliant t data.sensor apiVersion14 && 0 ≤ localHandle then
      let call := .injectSensorData v1 none data
      (reply call, [call])
    else (einval, [])
  | none => (einval, [])

def deviceActivate (g enabled : Int) : Int × List DeviceCall := ctx.activate t reply g enabled

def deviceSetDelay (g ns : Int) : Int × List DeviceCall := ctx.setDelay t reply g ns

def deviceBatch (g _flags periodNs _timeout : Int) : Int × List DeviceCall :=
  ctx.setDelay t reply g periodNs

def deviceFlush (_ctx : PollContext) (_g : Int) : Int × List DeviceCall := (einval, [])

def deviceInjectSensorData (data : SensorsEvent) : Int × List DeviceCall :=
  ctx.injectSensorData t reply data

end Calls

end PollContext

/-- `poll` while it goes round the queues. -/
structure Reading where
  queues : List (List SensorsEvent)
  nextReadIndex : Nat
  empties : Nat
  data : List SensorsEvent
  deriving DecidableEq

def Reading.turn (t : HandleTable) (maxReads : Int) (r : Reading) : Option Reading :=
  let queueCount := r.queues.length
  if r.empties < queueCount ∧ (r.data.length : Int) < maxReads then
    let next := (r.nextReadIndex + 1) % queueCount
    match r.queues[r.nextReadIndex]? with
    | none => none
    | some [] => some { r with empties := r.empties + 1, nextReadIndex := next }
    | some (event :: rest) =>
      let dest := t.copyEventRemapHandle event r.nextReadIndex
      some {
        queues := r.queues.set r.nextReadIndex rest
        nextReadIndex := next
        empties := 0
        data := if dest.sensor = -1 then r.data else r.data ++ [dest] }
  else none

/-- More turns than the queues can keep `poll` busy. -/
def Reading.rounds (r : Reading) : Nat :=
  r.queues.flatten.length * (r.queues.length + 1) + (r.queues.length - r.empties)

/-- `poll` up to the point where it returns what it has read, or waits when that is nothing. -/
def PollContext.poll (t : HandleTable) (maxReads : Int) (ctx : PollContext) :
    Option (List SensorsEvent × PollContext) :=
  let r : Reading := ⟨ctx.queues, ctx.nextReadIndex, 0, []⟩
  (Loop.run (Reading.turn t maxReads) r.rounds r).map fun r =>
    (r.data, { ctx with queues := r.queues, nextReadIndex := r.nextReadIndex })

structure MultiHal where
  /-- `sub_hw_versions`, by the address of the module. -/
  subHwVersions : Option (List (Nat × Int))
  table : HandleTable
  globalSensorsList : Option (List SensorT)
  context : Nat → Option PollContext
  opens : Nat

namespace MultiHal

def init : MultiHal := ⟨none, .empty, none, fun _ => none, 0⟩

/-- `insert` leaves an entry that is there. -/
def insertVersion (address : Nat) (version : Int) (m : List (Nat × Int)) : List (Nat × Int) :=
  if (m.lookup address).isSome then m else m ++ [(address, version)]

/-- `open_sensors`; `opened` tells for each module whether it opens, and with which version. -/
def openModule (opened : Nat → Option Int) (acc : PollContext × List (Nat × Int))
    (m : HwModule × Nat) : PollContext × List (Nat × Int) :=
  match opened m.2 with
  | some version => (acc.1.addSubHwDevice ⟨m.2, version⟩, insertVersion m.1.address version acc.2)
  | none => acc

def openSensors (modules : List HwModule) (opened : Nat → Option Int) (s : MultiHal) : MultiHal :=
  let acc := modules.zipIdx.foldl (openModule opened) (⟨[], [], 0⟩, [])
  { s with
    subHwVersions := some acc.2
    context := Function.update s.context s.opens (some acc.1)
    opens := s.opens + 1 }

def fixSensorFlags (version : Int) (sensor : SensorT) : SensorT :=
  if version < apiVersion13 ∧ (sensor.type = proximity ∨ sensor.type = tiltDetector) then
    { sensor with flags := wakeUpOnChange }
  else sensor

/-- `at` has no answer for a module that did not open. -/
def addSensor (versions : Option (List (Nat × Int))) (m : HwModule × Nat)
    (acc : HandleTable × List SensorT) (x : SensorT) : Option (HandleTable × List SensorT) :=
  let (g, t) := acc.1.assignGlobalHandle m.2 x.handle
  (versions.bind (·.lookup m.1.address)).map fun version =>
    (t, acc.2 ++ [fixSensorFlags version { x with handle := g }])

def addModule (versions : Option (List (Nat × Int))) (acc : HandleTable × List SensorT)
    (m : HwModule × Nat) : Option (HandleTable × List SensorT) :=
  m.1.sensors.foldlM (addSensor versions m) acc

def lazyInitSensorsList (modules : List HwModule) (s : MultiHal) : Option MultiHal :=
  match s.globalSensorsList with
  | some _ => some s
  | none => (modules.zipIdx.foldlM (addModule s.subHwVersions) (s.table, [])).map fun acc =>
    { s with subHwVersions := none, table := acc.1, globalSensorsList := some acc.2 }

def writerTask (c k : Nat) (events : List SensorsEvent) (s : MultiHal) : Option MultiHal :=
  match s.context c with
  | none => none
  | some ctx =>
    match ctx.queues[k]? with
    | none => none
    | some queue =>
      if queue.length + events.length ≤ sensorEventQueueCapacity then
        let written := { ctx with queues := ctx.queues.set k (queue ++ events) }
        some { s with context := Function.update s.context c (some written) }
      else none

def poll (c : Nat) (maxReads : Int) (s : MultiHal) : Option MultiHal :=
  match s.context c with
  | none => none
  | some ctx => (ctx.poll s.table maxReads).map fun r =>
    { s with context := Function.update s.context c (some r.2) }

def close (c : Nat) (s : MultiHal) : MultiHal :=
  { s with context := Function.update s.context c none }

end MultiHal

inductive MultiHalEvent
  | openSensors (opened : Nat → Option Int)
  | getSensorsList
  | writerTask (c k : Nat) (events : List SensorsEvent)
  | poll (c : Nat) (maxReads : Int)
  | close (c : Nat)

def MultiHal.step (modules : List HwModule) (s : MultiHal) : MultiHalEvent → Option MultiHal
  | .openSensors opened => some (s.openSensors modules opened)
  | .getSensorsList => s.lazyInitSensorsList modules
  | .writerTask c k events => s.writerTask c k events
  | .poll c maxReads => s.poll c maxReads
  | .close c => some (s.close c)

end Wt88047.Sensors
