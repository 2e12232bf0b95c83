import Wt88047.Sensors.InputReader
import Wt88047.Sensors.NativeSensorManager

/-! The drivers of hardware sensors, which read input events, and of virtual ones, into which the
manager injects the events of others. -/

namespace Wt88047.Sensors

/-- `sensors_event_t`: a reading, with its values as the device gave them, or a
`META_DATA_FLUSH_COMPLETE`. -/
inductive HalEvent
  | reading (sensor timestamp : Int) (data : List Int)
  | flushComplete (sensor timestamp : Int)
  deriving DecidableEq

structure InputKind where
  /-- The place of the value of an `EV_ABS` event. -/
  axis : InputEvent → Option Nat
  /-- Nothing is reported before the first `EV_ABS` event. -/
  needsAbs : Bool
  /-- `FETCH_FULL_EVENT_BEFORE_RETURN` -/
  fetchFull : Bool
  /-- `sysclk_sync_offset` is taken off, as far as the driver is enabled. -/
  syncsClock : Bool → Bool
  /-- Enabling it once more reports the last event again. -/
  reportsAgain : Bool

namespace InputKind

def xyz (x : Nat) (e : InputEvent) : Option Nat :=
  if x ≤ e.code ∧ e.code < x + 3 then some (e.code - x) else none

/-- `AccelSensor`; `ABS_X` is 0. -/
def accel : InputKind := ⟨xyz 0, true, true, fun _ => true, false⟩
/-- `CompassSensor` -/
def compass : InputKind := ⟨xyz 0, false, true, fun _ => false, false⟩
/-- `GyroSensor`; `ABS_RX` is 3. -/
def gyro : InputKind := ⟨xyz 3, false, true, fun enabled => enabled, false⟩
def light : InputKind :=
  ⟨fun e => if e.code = 0x28 then some 0 else none, false, false, fun _ => false, true⟩
def proximity : InputKind :=
  ⟨fun e => if e.code = 0x19 ∧ e.value ≠ -1 then some 0 else none, false, false, fun _ => false,
    true⟩

end InputKind

/-- The driver object of a hardware sensor; `timestamp` and `data` are those of its
`mPendingEvent`. -/
structure InputSensor where
  kind : InputKind
  handle : Int
  mEnabled : Bool
  mHasPendingMetadata : Nat
  mHasPendingEvent : Bool
  mAbsEventReceived : Bool
  mUseAbsTimeStamp : Bool
  reportTime : Int
  sysclkSyncOffset : Int
  timestamp : Int
  data : List Int
  mInputReader : InputEventCircularReader

namespace InputSensor

def pendingEvent (d : InputSensor) : HalEvent := .reading d.handle d.timestamp d.data

def report (e : InputEvent) (d : InputSensor) : Option HalEvent × InputSensor :=
  let stamp := if d.mUseAbsTimeStamp then d.timestamp else e.time
  let d := { d with
    timestamp := if d.kind.syncsClock d.mEnabled then stamp - d.sysclkSyncOffset else stamp }
  if d.mEnabled ∧ (d.kind.needsAbs → d.mAbsEventReceived) then (some d.pendingEvent, d)
  else (none, d)

def take (e : InputEvent) (d : InputSensor) : Option HalEvent × InputSensor :=
  if e.type = evAbs then
    (none, { d with
      mAbsEventReceived := true
      data := match d.kind.axis e with
        | some i => d.data.set i e.value
        | none => d.data })
  else if e.type = evSyn then
    if e.code = synTimeSec then
      (none, { d with mUseAbsTimeStamp := true, reportTime := e.value * 1000000000 })
    else if e.code = synTimeNsec then
      (none, { d with mUseAbsTimeStamp := true, timestamp := d.reportTime + e.value })
    else if e.code = synReport then d.report e
    else (none, d)
  else (none, d)

def next (d : InputSensor) : InputSensor := { d with mInputReader := d.mInputReader.next }

def drain : Nat → Nat → InputSensor → List HalEvent × InputSensor
  | 0, _, d => ([], d)
  | turns + 1, count, d =>
    if count = 0 then ([], d)
    else
      match d.mInputReader.readEvent with
      | none => ([], d)
      | some e =>
        match d.take e with
        | (none, d) => drain turns count d.next
        | (some out, d) =>
          let (outs, d) := drain turns (count - 1) d.next
          (out :: outs, d)

/-- From the loop on: a driver that fetches full events goes back to it until it has one. -/
def fetch (count : Nat) : List ReadResult → InputSensor → Option (List HalEvent × InputSensor)
  | reads, d =>
    let (outs, d) := d.drain d.mInputReader.available count
    if outs = [] ∧ d.kind.fetchFull ∧ d.mEnabled then
      if d.mInputReader.mFreeSpace = 0 then some ([], d)
      else
        match reads with
        | [] => none
        | result :: reads =>
          match d.mInputReader.fill result with
          | none => none
          | some (n, reader) =>
            if n = 0 then some ([], { d with mInputReader := reader })
            else fetch count reads { d with mInputReader := reader }
    else some (outs, d)

/-- `readEvents`, with what each `read` of the device node gives back. -/
def readEvents (count now : Int) (reads : List ReadResult) (d : InputSensor) :
    Option (Except Int (List HalEvent) × InputSensor) :=
  if count < 1 then some (.error einval, d)
  else if d.mHasPendingEvent then
    let d := { d with mHasPendingEvent := false, timestamp := now }
    some (.ok (if d.mEnabled then [d.pendingEvent] else []), d)
  else if d.mHasPendingMetadata ≠ 0 then
    let d := { d with mHasPendingMetadata := d.mHasPendingMetadata - 1 }
    some (.ok (if d.mEnabled then [.flushComplete d.handle now] else []), d)
  else if d.mInputReader.mFreeSpace = 0 then
    (d.fetch count.toNat reads).map fun r => (.ok r.1, r.2)
  else
    match reads with
    | [] => none
    | result :: reads =>
      match d.mInputReader.fill result with
      | none => none
      | some (n, reader) =>
        let d := { d with mInputReader := reader }
        if n < 0 then some (.error n, d)
        else (d.fetch count.toNat reads).map fun r => (.ok r.1, r.2)

/-- `enable`, with the clock offset that it finds; it fails when the node does not open. -/
def enable (en : Int) (opened : Option Int) (d : InputSensor) : Int × InputSensor :=
  let flags : Bool := en ≠ 0
  if flags ≠ d.mEnabled then
    match opened with
    | some offset =>
      (0, { d with
        mEnabled := flags
        sysclkSyncOffset := if flags then offset else d.sysclkSyncOffset })
    | none => (-1, d)
  else if flags && d.kind.reportsAgain then (0, { d with mHasPendingEvent := true })
  else (0, d)

def hasPendingEvents (d : InputSensor) : Bool := d.mHasPendingEvent || d.mHasPendingMetadata ≠ 0

end InputSensor

def maxEvents : Nat := 250

structure VirtualSensor where
  handle : Int
  mEnabled : Bool
  mHasPendingMetadata : Nat
  mLastEvent : HalEvent
  reportLastEvent : Bool
  mFirstEventReceived : Bool
  mBuffer : List HalEvent

namespace VirtualSensor

def enable (en : Int) (v : VirtualSensor) : Int × VirtualSensor :=
  let flag : Bool := en ≠ 0
  if v.mEnabled ≠ flag then (0, { v with mEnabled := flag, mFirstEventReceived := false })
  else if flag then (0, { v with reportLastEvent := v.mFirstEventReceived })
  else (0, v)

def hasPendingEvents (v : VirtualSensor) : Bool :=
  v.mBuffer ≠ [] || v.reportLastEvent || v.mHasPendingMetadata ≠ 0

/-- `readEvents` into a buffer whose cells held `memory`: the last event is read off it after
`data` has moved on, and so from behind the events that were written. -/
def readEvents (count : Int) (memory : Nat → HalEvent) (v : VirtualSensor) :
    Except Int (List HalEvent) × VirtualSensor :=
  if count < 1 ∨ v.mEnabled = false then (.error einval, v)
  else
    let room := count.toNat
    let last := if v.reportLastEvent then [v.mLastEvent] else []
    let flushed :=
      if v.mHasPendingMetadata ≠ 0 ∧ last.length < room then [.flushComplete v.handle 0] else []
    let buffered := v.mBuffer.take (room - last.length - flushed.length)
    let data := last ++ flushed ++ buffered
    (.ok data, { v with
      reportLastEvent := false
      mHasPendingMetadata := v.mHasPendingMetadata - flushed.length
      mBuffer := v.mBuffer.drop buffered.length
      mFirstEventReceived := v.mFirstEventReceived || buffered ≠ []
      mLastEvent := if data = [] then v.mLastEvent else memory (2 * data.length - 1) })

/-- `injectEvents` of one event; `converted` is what the algorithm makes of it. -/
def injectEvent (e : HalEvent) (converted : Option (List Int)) (v : VirtualSensor) :
    VirtualSensor :=
  match e, converted with
  | .reading _ timestamp _, some data =>
    if v.mBuffer.length < maxEvents then
      { v with mBuffer := v.mBuffer ++ [.reading v.handle timestamp data] }
    else v
  | _, _ => v

end VirtualSensor

inductive SensorDriver
  | input (d : InputSensor)
  | virtual (v : VirtualSensor)

namespace SensorDriver

def enable (en : Int) (opened : Option Int) : SensorDriver → SensorDriver
  | .input d => .input (d.enable en opened).2
  | .virtual v => .virtual (v.enable en).2

def hasPendingEvents : SensorDriver → Bool
  | .input d => d.hasPendingEvents
  | .virtual v => v.hasPendingEvents

def mEnabled : SensorDriver → Bool
  | .input d => d.mEnabled
  | .virtual v => v.mEnabled

def mHasPendingMetadata : SensorDriver → Nat
  | .input d => d.mHasPendingMetadata
  | .virtual v => v.mHasPendingMetadata

def pendMetadata : SensorDriver → SensorDriver
  | .input d => .input { d with mHasPendingMetadata := d.mHasPendingMetadata + 1 }
  | .virtual v => .virtual { v with mHasPendingMetadata := v.mHasPendingMetadata + 1 }

/-- `SensorBase::flush`; a sensor with a FIFO writes to its flush node first. -/
def flush (info : SensorInfo) (written : Bool) (d : SensorDriver) : Int × SensorDriver :=
  if d.mEnabled = false ∨ info.oneShot then (einval, d)
  else if info.fifoMaxEventCount ≠ 0 ∧ written = false then (-1, d)
  else (0, d.pendMetadata)

def injectEvent (e : HalEvent) (converted : Option (List Int)) : SensorDriver → SensorDriver
  | .input d => .input d
  | .virtual v => .virtual (v.injectEvent e converted)

/-- The world of one call of `readEvents`: the time, what the device node gives back, and what the
caller's buffer holds. -/
structure Reads where
  now : Int
  reads : List ReadResult
  memory : Nat → HalEvent

def readEvents (count : Int) (w : Reads) :
    SensorDriver → Option (Except Int (List HalEvent) × SensorDriver)
  | .input d => (d.readEvents count w.now w.reads).map fun r => (r.1, .input r.2)
  | .virtual v =>
    let r := v.readEvents count w.memory
    some (r.1, .virtual r.2)

end SensorDriver

end Wt88047.Sensors
