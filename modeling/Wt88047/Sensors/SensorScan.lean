import Wt88047.Gps.LocCfg
import Wt88047.Sensors.NativeSensorManager

/-! How the manager finds its sensors: the entries of the sensor class directory, each with its
attribute nodes, and then the virtual sensors. -/

namespace Wt88047.SensorScan

open LocCfg (Text Libc atoi cString)
open Sensors (sensorsHandle)

abbrev maxSensors : Nat := 20

abbrev sysfsMaxlen : Nat := 50

inductive Field
  | name
  | vendor
  | version
  | type
  | maxRange
  | resolution
  | power
  | minDelay
  | fifoReservedEventCount
  | fifoMaxEventCount
  | maxDelay
  | flags
  deriving DecidableEq

def Field.node : Field → String
  | .name => "name"
  | .vendor => "vendor"
  | .version => "version"
  | .type => "type"
  | .maxRange => "max_range"
  | .resolution => "resolution"
  | .power => "sensor_power"
  | .minDelay => "min_delay"
  | .fifoReservedEventCount => "fifo_reserved_event_count"
  | .fifoMaxEventCount => "fifo_max_event_count"
  | .maxDelay => "max_delay"
  | .flags => "flags"

def requiredFields : List Field :=
  [.name, .vendor, .version, .type, .maxRange, .resolution, .power, .minDelay]

def optionalFields : List Field := [.fifoReservedEventCount, .fifoMaxEventCount, .maxDelay, .flags]

/-- The fields of `node_map`, with `required`. -/
def nodeMap : List (Field × Bool) :=
  requiredFields.map (fun f => (f, true)) ++ optionalFields.map fun f => (f, false)

/-- A `sensor_t` with the `enable_path` of its context. A number with a fraction is given by the bits
of the double that `atof` gives, and `stringType` by the type whose text it is. -/
structure Sensor where
  name : Text := []
  vendor : Text := []
  version : Int32 := 0
  type : Int32 := 0
  maxRange : UInt64 := 0
  resolution : UInt64 := 0
  power : UInt64 := 0
  minDelay : Int32 := 0
  fifoReservedEventCount : Int32 := 0
  fifoMaxEventCount : Int32 := 0
  maxDelay : Int32 := 0
  flags : Int32 := 0
  handle : Int := 0
  stringType : Int32 := 0
  enablePath : Text := []
  deriving DecidableEq

/-- An entry of the directory. A node gives the bytes that `read` does, or it does not open or
cannot be read. -/
structure Entry where
  dName : Text
  read : String → Option Text

/-- `.` and `..`. -/
def Entry.isDot (e : Entry) : Bool := e.dName = ['.'] || e.dName = ['.', '.']

def nodeText (r : Option Text) : Option Text :=
  match r.map (·.take (sysfsMaxlen - 1)) with
  | none => none
  | some bytes =>
    if bytes = [] ∨ cString bytes = [] then none
    else
      let tmp := cString bytes.dropLast
      some (if tmp.getLast? = some '\n' then tmp.dropLast else tmp)

def Entry.text (e : Entry) (f : Field) : Option Text := nodeText (e.read f.node)

section

variable (lib : Libc)

def store (f : Field) (text : Text) (s : Sensor) : Sensor :=
  match f with
  | .name => { s with name := text }
  | .vendor => { s with vendor := text }
  | .version => { s with version := atoi lib text }
  | .type => { s with type := atoi lib text }
  | .maxRange => { s with maxRange := lib.atof text }
  | .resolution => { s with resolution := lib.atof text }
  | .power => { s with power := lib.atof text }
  | .minDelay => { s with minDelay := atoi lib text }
  | .fifoReservedEventCount => { s with fifoReservedEventCount := atoi lib text }
  | .fifoMaxEventCount => { s with fifoMaxEventCount := atoi lib text }
  | .maxDelay => { s with maxDelay := atoi lib text }
  | .flags => { s with flags := atoi lib text }

def getNode (e : Entry) (m : Field × Bool) (s : Sensor) : Int × Sensor :=
  match e.text m.1 with
  | none => (if m.2 then -1 else 0, s)
  | some text => (0, store lib m.1 text s)

def getNodes (e : Entry) : List (Field × Bool) → Sensor → Bool × Sensor
  | [], s => (true, s)
  | m :: ms, s =>
    let r := getNode lib e m s
    if r.1 ≠ 0 then (false, r.2) else getNodes e ms r.2

def toMicroseconds (maxDelay : Int32) : Int32 := if maxDelay = 0 then 10000000 else maxDelay * 1000

def setUp (number : Nat) (e : Entry) (s : Sensor) : Sensor :=
  { s with
    maxDelay := toMicroseconds s.maxDelay
    handle := sensorsHandle number
    stringType := s.type
    enablePath := e.dName }

/-- The test of `SUPPORTED_SENSORS_TYPE`; a type that is no shift count tests as the machine has
it. -/
def supported (odd : Int32 → Bool) (type : Int32) : Bool :=
  if 0 ≤ type.toInt ∧ type.toInt < 64 then type.toInt ∈ [1, 2, 8, 5, 4] else odd type

variable (odd : Int32 → Bool)

/-- The loop of `getSensorListInner`, with the contexts. It has no result when it comes to a context
behind the last. -/
def scan : List Entry → Nat → (Nat → Sensor) → Option (Nat × (Nat → Sensor))
  | [], number, context => some (number, context)
  | e :: es, number, context =>
    if e.isDot then scan es number context
    else if maxSensors ≤ number then none
    else
      let r := getNodes lib e nodeMap (context number)
      if r.1 && supported odd r.2.type then
        scan es (number + 1) (Function.update context number (setUp number e r.2))
      else scan es number (Function.update context number r.2)

def getSensorListInner (listing : List Entry) : Option (Nat × (Nat → Sensor)) :=
  scan lib odd listing 0 fun _ => {}

def typeToName (type : Int) : String :=
  match type with
  | 1 => "accelerometer"
  | 2 => "compass"
  | 3 => "orientation"
  | 4 => "gyroscope"
  | 5 => "light"
  | 6 => "pressure"
  | 7 => "temperature"
  | 8 => "proximity"
  | 9 => "gravity"
  | 10 => "linear_acceleration"
  | 11 => "rotation_vector"
  | 12 => "relative_humidity"
  | 13 => "ambient_temperature"
  | 14 => "magnetic_field_uncalibrated"
  | 15 => "game_rotation_vector"
  | 16 => "gyroscope_uncalibrated"
  | 17 => "significant_motion"
  | 18 => "step_detector"
  | 19 => "step_counter"
  | 20 => "geomagnetic_field"
  | 65537 => "pocket"
  | _ => ""

def isDelim (c : Char) : Bool := c = '-' || c = '_' || c = ' '

def compositeVirtualSensorName (sensorName : Text) (type : Int32) : Text :=
  let token := (sensorName.dropWhile isDelim).takeWhile fun c => !isDelim c
  (token ++ '-' :: (typeToName type.toInt).toList).take (sysfsMaxlen - 1)

/-- An entry of `virtualSensorList` whose name is made of a chip's name. -/
def oemSensor (chip : Text) (type : Int32) (maxRange resolution : String) (minDelay flags : Int32) : Sensor :=
  { name := compositeVirtualSensorName chip type
    vendor := "oem".toList
    version := 1
    type
    maxRange := lib.atof maxRange.toList
    resolution := lib.atof resolution.toList
    power := lib.atof "1".toList
    minDelay
    flags }

def pocket (chip : Text) : Sensor := oemSensor lib chip 65537 "1" "1" 5000 2

def orientation (chip : Text) : Sensor := oemSensor lib chip 3 "360" "0.00390625" 10000 0

def linearAcceleration (chip : Text) : Sensor := oemSensor lib chip 10 "40" "0.01" 10000 0

def rotationVector (chip : Text) : Sensor := oemSensor lib chip 11 "1" "5.9604644775390625e-8" 10000 0

def gravity (chip : Text) : Sensor := oemSensor lib chip 9 "40" "0.01" 10000 0

def gameRotationVector : Sensor :=
  { oemSensor lib [] 15 "1" "5.9604644775390625e-8" 10000 0 with
    name := "qti-game-rotation-vector".toList
    vendor := "QTI".toList }

def fixUp (s : Sensor) : Sensor :=
  if s.type = 8 then { s with flags := s.flags ||| (1 ||| 2) }
  else if s.type = 5 then { s with flags := s.flags ||| 2 }
  else s

def lastOf (hardware : List Sensor) (type : Int32) : Option Sensor :=
  (hardware.filter fun s => s.type = type).getLast?

/-- The virtual sensors that `getDataInfo` tries one after the other, with those that they depend
on. -/
def wanted (hardware : List Sensor) : List (Sensor × List Sensor) :=
  let acc := lastOf hardware 1
  let mag := lastOf hardware 2
  let gyro := lastOf hardware 4
  (match lastOf hardware 5, lastOf hardware 8 with
    | some light, some proximity => [(pocket lib proximity.name, [proximity, light])]
    | _, _ => []) ++
  (match acc, mag with
    | some acc, some mag =>
      (orientation lib mag.name, [acc, mag]) ::
        if gyro.isSome then []
        else [(linearAcceleration lib mag.name, [acc, mag]), (rotationVector lib mag.name, [acc, mag]),
          (gravity lib mag.name, [acc, mag])]
    | _, _ => []) ++
  (match mag with
    | some mag => [({ mag with type := 14 }, [mag])]
    | none => []) ++
  (match gyro with
    | some gyro => [({ gyro with type := 16 }, [gyro])]
    | none => []) ++
  match acc, gyro with
    | some acc, some gyro => [(gameRotationVector lib, [acc, gyro])]
    | _, _ => []

def addDependency (s dep : Sensor) : Sensor :=
  if s.maxDelay = 0 then { s with maxDelay := dep.maxDelay }
  else { s with maxDelay := if dep.maxDelay < s.maxDelay then dep.maxDelay else s.maxDelay }

def virtualSensor (number : Nat) (info : Sensor) (deps : List Sensor) : Sensor :=
  { deps.foldl addDependency { info with handle := sensorsHandle number } with
    stringType := info.type
    enablePath := [] }

/-- The virtual sensors are tried in turn; `getCalAlgo` says which have an algorithm. There is no
result when the context behind the last would be needed. -/
def addVirtual (getCalAlgo : Sensor → Bool) :
    List (Sensor × List Sensor) → Nat → (Nat → Sensor) → Option (Nat × (Nat → Sensor))
  | [], number, context => some (number, context)
  | (info, deps) :: rest, number, context =>
    if maxSensors ≤ number then none
    else if getCalAlgo info then
      addVirtual getCalAlgo rest (number + 1)
        (Function.update context number (virtualSensor number info deps))
    else
      addVirtual getCalAlgo rest number
        (Function.update context number { info with enablePath := (context number).enablePath })

/-- `getDataInfo`: how many sensors there are, and the contexts. -/
def getDataInfo (getCalAlgo : Sensor → Bool) (listing : List Entry) : Option (Nat × (Nat → Sensor)) :=
  (getSensorListInner lib odd listing).bind fun (number, context) =>
    let context := fun k => if k < number then fixUp (context k) else context k
    addVirtual getCalAlgo (wanted lib ((List.range number).map context)) number context

end

end Wt88047.SensorScan
