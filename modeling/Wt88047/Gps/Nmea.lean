import Mathlib.Algebra.Order.Ring.Nat
import Mathlib.Data.List.Basic

/-! The NMEA sentences that `loc_eng_nmea_generate_sv` makes of a report of satellites, and
`loc_eng_nmea_generate_pos` of a report of the position. Text is a list of characters without the final NUL. -/

namespace Wt88047.Nmea

abbrev Text := List Char

abbrev sentenceMaxLength : Nat := 200

/-- `%0wd`. -/
def decimal (w : Nat) (v : Int) : Text :=
  let digits := v.natAbs.repr.toList
  if v < 0 then '-' :: (List.replicate (w - 1 - digits.length) '0' ++ digits)
  else List.replicate (w - digits.length) '0' ++ digits

def hexDigit (n : Nat) : Char := if n < 10 then Char.ofNat (48 + n) else Char.ofNat (55 + n)

/-- `%02X` of a byte. -/
def hex (b : Nat) : Text := [hexDigit (b / 16), hexDigit (b % 16)]

def checksum (t : Text) : Nat := t.foldl (fun sum ch => sum ^^^ ch.toNat) 0

/-- `loc_eng_nmea_put_checksum`: the sentence, cut to what the buffer holds, and its total length. -/
def putChecksum (sentence : Text) (maxSize : Nat) : Text × Nat :=
  let body := sentence.drop 1
  let sum := '*' :: hex (checksum body) ++ ['\r', '\n']
  (sentence ++ sum.take (maxSize - body.length - 1 - 1), body.length + sum.length + 1)

/-- `snprintf` at the marker; it fails where the text and its NUL do not fit. -/
def append (sentence more : Text) : Option Text :=
  if sentenceMaxLength - sentence.length ≤ more.length then none else some (sentence ++ more)

inductive Constellation
  | gps
  | glonass
  | other (n : Nat)
  deriving DecidableEq

/-- A `GnssSvInfo`; the floating-point fields are those that are printed, as they are rounded. -/
structure Sv where
  svid : Int16
  constellation : Constellation
  usedInFix : Bool
  elevation : Int32
  azimuth : Int32
  cN0Positive : Bool
  cN0 : Int32
  deriving DecidableEq

abbrev gnssMaxSvs : Nat := 64

/-- `GnssSvStatus`: an array for `GNSS_MAX_SVS` satellites. -/
structure SvStatus where
  gnssSvList : List Sv
  numSvs_le : gnssSvList.length ≤ gnssMaxSvs

def SvStatus.visible (c : Constellation) (r : SvStatus) : List Sv :=
  r.gnssSvList.filter (·.constellation = c)

structure Dop where
  pdop : UInt32 := 0
  hdop : UInt32 := 0
  vdop : UInt32 := 0

structure LocEngData where
  nmeaCb : Bool
  /-- What the callback was given: each sentence with its length. -/
  reported : List (Text × Nat) := []
  gpsUsedMask : UInt32 := 0
  gloUsedMask : UInt32 := 0
  dop : Dop := {}

def send (sentence : Text) (length : Nat) (d : LocEngData) : LocEngData :=
  if d.nmeaCb then { d with reported := d.reported ++ [(sentence, length)] } else d

def finish (sentence : Text) (d : LocEngData) : LocEngData :=
  let q := putChecksum sentence sentenceMaxLength
  send q.1 q.2 d

def appendSv (sv : Sv) (sentence : Text) : Option Text := do
  let sentence ← append sentence (',' :: decimal 2 sv.svid.toInt ++ ',' :: decimal 2 sv.elevation.toInt ++
    ',' :: decimal 3 sv.azimuth.toInt ++ [','])
  if sv.cN0Positive then append sentence (decimal 2 sv.cN0.toInt) else some sentence

/-- The inner loop. The list is what is left of the report from `svNumber` on, and `i` counts the
satellites of this sentence. -/
def fill (c : Constellation) : List Sv → Nat → Text → Option (Text × List Sv)
  | [], _, sentence => some (sentence, [])
  | sv :: rest, i, sentence =>
    if i < 4 then
      if sv.constellation = c then (appendSv sv sentence).bind fun sentence => fill c rest (i + 1) sentence
      else fill c rest i sentence
    else some (sentence, sv :: rest)

def header (talker : Text) (sentenceCount sentenceNumber svCount : Nat) : Text :=
  '$' :: talker ++ ',' :: decimal 0 sentenceCount ++ ',' :: decimal 0 sentenceNumber ++
    ',' :: decimal 2 svCount

/-- The outer loop, with the number of sentences still to come. The flag is whether all text fitted. -/
def sentences (talker : Text) (c : Constellation) (sentenceCount svCount : Nat) :
    Nat → Nat → List Sv → LocEngData → LocEngData × Bool
  | 0, _, _, d => (d, true)
  | left + 1, sentenceNumber, rest, d =>
    match (append [] (header talker sentenceCount sentenceNumber svCount)).bind (fill c rest 0) with
    | none => (d, false)
    | some (sentence, rest) =>
      sentences talker c sentenceCount svCount left (sentenceNumber + 1) rest (finish sentence d)

/-- The part of `loc_eng_nmea_generate_sv` for one constellation. -/
def generateGsv (talker : Text) (c : Constellation) (r : SvStatus) (d : LocEngData) : LocEngData × Bool :=
  let svCount := (r.gnssSvList.filter (·.constellation = c)).length
  if svCount = 0 then (finish ('$' :: talker ++ ",1,1,0,".toList) d, true)
  else
    let sentenceCount := svCount / 4 + if svCount % 4 ≠ 0 then 1 else 0
    sentences talker c sentenceCount svCount sentenceCount 1 r.gnssSvList d

def gpgsv : Text := "GPGSV".toList

def glgsv : Text := "GLGSV".toList

/-- `mask |= 1 << (svid - 1)` for the satellites used in the fix; `shl n` is what `1 << n` gives. -/
def usedMask (shl : Int → UInt32) (c : Constellation) (r : SvStatus) : UInt32 :=
  r.gnssSvList.foldl (fun mask sv =>
    if sv.constellation = c ∧ sv.usedInFix then mask ||| shl (sv.svid.toInt - 1) else mask) 0

/-- `loc_eng_nmea_generate_sv`; `dop` where the report of the location has one. -/
def generateSv (shl : Int → UInt32) (r : SvStatus) (dop : Option Dop) (d : LocEngData) : LocEngData :=
  let d := { d with gpsUsedMask := usedMask shl .gps r, gloUsedMask := usedMask shl .glonass r }
  let q := generateGsv gpgsv .gps r d
  if !q.2 then q.1
  else
    let q := generateGsv glgsv .glonass r q.1
    if !q.2 then q.1 else { q.1 with dop := dop.getD {} }

/-! A floating-point value of the report is the text that it is printed as. -/

structure Tm where
  tmYear : Int
  tmMon : Int
  tmMday : Int
  tmHour : Int
  tmMin : Int
  tmSec : Int

structure Coordinate where
  degrees : UInt8
  minutes : Text
  hemisphere : Char

/-- `UlpLocation` and `GpsLocationExtended`; a value is there where its flag is set. `altitude` is the one above
`altitudeMeanSeaLevel`, and `utc` is none where `gmtime` fails. -/
structure PosReport where
  utc : Option Tm
  timestamp : Int64
  latLong : Option (Coordinate × Coordinate)
  /-- In knots, and in kilometres per hour. -/
  speed : Option (Text × Text)
  bearing : Option Text
  altitude : Option Text
  altitudeMeanSeaLevel : Option Text
  /-- With its direction. -/
  magneticDeviation : Option (Text × Char)
  dop : Option Dop
  /-- The mode of the adapter is `LOC_POSITION_MODE_STANDALONE`. -/
  standalone : Bool

/-- A sentence as it is put together: each text but the last is checked for its room. -/
structure Draft where
  checked : List Text
  last : Text

def Draft.text (s : Draft) : Text := s.checked.flatten ++ s.last

def Draft.build (s : Draft) : Option Text :=
  (s.checked.foldlM append []).map fun t => t ++ s.last.take (sentenceMaxLength - t.length - 1)

def report : List Draft → LocEngData → LocEngData × Bool
  | [], d => (d, true)
  | s :: rest, d =>
    match s.build with
    | none => (d, false)
    | some t => report rest (finish t d)

/-- The loop that reads the satellites off a mask, from the bit of number `i` on. -/
def usedList (offset i count : Nat) (mask : UInt32) : List Nat :=
  if 0 < mask ∧ count < 32 then
    if mask &&& 1 ≠ 0 then (i + offset) :: usedList offset (i + 1) (count + 1) (mask >>> 1)
    else usedList offset (i + 1) count (mask >>> 1)
  else []
termination_by mask.toNat
decreasing_by
  all_goals
    rename_i h _
    have hpos : 0 < mask.toNat := h.1
    show (mask >>> 1).toNat < _
    rw [UInt32.toNat_shiftRight]
    exact Nat.div_lt_self hpos (by decide)

abbrev glonassSvIdOffset : Nat := 64

def fixType (svUsedCount : Nat) : Char :=
  if svUsedCount = 0 then '1' else if svUsedCount ≤ 3 then '2' else '3'

def gsaSlots (used : List Nat) : List Text :=
  (List.range 12).map fun i =>
    match (used[i]? : Option Nat) with
    | some n => decimal 2 n ++ [',']
    | none => [',']

def positive (bits : UInt32) : Bool := 0 < bits && bits ≤ 0x7f800000

def knownDop (p : PosReport) (cached : Dop) : Option Dop :=
  match p.dop with
  | some dop => some dop
  | none => if positive cached.pdop && positive cached.hdop && positive cached.vdop then some cached else none

section

variable (fixed1 : UInt32 → Text)

/-- GSA; `fixed1` is how a float is printed with one decimal. -/
def gsa (talker : Text) (used : List Nat) (p : PosReport) (d : LocEngData) : Draft where
  checked := ('$' :: talker ++ ",A,".toList ++ [fixType used.length, ',']) :: gsaSlots used
  last :=
    match knownDop p d.dop with
    | some dop => fixed1 dop.pdop ++ ',' :: fixed1 dop.hdop ++ ',' :: fixed1 dop.vdop
    | none => ",,".toList

def gpvtg (p : PosReport) : Draft where
  checked :=
    [match p.bearing with
      | some bearing => "$GPVTG,".toList ++ bearing ++ ",T,".toList ++ bearing ++ ",M,".toList
      | none => "$GPVTG,,T,,M,".toList,
    match p.speed with
      | some (knots, kmPerHour) => knots ++ ",N,".toList ++ kmPerHour ++ ",K,".toList
      | none => ",N,,K,".toList]
  last := [if p.latLong.isNone then 'N' else if p.standalone then 'A' else 'D']

def timeOfDay (tm : Tm) (p : PosReport) : Text :=
  decimal 2 tm.tmHour ++ decimal 2 tm.tmMin ++ decimal 2 tm.tmSec ++
    '.' :: decimal 2 ((p.timestamp.toInt.tmod 1000).tdiv 10)

def latLongText (p : PosReport) : Text :=
  match p.latLong with
  | some (lat, lon) =>
    decimal 2 lat.degrees.toNat ++ lat.minutes ++ [',', lat.hemisphere, ','] ++
      decimal 3 lon.degrees.toNat ++ lon.minutes ++ [',', lon.hemisphere, ',']
  | none => ",,,,".toList

/-- `%2.2d` -/
def twoDigits (v : Int) : Text := if v < 0 then '-' :: decimal 2 (-v) else decimal 2 v

def orEmpty (v : Option Text) : Text := v.getD [] ++ [',']

def gprmc (tm : Tm) (p : PosReport) : Draft where
  checked :=
    ["$GPRMC,".toList ++ timeOfDay tm p ++ ",A,".toList, latLongText p, orEmpty (p.speed.map (·.1)), orEmpty p.bearing,
      twoDigits tm.tmMday ++ twoDigits (tm.tmMon + 1) ++ twoDigits (tm.tmYear.tmod 100) ++ [','],
      match p.magneticDeviation with
      | some (variation, direction) => variation ++ [',', direction, ',']
      | none => ",,".toList]
  last := [if p.latLong.isNone then 'N' else if p.standalone then 'A' else 'D']

def gpgga (tm : Tm) (svUsedCount : Nat) (p : PosReport) (d : LocEngData) : Draft where
  checked :=
    ["$GPGGA,".toList ++ timeOfDay tm p ++ [','], latLongText p,
      (if p.latLong.isNone then '0' else if p.standalone then '1' else '2') :: ',' :: decimal 2 svUsedCount ++
        ',' :: orEmpty ((knownDop p d.dop).map fun dop => fixed1 dop.hdop),
      match p.altitudeMeanSeaLevel with
      | some altitude => altitude ++ ",M,".toList
      | none => ",,".toList]
  last :=
    match p.altitude, p.altitudeMeanSeaLevel with
    | some altitude, some _ => altitude ++ ",M,,".toList
    | _, _ => ",,,".toList

def gpgsa : Text := "GPGSA".toList

def gngsa : Text := "GNGSA".toList

def blankDrafts : List Draft :=
  [⟨[], "$GPGSA,A,1,,,,,,,,,,,,,,,".toList⟩, ⟨[], "$GNGSA,A,1,,,,,,,,,,,,,,,".toList⟩,
    ⟨[], "$GPVTG,,T,,M,,N,,K,N".toList⟩, ⟨[], "$GPRMC,,V,,,,,,,,,,N".toList⟩, ⟨[], "$GPGGA,,,,,,0,,,,,,,,".toList⟩]

def generatePos (p : PosReport) (generateNmea : Bool) (d : LocEngData) : LocEngData :=
  match p.utc with
  | none => d
  | some tm =>
    if generateNmea then
      let svUsedList := usedList 0 1 0 d.gpsUsedMask
      let q := report [gsa fixed1 gpgsa svUsedList p d] { d with gpsUsedMask := 0 }
      if !q.2 then q.1
      else
        let gloUsedList := usedList glonassSvIdOffset 1 0 d.gloUsedMask
        let q := report [gsa fixed1 gngsa gloUsedList p d, gpvtg p, gprmc tm p, gpgga fixed1 tm svUsedList.length p d]
          { q.1 with gloUsedMask := 0 }
        if !q.2 then q.1 else { q.1 with dop := {} }
    else { (report blankDrafts d).1 with dop := {} }

end

end Wt88047.Nmea
