import Wt88047.Gps.Nmea

/-! How the location engine handles the reports of the modem, on its message thread, and what it passes to the
callbacks of the framework. -/

namespace Wt88047.LocEng

open Nmea

@[match_pattern] abbrev beidou : Constellation := .other 5

@[match_pattern] abbrev galileo : Constellation := .other 6

abbrev usedInFix : UInt8 := 4

structure GnssSvInfo where
  svid : Int16
  constellation : Constellation
  flags : UInt8
  elevation : Int32
  azimuth : Int32
  cN0Positive : Bool
  cN0 : Int32
  deriving DecidableEq

structure GnssSvStatus where
  gnssSvList : List GnssSvInfo
  numSvs_le : gnssSvList.length ≤ gnssMaxSvs

def GnssSvInfo.toSv (sv : GnssSvInfo) : Sv where
  svid := sv.svid
  constellation := sv.constellation
  usedInFix := sv.flags &&& usedInFix = usedInFix
  elevation := sv.elevation
  azimuth := sv.azimuth
  cN0Positive := sv.cN0Positive
  cN0 := sv.cN0

def GnssSvStatus.toSvStatus (r : GnssSvStatus) : SvStatus where
  gnssSvList := r.gnssSvList.map (·.toSv)
  numSvs_le := by simpa using r.numSvs_le

structure GnssSvUsedInPosition where
  gpsSvUsedIdsMask : UInt64
  gloSvUsedIdsMask : UInt64
  galSvUsedIdsMask : UInt64
  bdsSvUsedIdsMask : UInt64

def svUsedIdMask (used : GnssSvUsedInPosition) : Constellation → UInt64
  | .gps => used.gpsSvUsedIdsMask
  | .glonass => used.gloSvUsedIdsMask
  | beidou => used.bdsSvUsedIdsMask
  | galileo => used.galSvUsedIdsMask
  | _ => 0

def extend (v : UInt32) : UInt64 := v.toInt32.toInt64.toUInt64

def markSv (shl : Int → UInt32) (used : GnssSvUsedInPosition) (sv : GnssSvInfo) : GnssSvInfo :=
  if svUsedIdMask used sv.constellation &&& extend (shl (sv.svid.toInt - 1)) ≠ 0 then
    { sv with flags := sv.flags ||| usedInFix }
  else { sv with flags := sv.flags &&& ~~~usedInFix }

/-- The loop of `LocEngReportSv::proc`, where the list of the last position is available. -/
def markUsedInFix (shl : Int → UInt32) (used : Option GnssSvUsedInPosition) (r : GnssSvStatus) : GnssSvStatus :=
  match used with
  | some used => ⟨r.gnssSvList.map (markSv shl used), by simpa using r.numSvs_le⟩
  | none => r

inductive GpsStatusValue
  | none
  | sessionBegin
  | sessionEnd
  | engineOn
  | engineOff
  | other (n : Nat)
  deriving DecidableEq

inductive LocSessStatus
  | success
  | intermediate
  | failure
  deriving DecidableEq

structure Position where
  location : PosReport
  status : LocSessStatus
  techMask : UInt32
  /-- It has an accuracy, and one above the threshold of the configuration. -/
  inaccurate : Bool
  gnssSvUsedIds : Option GnssSvUsedInPosition

inductive Call
  | location (p : Option Position)
  | svStatus (r : GnssSvStatus)
  | status (status : GpsStatusValue)

inductive MuteSession
  | none
  | wait
  | inSession
  deriving DecidableEq

structure Adapter where
  navigating : Bool
  /-- The recurrence is `GPS_POSITION_RECURRENCE_SINGLE`. -/
  single : Bool
  gnssSvUsed : Option GnssSvUsedInPosition

/-- `loc_eng_data_s`: what is there for the sentences, and what the reports need. A callback is there or not. -/
structure Data extends LocEngData where
  adapter : Adapter
  muteSessionState : MuteSession
  engineStatus : GpsStatusValue
  fixSessionStatus : GpsStatusValue
  intermediateFix : UInt8
  generateNmea : Bool
  locationCb : Bool
  gnssSvStatusCb : Bool
  statusCb : Bool
  /-- What the callbacks were called with, but for the sentences. -/
  calls : List Call

def Data.framework (d : Data) : List Call × List (Text × Nat) := (d.calls, d.reported)

def muteOneSession (d : Data) : Data := { d with muteSessionState := .wait }

def MuteSession.next (status : GpsStatusValue) (mute : MuteSession) : MuteSession :=
  let mute := if status = .sessionBegin ∨ status = .engineOn then
    if mute = .wait then .inSession else mute else mute
  if mute = .inSession ∧ (status = .sessionEnd ∨ status = .engineOff) then .none else mute

def reportStatus (status : GpsStatusValue) (d : Data) : Data :=
  let mute := d.muteSessionState.next status
  let told : Bool := status ≠ .none ∧ ¬(status = .sessionEnd ∧ d.adapter.navigating) ∧
    ¬(status = .sessionBegin ∧ !d.adapter.navigating) ∧ mute ≠ .inSession ∧ d.statusCb
  { d with
    muteSessionState := mute
    calls := if told then d.calls ++ [.status status] else d.calls
    engineStatus := if status = .engineOn ∨ status = .engineOff then status else d.engineStatus
    fixSessionStatus := if status = .sessionBegin ∨ status = .sessionEnd then status else d.fixSessionStatus }

/-- `LOC_POS_TECH_MASK_SATELLITE`, `LOC_POS_TECH_MASK_SENSORS` and `LOC_POS_TECH_MASK_HYBRID` -/
abbrev finalTechMask : UInt32 := 0x1 ||| 0x8 ||| 0x80

def accepts (p : Position) (d : Data) : Bool :=
  (p.status = .success ∧ finalTechMask &&& p.techMask ≠ 0) ∨ (d.intermediateFix = 1 ∧ !p.inaccurate)

/-- The call of `location_cb`. The flag is whether the fix was reported. -/
def tellLocation (p : Position) (d : Data) : Data × Bool :=
  if d.locationCb then
    if p.status = .failure then ({ d with calls := d.calls ++ [.location none] }, true)
    else if accepts p d then
      ({ d with
        adapter := { d.adapter with gnssSvUsed := p.gnssSvUsedIds.or d.adapter.gnssSvUsed }
        calls := d.calls ++ [.location (some p)] }, true)
    else (d, false)
  else (d, false)

section

variable (shl : Int → UInt32) (fixed1 : UInt32 → Text)

/-- `LocEngReportPosition::proc`. The request to stop the fix, after one that is not final, goes to the modem. -/
def reportPosition (p : Position) (d : Data) : Data :=
  if d.muteSessionState ≠ .inSession then
    let (d, reported) := tellLocation p d
    let d := if reported ∧ d.adapter.single then { d with adapter := { d.adapter with navigating := false } } else d
    if d.generateNmea ∧ d.adapter.navigating then
      { d with toLocEngData := generatePos fixed1 p.location (reported && p.status ≠ .failure) d.toLocEngData }
    else d
  else d

/-- `LocEngReportSv::proc`; `dop` where the report has one. -/
def reportSv (r : GnssSvStatus) (dop : Option Dop) (d : Data) : Data :=
  if d.muteSessionState ≠ .inSession then
    let r := markUsedInFix shl d.adapter.gnssSvUsed r
    let d := if d.gnssSvStatusCb then { d with calls := d.calls ++ [.svStatus r] } else d
    if d.generateNmea then { d with toLocEngData := generateSv shl r.toSvStatus dop d.toLocEngData } else d
  else d

inductive Msg
  | muteOneSession
  | status (status : GpsStatusValue)
  | position (p : Position)
  | sv (r : GnssSvStatus) (dop : Option Dop)
  | adapter (adapter : Adapter)

def proc (m : Msg) (d : Data) : Data :=
  match m with
  | .muteOneSession => muteOneSession d
  | .status status => reportStatus status d
  | .position p => reportPosition fixed1 p d
  | .sv r dop => reportSv shl r dop d
  | .adapter adapter => { d with adapter := adapter }

def run (ms : List Msg) (d : Data) : Data := ms.foldl (fun d m => proc shl fixed1 m d) d

end

end Wt88047.LocEng
