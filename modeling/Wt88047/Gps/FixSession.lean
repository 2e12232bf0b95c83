import Wt88047.Gps.LocEngReports
import Wt88047.Lib.Trace

/-! The sessions of the modem: what the location engine asks of it, on its message thread, to start and stop a fix. -/

namespace Wt88047.LocEng

open Nmea

inductive LocPositionMode
  | invalid
  | standalone
  | msBased
  | msAssisted
  deriving DecidableEq

structure LocPosMode where
  mode : LocPositionMode
  recurrence : UInt32
  minInterval : UInt32
  preferredAccuracy : UInt32
  preferredTime : UInt32

abbrev recurrenceSingle : UInt32 := 1

abbrev capabilityMsb : UInt32 := 2

abbrev capabilityMsa : UInt32 := 4

abbrev minPossibleFixInterval : UInt32 := 1000

/-- `loc_set_position_mode` and `loc_eng_set_position_mode`, with the `CAPABILITIES` of the configuration. -/
def setPositionMode (capabilities mode recurrence minInterval preferredAccuracy preferredTime : UInt32) :
    LocPosMode :=
  let locMode : LocPositionMode := if mode = 1 then .msBased else if mode = 2 then .msAssisted else .standalone
  { mode := if capabilities &&& capabilityMsb = 0 ∧ capabilities &&& capabilityMsa = 0 then .standalone else locMode
    recurrence := recurrence
    minInterval := if minInterval < minPossibleFixInterval then minPossibleFixInterval else minInterval
    preferredAccuracy := preferredAccuracy
    preferredTime := preferredTime }

inductive LocApiAdapterErr
  | success
  | phoneOffline
  | internal
  | other (n : Nat)
  deriving DecidableEq

/-- What the adapter calls on `mLocApi`. -/
inductive LocApiCall
  | setPositionMode (posMode : LocPosMode)
  | startFix (posMode : LocPosMode)
  | stopFix
  | setInSession (inSession : Bool)

structure Engine where
  data : Data
  mFixCriteria : LocPosMode
  asked : List LocApiCall

namespace Engine

/-- After the constructor of the adapter. -/
def make (d : Data) : Engine where
  data := { d with adapter := { navigating := false, single := false, gnssSvUsed := none } }
  mFixCriteria := { mode := .invalid, recurrence := 0, minInterval := 0, preferredAccuracy := 0, preferredTime := 0 }
  asked := []

def ask (call : LocApiCall) (e : Engine) : Engine := { e with asked := e.asked ++ [call] }

def setInSession (inSession : Bool) (e : Engine) : Engine :=
  { e with
    data := { e.data with adapter := { e.data.adapter with navigating := inSession } }
    mFixCriteria := if inSession then e.mFixCriteria else { e.mFixCriteria with mode := .invalid }
    asked := e.asked ++ [.setInSession inSession] }

/-- `LocEngAdapter::setPositionMode` -/
def positionMode (posMode : LocPosMode) (e : Engine) : Engine :=
  { e with
    data := { e.data with adapter := { e.data.adapter with single := posMode.recurrence = recurrenceSingle } }
    mFixCriteria := posMode
    asked := e.asked ++ [.setPositionMode posMode] }

/-- `loc_eng_start_handler`; `err` is the modem's answer. -/
def startHandler (err : LocApiAdapterErr) (e : Engine) : Engine :=
  if e.data.adapter.navigating then e
  else
    let e := e.ask (.startFix e.mFixCriteria)
    if err = .success ∨ err = .phoneOffline ∨ err = .internal then e.setInSession true else e

/-- `loc_eng_stop_handler` -/
def stopHandler (e : Engine) : Engine :=
  if e.data.adapter.navigating then (e.ask .stopFix).setInSession false else e

/-- `LocEngReportPosition::proc`, with what a reported fix of a single shot makes of the session. -/
def position (fixed1 : UInt32 → Text) (p : Position) (e : Engine) : Engine :=
  let ends := e.data.muteSessionState ≠ .inSession ∧ (tellLocation p e.data).2 ∧ e.data.adapter.single
  let e := { e with data := reportPosition fixed1 p e.data }
  if ends then (if p.status = .intermediate then e.ask .stopFix else e).setInSession false else e

/-- The end of `loc_eng_handle_engine_up`. -/
def handleEngineUp (err : LocApiAdapterErr) (e : Engine) : Engine :=
  if e.data.adapter.navigating then (e.setInSession false).startHandler err else e

end Engine

inductive SessionMsg
  | positionMode (capabilities mode recurrence minInterval preferredAccuracy preferredTime : UInt32)
  | startFix (err : LocApiAdapterErr)
  | stopFix
  | position (p : Position)
  | sv (r : GnssSvStatus) (dop : Option Dop)
  | status (status : GpsStatusValue)
  | muteOneSession
  | engineUp (err : LocApiAdapterErr)

section

variable (shl : Int → UInt32) (fixed1 : UInt32 → Text)

def Engine.proc (e : Engine) : SessionMsg → Engine
  | .positionMode capabilities mode recurrence minInterval preferredAccuracy preferredTime =>
    e.positionMode (setPositionMode capabilities mode recurrence minInterval preferredAccuracy preferredTime)
  | .startFix err => e.startHandler err
  | .stopFix =>
    { e with data := { e.data with adapter := { e.data.adapter with gnssSvUsed := none } } }.stopHandler
  | .position p => e.position fixed1 p
  | .sv r dop => { e with data := reportSv shl r dop e.data }
  | .status status => { e with data := reportStatus status e.data }
  | .muteOneSession => { e with data := muteOneSession e.data }
  | .engineUp err => e.handleEngineUp err

end

abbrev InSession : List LocApiCall → Prop :=
  Since (fun _ call => call = .setInSession true) (· ≠ .setInSession false)

/-- `m` is the last position mode. -/
abbrev LastMode (m : LocPosMode) : List LocApiCall → Prop :=
  Since (fun _ call => call = .setPositionMode m) (∀ m', · ≠ .setPositionMode m')

/-- No session has ended since that mode was set. -/
abbrev Current (m : LocPosMode) : List LocApiCall → Prop :=
  Since (fun _ call => call = .setPositionMode m)
    (fun call => call ≠ .setInSession false ∧ ∀ m', call ≠ .setPositionMode m')

/-- The criteria are those last set; after the end of a session they have no mode. -/
structure Carries (asked : List LocApiCall) (c : LocPosMode) : Prop where
  last : ∀ m, LastMode m asked → { c with mode := m.mode } = m
  current : ∀ m, Current m asked → c = m
  invalid : (∀ m, ¬Current m asked) → c.mode = .invalid

/-- What may be asked, after what was. -/
def Rightful (asked : List LocApiCall) : LocApiCall → Prop
  | .setPositionMode m => m.mode ≠ .invalid
  | .startFix c => ¬InSession asked ∧ Carries asked c
  | .stopFix => InSession asked ∨ ∃ m, LastMode m asked ∧ m.recurrence = recurrenceSingle
  | .setInSession inSession => inSession → ∃ old c, asked = old ++ [.startFix c]

structure Engine.Inv (e : Engine) : Prop where
  each : Trace.Each Rightful e.asked
  navigating : e.data.adapter.navigating = true ↔ InSession e.asked
  carries : Carries e.asked e.mFixCriteria
  single : e.data.adapter.single = true → ∃ m, LastMode m e.asked ∧ m.recurrence = recurrenceSingle

variable {e : Engine}

theorem Carries.concat {asked : List LocApiCall} {c : LocPosMode} {call : LocApiCall} (h : Carries asked c)
    (hmode : ∀ m, call ≠ .setPositionMode m) (hend : call ≠ .setInSession false) : Carries (asked ++ [call]) c := by
  have hlast : ∀ m, LastMode m (asked ++ [call]) ↔ LastMode m asked := fun m => by
    simp [LastMode, Since.append_singleton, hmode]
  have hcurrent : ∀ m, Current m (asked ++ [call]) ↔ Current m asked := fun m => by
    simp [Current, Since.append_singleton, hmode, hend]
  exact ⟨fun m hm => h.last m ((hlast m).mp hm), fun m hm => h.current m ((hcurrent m).mp hm),
    fun hm => h.invalid fun m => mt (hcurrent m).mpr (hm m)⟩

namespace Engine

theorem Inv.ask (h : e.Inv) (call : LocApiCall) (hright : Rightful e.asked call)
    (hmode : ∀ m, call ≠ .setPositionMode m) (hsession : ∀ b, call ≠ .setInSession b) : (e.ask call).Inv where
  each := h.each.concat hright
  navigating := by simpa [Engine.ask, Since.append_singleton, hsession] using h.navigating
  carries := h.carries.concat hmode (hsession false)
  single hs := by
    obtain ⟨m, hm, hsingle⟩ := h.single hs
    exact ⟨m, hm.extend hmode, hsingle⟩

theorem Inv.setInSession (h : e.Inv) (inSession : Bool)
    (hstart : inSession = true → ∃ old c, e.asked = old ++ [.startFix c]) : (e.setInSession inSession).Inv where
  each := h.each.concat hstart
  navigating := by cases inSession <;> simp [Engine.setInSession, Since.append_singleton]
  carries := by
    cases inSession with
    | true => exact h.carries.concat nofun nofun
    | false =>
      refine ⟨fun m hm => ?_, fun m hm => ?_, fun _ => rfl⟩
      · have hbefore : LastMode m e.asked := by
          simpa [Engine.setInSession, LastMode, Since.append_singleton] using hm
        simpa [Engine.setInSession] using h.carries.last m hbefore
      · simp [Engine.setInSession, Current, Since.append_singleton] at hm
  single hs := by
    obtain ⟨m, hm, hsingle⟩ := h.single hs
    exact ⟨m, hm.extend nofun, hsingle⟩

theorem Inv.positionMode {m : LocPosMode} (h : e.Inv) (hm : m.mode ≠ .invalid) : (e.positionMode m).Inv where
  each := h.each.concat hm
  navigating := by simpa [Engine.positionMode, Since.append_singleton] using h.navigating
  carries := by
    refine ⟨fun m' hm' => ?_, fun m' hm' => ?_, fun hnone => absurd (Since.of_last rfl) (hnone m)⟩
    · have heq : m = m' := by simpa [Engine.positionMode, LastMode, Since.append_singleton] using hm'
      rw [heq]
      rfl
    · simpa [Engine.positionMode, Current, Since.append_singleton] using hm'
  single hs := ⟨m, Since.of_last rfl, of_decide_eq_true hs⟩

theorem Inv.startHandler {err : LocApiAdapterErr} (h : e.Inv) : (e.startHandler err).Inv := by
  unfold Engine.startHandler
  split
  · exact h
  · next hidle =>
    have hasked := h.ask (.startFix e.mFixCriteria)
      ⟨fun hin => hidle (h.navigating.mpr hin), h.carries⟩ nofun nofun
    dsimp only
    split
    · exact hasked.setInSession true fun _ => ⟨e.asked, _, rfl⟩
    · exact hasked

theorem Inv.stopHandler (h : e.Inv) : e.stopHandler.Inv := by
  unfold Engine.stopHandler
  split
  · next hin =>
    have hasked := h.ask .stopFix (Or.inl (h.navigating.mp hin)) nofun nofun
    exact hasked.setInSession false nofun
  · exact h

theorem Inv.handleEngineUp {err : LocApiAdapterErr} (h : e.Inv) : (e.handleEngineUp err).Inv := by
  unfold Engine.handleEngineUp
  split
  · exact (h.setInSession false nofun).startHandler
  · exact h

theorem Inv.of_data {d : Data} (h : e.Inv) (hnavigating : d.adapter.navigating = e.data.adapter.navigating)
    (hsingle : d.adapter.single = e.data.adapter.single) : { e with data := d }.Inv where
  each := h.each
  navigating := hnavigating ▸ h.navigating
  carries := h.carries
  single hs := h.single (hsingle ▸ hs)

end Engine

theorem tellLocation_session (p : Position) (d : Data) :
    (tellLocation p d).1.adapter.navigating = d.adapter.navigating ∧
      (tellLocation p d).1.adapter.single = d.adapter.single := by
  unfold tellLocation
  split_ifs <;> exact ⟨rfl, rfl⟩

variable {shl : Int → UInt32} {fixed1 : UInt32 → Text}

theorem reportPosition_single (fixed1 : UInt32 → Text) (p : Position) (d : Data) :
    (reportPosition fixed1 p d).adapter.single = d.adapter.single := by
  unfold reportPosition
  split
  · dsimp only
    split_ifs <;> exact (tellLocation_session p d).2
  · rfl

theorem reportPosition_navigating {p : Position} {d : Data}
    (h : ¬(d.muteSessionState ≠ .inSession ∧ (tellLocation p d).2 ∧ d.adapter.single)) :
    (reportPosition fixed1 p d).adapter.navigating = d.adapter.navigating := by
  unfold reportPosition
  split
  · next hmute =>
    have hkeeps : ¬((tellLocation p d).2 ∧ (tellLocation p d).1.adapter.single) := by
      rw [(tellLocation_session p d).2]
      exact fun hends => h ⟨hmute, hends⟩
    simp only [if_neg hkeeps]
    split_ifs <;> exact (tellLocation_session p d).1
  · rfl

theorem reportSv_adapter (r : GnssSvStatus) (dop : Option Dop) (d : Data) :
    (reportSv shl r dop d).adapter = d.adapter := by
  unfold reportSv
  dsimp only
  split_ifs <;> rfl

namespace Engine

theorem Inv.position {p : Position} (h : e.Inv) : (e.position fixed1 p).Inv := by
  have hsingle := reportPosition_single fixed1 p e.data
  unfold Engine.position
  dsimp only
  split
  · next hends =>
    -- the report has left the session, and the modem is still to be told
    split
    · have hasked := h.ask .stopFix (Or.inr (h.single hends.2.2)) nofun nofun
      exact (hasked.setInSession false nofun).of_data rfl hsingle
    · exact (h.setInSession false nofun).of_data rfl hsingle
  · next hends => exact h.of_data (reportPosition_navigating hends) hsingle

theorem Inv.proc (h : e.Inv) (m : SessionMsg) : (e.proc shl fixed1 m).Inv := by
  cases m with
  | positionMode capabilities mode =>
    refine h.positionMode ?_
    simp only [setPositionMode]
    split_ifs <;> nofun
  | startFix err => exact h.startHandler
  | stopFix =>
    have hcleared := h.of_data (d := { e.data with adapter := { e.data.adapter with gnssSvUsed := none } }) rfl rfl
    exact hcleared.stopHandler
  | position p => exact h.position
  | sv r dop => exact h.of_data (by rw [reportSv_adapter]) (by rw [reportSv_adapter])
  | status status => exact h.of_data rfl rfl
  | muteOneSession => exact h.of_data rfl rfl
  | engineUp err => exact h.handleEngineUp

theorem make_inv (d : Data) : (make d).Inv where
  each := .nil
  navigating := iff_of_false nofun Since.nil
  carries := ⟨fun _ hm => absurd hm Since.nil, fun _ hm => absurd hm Since.nil, fun _ => rfl⟩
  single := nofun

end Engine

/-- A fix is started outside a session only, and with a mode only if one was set since the last session ended; so the
start that follows a restart of the modem has none. -/
theorem calls_rightful (shl : Int → UInt32) (fixed1 : UInt32 → Text) (d : Data) (ms : List SessionMsg) :
    let e := ms.foldl (Engine.proc shl fixed1) (Engine.make d)
    Trace.Each Rightful e.asked ∧ (e.data.adapter.navigating = true ↔ InSession e.asked) := by
  have hinv : (ms.foldl (Engine.proc shl fixed1) (Engine.make d)).Inv := by
    induction ms using List.reverseRecOn with
    | nil => exact Engine.make_inv d
    | append_singleton ms m ih =>
      rw [List.foldl_concat]
      exact ih.proc m
  exact ⟨hinv.each, hinv.navigating⟩

example (shl : Int → UInt32) (fixed1 : UInt32 → Text) (d : Data) :
    ([.positionMode 2 1 0 1000 0 0, .startFix .success, .engineUp .success].foldl (Engine.proc shl fixed1)
      (Engine.make d)).mFixCriteria.mode = .invalid := rfl

end Wt88047.LocEng
