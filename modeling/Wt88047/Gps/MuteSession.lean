import Mathlib.Data.List.Induction
import Wt88047.Gps.LocEngReports

/-! A muted session: from the status that begins it to the one that ends it, nothing is passed to the framework,
unless a mute is asked for once more. -/

namespace Wt88047.LocEng

open Nmea

variable {shl : Int → UInt32} {fixed1 : UInt32 → Text}

def Msg.EndsSession (m : Msg) : Prop := m = .status .sessionEnd ∨ m = .status .engineOff

def Muted (d d' : Data) : Prop := d'.muteSessionState = .inSession ∧ d'.framework = d.framework

theorem MuteSession.next_of_not_end {status : GpsStatusValue} (hend : status ≠ .sessionEnd)
    (hoff : status ≠ .engineOff) : MuteSession.next status .inSession = .inSession := by
  cases status <;> first | rfl | contradiction

theorem reportStatus_muted {status : GpsStatusValue} {d : Data} (h : d.muteSessionState = .inSession)
    (hend : status ≠ .sessionEnd) (hoff : status ≠ .engineOff) : Muted d (reportStatus status d) := by
  have hnext : d.muteSessionState.next status = .inSession := by
    rw [h]
    exact MuteSession.next_of_not_end hend hoff
  refine ⟨hnext, ?_⟩
  simp [reportStatus, Data.framework, hnext]

theorem reportPosition_muted {p : Position} {d : Data} (h : d.muteSessionState = .inSession) :
    reportPosition fixed1 p d = d := if_neg fun hne => hne h

theorem reportSv_muted {r : GnssSvStatus} {dop : Option Dop} {d : Data} (h : d.muteSessionState = .inSession) :
    reportSv shl r dop d = d := if_neg fun hne => hne h

theorem proc_muted {m : Msg} {d : Data} (h : d.muteSessionState = .inSession) (hend : ¬m.EndsSession)
    (hmute : m ≠ .muteOneSession) : Muted d (proc shl fixed1 m d) := by
  cases m with
  | muteOneSession => exact absurd rfl hmute
  | status status =>
    exact reportStatus_muted h (fun hs => hend (Or.inl (congrArg _ hs))) fun hs => hend (Or.inr (congrArg _ hs))
  | position p => exact ⟨(congrArg _ (reportPosition_muted h)).trans h, congrArg _ (reportPosition_muted h)⟩
  | sv r dop => exact ⟨(congrArg _ (reportSv_muted h)).trans h, congrArg _ (reportSv_muted h)⟩
  | adapter adapter => exact ⟨h, rfl⟩

@[simp] theorem run_append (ms ms' : List Msg) (d : Data) :
    run shl fixed1 (ms ++ ms') d = run shl fixed1 ms' (run shl fixed1 ms d) := List.foldl_append

def NoSecondMute (shl : Int → UInt32) (fixed1 : UInt32 → Text) (ms : List Msg) (d : Data) : Prop :=
  ∀ pre post, ms = pre ++ .muteOneSession :: post → (run shl fixed1 pre d).muteSessionState ≠ .inSession

/-- A muted session stays muted, whatever comes before its end. -/
def SessionsPrivate (shl : Int → UInt32) (fixed1 : UInt32 → Text) (ms : List Msg) (d : Data) : Prop :=
  ∀ pre mid post, ms = pre ++ mid ++ post → (run shl fixed1 pre d).muteSessionState = .inSession →
    (∀ m ∈ mid, ¬m.EndsSession) → Muted (run shl fixed1 pre d) (run shl fixed1 (pre ++ mid) d)

theorem NoSecondMute.muted {pre mid post : List Msg} {d : Data}
    (h : NoSecondMute shl fixed1 (pre ++ mid ++ post) d) (hin : (run shl fixed1 pre d).muteSessionState = .inSession)
    (hend : ∀ m ∈ mid, ¬m.EndsSession) : Muted (run shl fixed1 pre d) (run shl fixed1 (pre ++ mid) d) := by
  induction mid using List.reverseRecOn generalizing post with
  | nil =>
    rw [List.append_nil]
    exact ⟨hin, rfl⟩
  | append_singleton mid m ih =>
    have hsplit : pre ++ (mid ++ [m]) ++ post = pre ++ mid ++ m :: post := by simp
    rw [hsplit] at h
    obtain ⟨hstate, hframework⟩ := ih h fun m' hm' => hend m' (List.mem_append_left _ hm')
    have hlast : ¬m.EndsSession := hend m (List.mem_append_right _ (List.mem_singleton_self m))
    have hstep := @proc_muted shl fixed1 m _ hstate hlast fun hm => h _ _ (by rw [hm]) hstate
    rw [← List.append_assoc, run_append (pre ++ mid)]
    exact ⟨hstep.1, hstep.2.trans hframework⟩

/-- The sessions of a run are private exactly if none is muted again. -/
theorem sessions_private_iff (shl : Int → UInt32) (fixed1 : UInt32 → Text) (ms : List Msg) (d : Data) :
    SessionsPrivate shl fixed1 ms d ↔ NoSecondMute shl fixed1 ms d := by
  constructor
  · rintro h pre post rfl hin
    have hmuted := (h pre [.muteOneSession] post (by simp) hin (by simp [Msg.EndsSession])).1
    rw [run_append] at hmuted
    cases hmuted
  · rintro h pre mid post rfl hin hend
    exact h.muted hin hend

def tracking : Data where
  nmeaCb := false
  adapter := { navigating := true, single := false, gnssSvUsed := none }
  muteSessionState := .none
  engineStatus := .engineOn
  fixSessionStatus := .none
  intermediateFix := 0
  generateNmea := false
  locationCb := true
  gnssSvStatusCb := true
  statusCb := true
  calls := []

def satelliteFix : Position where
  location :=
    { utc := none, timestamp := 0, latLong := none, speed := none, bearing := none, altitude := none,
      altitudeMeanSeaLevel := none, magneticDeviation := none, dop := none, standalone := true }
  status := .success
  techMask := 1
  inaccurate := false
  gnssSvUsedIds := none

/-- The second mute lets the fix through. -/
theorem second_mute_unmutes : ¬∀ shl fixed1 ms d, SessionsPrivate shl fixed1 ms d := by
  intro h
  have hmuted := h (fun _ => 0) (fun _ => [])
    [.muteOneSession, .status .sessionBegin, .muteOneSession, .position satelliteFix] tracking
    [.muteOneSession, .status .sessionBegin] [.muteOneSession, .position satelliteFix] [] rfl rfl
    (by simp [Msg.EndsSession])
  have hcalls := congrArg (List.length ∘ Prod.fst) hmuted.2
  exact absurd hcalls (by decide)

end Wt88047.LocEng
