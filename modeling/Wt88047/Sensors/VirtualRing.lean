import Wt88047.Sensors.SensorDriver

/-! The ring of a virtual sensor, with its cursors. It holds the list that `VirtualSensor` keeps. -/

namespace Wt88047.Sensors

/-- `VirtualSensor` with its array; `algo` says whether it has an algorithm. -/
structure VirtualRing where
  handle : Int
  algo : Bool
  mEnabled : Bool
  mHasPendingMetadata : Nat
  mLastEvent : HalEvent
  reportLastEvent : Bool
  mFirstEventReceived : Bool
  mBuffer : Nat → HalEvent
  mRead : Nat
  mWrite : Nat
  mFreeSpace : Nat

namespace VirtualRing

def new (handle : Int) (algo : Bool) (lastEvent : HalEvent) (memory : Nat → HalEvent) : VirtualRing where
  handle
  algo
  mEnabled := false
  mHasPendingMetadata := 0
  mLastEvent := lastEvent
  reportLastEvent := false
  mFirstEventReceived := false
  mBuffer := memory
  mRead := 0
  mWrite := 0
  mFreeSpace := maxEvents

def stored (v : VirtualRing) : Nat := maxEvents - v.mFreeSpace

def enable (en : Int) (v : VirtualRing) : Int × VirtualRing :=
  let flag : Bool := en ≠ 0
  if v.mEnabled ≠ flag then (0, { v with mEnabled := flag, mFirstEventReceived := false })
  else if flag then (0, { v with reportLastEvent := v.mFirstEventReceived })
  else (0, v)

def advance (v : VirtualRing) : VirtualRing :=
  { v with
    mRead := if maxEvents ≤ v.mRead + 1 then 0 else v.mRead + 1
    mFreeSpace := v.mFreeSpace + 1
    mFirstEventReceived := true }

/-- The loop of `readEvents`; it has no result when it reads outside the array. -/
def copy : Nat → VirtualRing → Option (List HalEvent × VirtualRing)
  | 0, v => some ([], v)
  | count + 1, v =>
    if v.stored = 0 then some ([], v)
    else if v.mRead < maxEvents then
      (copy count v.advance).map fun r => (v.mBuffer v.mRead :: r.1, r.2)
    else none

theorem copy_zero (v : VirtualRing) : copy 0 v = some ([], v) := rfl

theorem copy_succ (count : Nat) (v : VirtualRing) : copy (count + 1) v =
    if v.stored = 0 then some ([], v)
    else if v.mRead < maxEvents then
      (copy count v.advance).map fun r => (v.mBuffer v.mRead :: r.1, r.2)
    else none := rfl

/-- `readEvents`, with what the cells from `data` on held before. -/
def readEvents (count : Int) (memory : Nat → HalEvent) (v : VirtualRing) :
    Option (Except Int (List HalEvent) × VirtualRing) :=
  if count < 1 ∨ v.mEnabled = false then some (.error einval, v)
  else
    let room := count.toNat
    let last := if v.reportLastEvent then [v.mLastEvent] else []
    let flushed :=
      if v.mHasPendingMetadata ≠ 0 ∧ last.length < room then [HalEvent.flushComplete v.handle 0] else []
    let v := { v with
      reportLastEvent := false
      mHasPendingMetadata := v.mHasPendingMetadata - flushed.length }
    (copy (room - last.length - flushed.length) v).map fun (buffered, v) =>
      let data := last ++ flushed ++ buffered
      (.ok data, { v with
        mLastEvent := if data = [] then v.mLastEvent else memory (2 * data.length - 1) })

/-- `injectEvents` of one event; `converted` is what the algorithm makes of it. It has no result
when it writes outside the array. -/
def injectEvent (e : HalEvent) (converted : Option (List Int)) (v : VirtualRing) : Option VirtualRing :=
  match e, converted with
  | .reading _ timestamp _, some data =>
    if v.mFreeSpace = 0 then some v
    else if v.mWrite < maxEvents then
      some { v with
        mBuffer := Function.update v.mBuffer v.mWrite (.reading v.handle timestamp data)
        mWrite := if maxEvents ≤ v.mWrite + 1 then 0 else v.mWrite + 1
        mFreeSpace := v.mFreeSpace - 1 }
    else none
  | _, _ => some v

def contents (v : VirtualRing) : List HalEvent :=
  CircularBuffer.window v.mBuffer maxEvents v.mRead v.stored

def toList (v : VirtualRing) : VirtualSensor where
  handle := v.handle
  mEnabled := v.mEnabled
  mHasPendingMetadata := v.mHasPendingMetadata
  mLastEvent := v.mLastEvent
  reportLastEvent := v.reportLastEvent
  mFirstEventReceived := v.mFirstEventReceived
  mBuffer := v.contents

structure Sound (v : VirtualRing) : Prop where
  read : v.mRead < maxEvents
  write : v.mWrite = (v.mRead + v.stored) % maxEvents
  free : v.mFreeSpace ≤ maxEvents

variable {v v' : VirtualRing} {count : Int} {memory : Nat → HalEvent}

theorem maxEvents_pos : 0 < maxEvents := Nat.succ_pos 249

theorem new_sound (handle : Int) (algo : Bool) (lastEvent : HalEvent) (memory : Nat → HalEvent) :
    (new handle algo lastEvent memory).Sound ∧ (new handle algo lastEvent memory).contents = [] :=
  ⟨⟨maxEvents_pos, rfl, le_refl _⟩, rfl⟩

theorem Sound.write_lt (h : v.Sound) : v.mWrite < maxEvents := h.write ▸ Nat.mod_lt _ maxEvents_pos

theorem length_contents : v.contents.length = v.stored := CircularBuffer.length_window

theorem Sound.stored_add_free (h : v.Sound) : v.stored + v.mFreeSpace = maxEvents :=
  Nat.sub_add_cancel h.free

theorem drop_length_take (es : List HalEvent) (n : Nat) : es.drop (es.take n).length = es.drop n := by
  rw [List.length_take]
  rcases Nat.le_total n es.length with hle | hge
  · rw [Nat.min_eq_left hle]
  · rw [Nat.min_eq_right hge, List.drop_length, List.drop_eq_nil_of_le hge]

theorem Sound.advance (h : v.Sound) (hs : v.stored ≠ 0) :
    v.advance.Sound ∧ v.contents = v.mBuffer v.mRead :: v.advance.contents := by
  have hsum := h.stored_add_free
  have hread := h.read
  have hmove : v.advance.mRead = (v.mRead + 1) % maxEvents := by
    simp only [VirtualRing.advance]
    split
    · rw [show v.mRead + 1 = maxEvents by omega, Nat.mod_self]
    · rw [Nat.mod_eq_of_lt (by omega)]
  have hstored : v.stored = v.advance.stored + 1 := by
    simp only [stored, VirtualRing.advance] at hs ⊢
    omega
  refine ⟨⟨?_, ?_, ?_⟩, ?_⟩
  · rw [hmove]
    exact Nat.mod_lt _ maxEvents_pos
  · show v.mWrite = _
    rw [h.write, hmove, hstored, Nat.mod_add_mod]
    congr 1
    omega
  · show v.mFreeSpace + 1 ≤ maxEvents
    omega
  · rw [contents, hstored, CircularBuffer.window_succ, Nat.mod_eq_of_lt hread, contents, hmove]
    rfl

theorem Sound.copy (h : v.Sound) (n : Nat) : ∃ v', v.copy n = some (v.contents.take n, v') ∧
    v'.Sound ∧ v'.contents = v.contents.drop n ∧ v'.algo = v.algo ∧
    v'.toList = { v.toList with
      mBuffer := v.contents.drop n
      mFirstEventReceived := v.mFirstEventReceived || v.contents.take n ≠ [] } := by
  induction n generalizing v with
  | zero =>
    refine ⟨v, by rw [copy_zero, List.take_zero], h, rfl, rfl, ?_⟩
    simp [toList]
  | succ n ih =>
    by_cases hs : v.stored = 0
    · have hnil : v.contents = [] := List.eq_nil_of_length_eq_zero (length_contents.trans hs)
      refine ⟨v, ?_, h, ?_, rfl, ?_⟩
      · rw [copy_succ, if_pos hs, hnil, List.take_nil]
      · rw [hnil, List.drop_nil]
      · simp [toList, hnil]
    · obtain ⟨hsound, hcontents⟩ := h.advance hs
      obtain ⟨v', hcopy, hv', hdrop, halgo, hlist⟩ := ih hsound
      rw [copy_succ, if_neg hs, if_pos h.read, hcopy, hcontents]
      refine ⟨v', rfl, hv', hdrop, halgo, hlist.trans ?_⟩
      simp only [toList, VirtualRing.advance, List.take_succ_cons, List.drop_succ_cons]
      simp

theorem Sound.readEvents (h : v.Sound) (count : Int) (memory : Nat → HalEvent) : ∃ v',
    v.readEvents count memory = some ((v.toList.readEvents count memory).1, v') ∧ v'.Sound ∧
    v'.algo = v.algo ∧ v'.toList = (v.toList.readEvents count memory).2 := by
  rw [VirtualRing.readEvents, VirtualSensor.readEvents]
  by_cases hc : count < 1 ∨ v.mEnabled = false
  · rw [if_pos hc, if_pos (show count < 1 ∨ v.toList.mEnabled = false from hc)]
    exact ⟨v, rfl, h, rfl, rfl⟩
  · rw [if_neg hc, if_neg (show ¬(count < 1 ∨ v.toList.mEnabled = false) from hc)]
    dsimp only
    rw [show v.toList.mLastEvent = v.mLastEvent from rfl,
      show v.toList.reportLastEvent = v.reportLastEvent from rfl,
      show v.toList.mHasPendingMetadata = v.mHasPendingMetadata from rfl,
      show v.toList.handle = v.handle from rfl, show v.toList.mBuffer = v.contents from rfl]
    generalize (if v.reportLastEvent = true then [v.mLastEvent] else []) = last
    generalize (if v.mHasPendingMetadata ≠ 0 ∧ last.length < count.toNat then
      [HalEvent.flushComplete v.handle 0] else []) = flushed
    have hsound : ({ v with
        reportLastEvent := false
        mHasPendingMetadata := v.mHasPendingMetadata - flushed.length } : VirtualRing).Sound :=
      ⟨h.read, h.write, h.free⟩
    obtain ⟨v', hcopy, hv', hdrop, halgo, hlist⟩ :=
      hsound.copy (count.toNat - last.length - flushed.length)
    rw [hcopy]
    refine ⟨_, rfl, ⟨hv'.read, hv'.write, hv'.free⟩, halgo, ?_⟩
    have hfields := hlist
    simp only [toList, VirtualSensor.mk.injEq] at hfields ⊢
    obtain ⟨hhandle, henabled, hmeta, hlast, hreport, hfirst, hbuffer⟩ := hfields
    refine ⟨hhandle, henabled, hmeta, ?_, hreport, hfirst, ?_⟩
    · exact if_congr Iff.rfl hlast rfl
    · show v'.contents = _
      rw [hdrop]
      exact (drop_length_take v.contents _).symm

theorem Sound.injectEvent (h : v.Sound) (e : HalEvent) (converted : Option (List Int)) : ∃ v',
    v.injectEvent e converted = some v' ∧ v'.Sound ∧ v'.algo = v.algo ∧
    v'.toList = v.toList.injectEvent e converted := by
  cases e with
  | flushComplete => exact ⟨v, rfl, h, rfl, rfl⟩
  | reading sensor timestamp data =>
    cases converted with
    | none => exact ⟨v, rfl, h, rfl, rfl⟩
    | some data =>
      have hsum := h.stored_add_free
      simp only [VirtualRing.injectEvent, VirtualSensor.injectEvent]
      by_cases hfree : v.mFreeSpace = 0
      · have hfull : ¬v.toList.mBuffer.length < maxEvents := by
          rw [show v.toList.mBuffer.length = v.stored from length_contents]
          omega
        rw [if_pos hfree, if_neg hfull]
        exact ⟨v, rfl, h, rfl, rfl⟩
      · have hroom : v.toList.mBuffer.length < maxEvents := by
          rw [show v.toList.mBuffer.length = v.stored from length_contents]
          omega
        rw [if_neg hfree, if_pos hroom, if_pos h.write_lt]
        have hstored : maxEvents - (v.mFreeSpace - 1) = v.stored + 1 := by
          simp only [stored] at hsum ⊢
          omega
        refine ⟨_, rfl, ⟨h.read, ?_, by have := h.free; show v.mFreeSpace - 1 ≤ _; omega⟩, rfl, ?_⟩
        · have hlt := h.write_lt
          show (if maxEvents ≤ v.mWrite + 1 then 0 else v.mWrite + 1) =
            (v.mRead + (maxEvents - (v.mFreeSpace - 1))) % maxEvents
          rw [hstored, ← Nat.add_assoc, Nat.add_mod, ← h.write]
          split
          · rw [show v.mWrite = maxEvents - 1 by omega]
            rfl
          · rw [Nat.mod_eq_of_lt (show 1 < maxEvents by decide), Nat.mod_eq_of_lt (by omega)]
        · simp only [toList, VirtualSensor.mk.injEq, true_and]
          show CircularBuffer.window _ maxEvents v.mRead (maxEvents - (v.mFreeSpace - 1)) = _
          rw [hstored, CircularBuffer.window_add, h.write,
            CircularBuffer.window_update (le_refl _) (by omega)]
          congr 1
          simp [CircularBuffer.window]

end VirtualRing

end Wt88047.Sensors
