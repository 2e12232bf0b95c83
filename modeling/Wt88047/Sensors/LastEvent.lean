import Wt88047.Sensors.VirtualRing

/-! Runs of a virtual sensor: which events it reports, and which one it reports again. -/

namespace Wt88047.Sensors

namespace VirtualSensor

def notStored (v : VirtualSensor) : Nat :=
  (if v.reportLastEvent then 1 else 0) + if v.mHasPendingMetadata ≠ 0 then 1 else 0

def pending (v : VirtualSensor) : Nat := v.notStored + v.mBuffer.length

structure ReadOf (v : VirtualSensor) (memory : Nat → HalEvent) (n k : Nat) (data : List HalEvent)
    (v' : VirtualSensor) : Prop where
  length : data.length = n
  head : v.reportLastEvent = true → ∃ rest, data = v.mLastEvent :: rest
  stored : data.drop v.notStored = v.mBuffer.take k
  enabled : v'.mEnabled = v.mEnabled
  report : v'.reportLastEvent = false
  buffer : v'.mBuffer = v.mBuffer.drop k
  first : v'.mFirstEventReceived = (v.mFirstEventReceived || decide (0 < k))
  last : v'.mLastEvent = if n = 0 then v.mLastEvent else memory (2 * n - 1)

variable {v : VirtualSensor} {count : Int} {memory : Nat → HalEvent}

theorem readEvents_spec (hcount : 1 ≤ count) (hon : v.mEnabled = true) : ∃ data,
    (v.readEvents count memory).1 = .ok data ∧
    v.ReadOf memory (min count.toNat v.pending) (min count.toNat v.pending - v.notStored) data
      (v.readEvents count memory).2 := by
  obtain ⟨room, hroom⟩ : ∃ room, count.toNat = room + 1 := ⟨count.toNat - 1, by omega⟩
  rw [readEvents, if_neg (by simp [hon]; omega)]
  refine ⟨_, rfl, ?_⟩
  dsimp only
  generalize hlast : (if v.reportLastEvent = true then [v.mLastEvent] else []) = last
  generalize hflushed : (if v.mHasPendingMetadata ≠ 0 ∧ last.length < count.toNat then
    [HalEvent.flushComplete v.handle 0] else []) = flushed
  -- as many stored events as there is room for after the others
  have hshape : (last ++ flushed).length = min count.toNat v.notStored ∧
      count.toNat - last.length - flushed.length = count.toNat - v.notStored := by
    rw [List.length_append, ← hflushed, ← hlast, notStored, hroom]
    cases v.reportLastEvent with
    | true =>
      by_cases hm : v.mHasPendingMetadata = 0
      · simp [hm]
      · by_cases h0 : 0 < room
        · simp [hm, h0]
          omega
        · simp [hm, h0]
          omega
    | false => by_cases hm : v.mHasPendingMetadata = 0 <;> simp [hm]
  obtain ⟨hlen, hrest⟩ := hshape
  rw [hrest]
  generalize hdata : last ++ flushed ++ v.mBuffer.take (count.toNat - v.notStored) = data
  have hlength : data.length = min count.toNat v.pending := by
    rw [← hdata, List.length_append, hlen, List.length_take, pending]
    omega
  have htake : v.mBuffer.take (count.toNat - v.notStored) =
      v.mBuffer.take (min count.toNat v.pending - v.notStored) := by
    rw [List.take_eq_take_iff, pending]
    omega
  refine ⟨hlength, fun hr => ?_, ?_, rfl, rfl, ?_, ?_, ?_⟩
  · rw [if_pos hr] at hlast
    exact ⟨_, by rw [← hdata, ← hlast]; rfl⟩
  · rw [← htake, ← hdata]
    rcases Nat.le_total v.notStored count.toNat with hle | hge
    · rw [List.drop_left' (by omega)]
    · rw [Nat.sub_eq_zero_of_le hge, List.take_zero, List.append_nil,
        List.drop_eq_nil_of_le (by omega)]
  · show v.mBuffer.drop (v.mBuffer.take _).length = _
    rw [htake, VirtualRing.drop_length_take]
  · show (v.mFirstEventReceived || decide (_ ≠ [])) = _
    congr 1
    rw [decide_eq_decide, htake, ← List.length_pos_iff, List.length_take, pending]
    omega
  · show (if data = [] then _ else memory (2 * data.length - 1)) = _
    rw [hlength]
    exact if_congr (by rw [← hlength, List.length_eq_zero_iff]) rfl rfl

end VirtualSensor

/-- A virtual sensor with the events that were accepted and reported so far. `outside` says that a
read has looked behind the caller's array. -/
structure VirtualRun where
  v : VirtualRing
  accepted : List HalEvent := []
  reported : List HalEvent := []
  outside : Bool := false

namespace VirtualRun

inductive Call
  | enable (en : Int)
  | flush
  | injectEvents (events : List (HalEvent × Option (List Int)))
  | readEvents (count : Int) (memory : Nat → HalEvent)

def accepts (v : VirtualSensor) : HalEvent → Option (List Int) → List HalEvent
  | .reading _ timestamp _, some data =>
    if v.mBuffer.length < maxEvents then [.reading v.handle timestamp data] else []
  | _, _ => []

def inject (s : VirtualRun) (e : HalEvent × Option (List Int)) : Option VirtualRun :=
  (s.v.injectEvent e.1 e.2).map fun v =>
    { s with v, accepted := s.accepted ++ accepts s.v.toList e.1 e.2 }

def finish (s : VirtualRun) (count : Int) : Except Int (List HalEvent) × VirtualRing → VirtualRun
  | (.error _, v) => { s with v }
  | (.ok data, v) => { s with
      v
      reported := s.reported ++ data.drop s.v.toList.notStored
      outside := s.outside || decide (data ≠ [] ∧ count.toNat ≤ 2 * data.length - 1) }

def step (s : VirtualRun) : Call → Option VirtualRun
  | .enable en => some { s with v := (s.v.enable en).2 }
  | .flush => some { s with v := { s.v with
      mHasPendingMetadata := s.v.mHasPendingMetadata + if s.v.mEnabled then 1 else 0 } }
  | .injectEvents events => if s.v.algo then Runs.play inject s events else some s
  | .readEvents count memory => (s.v.readEvents count memory).map (s.finish count)

def start (handle : Int) (algo : Bool) (lastEvent : HalEvent) (memory : Nat → HalEvent) : VirtualRun :=
  { v := .new handle algo lastEvent memory }

def ReportsAgain (s : VirtualRun) (v : VirtualRing) : Prop :=
  ∀ count memory, 1 ≤ count → ∃ e rest v', v.readEvents count memory = some (.ok (e :: rest), v') ∧
    s.reported.getLast? = some e

/-- The accepted events are reported once each and in order, the space adds up, no read has gone
outside the caller's array, and the event that a sensor enabled once more reports is the last one
that was reported. -/
structure Faithful (s : VirtualRun) : Prop where
  order : s.accepted = s.reported ++ s.v.contents
  space : s.v.contents.length + s.v.mFreeSpace = maxEvents
  inside : s.outside = false
  again : s.v.mEnabled = true → s.v.mFirstEventReceived = true →
    ∀ en ≠ 0, s.ReportsAgain (s.v.enable en).2
  pending : s.v.mEnabled = true → s.v.reportLastEvent = true → s.ReportsAgain s.v

/-- A read that finds something must not find more than half of what it asks for, and the cell
where it looks for the last event must hold the last data event already. -/
def Lucky (s : VirtualRun) : Call → Prop
  | .readEvents count memory =>
    let n := min count.toNat s.v.toList.pending
    let k := n - s.v.toList.notStored
    s.v.mEnabled = true → 0 < n → 2 * n ≤ count.toNat ∧
      (s.v.mFirstEventReceived = true ∨ 0 < k →
        (s.accepted.take (s.reported.length + k)).getLast? = some (memory (2 * n - 1)))
  | _ => True

structure Stored (s : VirtualRun) : Prop where
  sound : s.v.Sound
  order : s.accepted = s.reported ++ s.v.contents

structure Remembers (s : VirtualRun) : Prop where
  stored : s.Stored
  inside : s.outside = false
  last : s.v.mFirstEventReceived = true ∨ s.v.reportLastEvent = true →
    s.reported.getLast? = some s.v.mLastEvent

variable {s t : VirtualRun} {count : Int} {memory : Nat → HalEvent}

theorem step_readEvents (s : VirtualRun) (count : Int) (memory : Nat → HalEvent) :
    s.step (.readEvents count memory) = (s.v.readEvents count memory).map (s.finish count) := rfl

theorem finish_ok (s : VirtualRun) (count : Int) (data : List HalEvent) (v : VirtualRing) :
    s.finish count (.ok data, v) = { s with
      v
      reported := s.reported ++ data.drop s.v.toList.notStored
      outside := s.outside || decide (data ≠ [] ∧ count.toNat ≤ 2 * data.length - 1) } := rfl

structure SameReads (s t : VirtualRun) : Prop where
  reported : t.reported = s.reported
  outside : t.outside = s.outside
  enabled : t.v.mEnabled = s.v.mEnabled
  first : t.v.mFirstEventReceived = s.v.mFirstEventReceived
  report : t.v.reportLastEvent = s.v.reportLastEvent
  last : t.v.mLastEvent = s.v.mLastEvent

theorem SameReads.trans {u : VirtualRun} (h : s.SameReads t) (h' : t.SameReads u) : s.SameReads u :=
  ⟨h'.reported.trans h.reported, h'.outside.trans h.outside, h'.enabled.trans h.enabled,
    h'.first.trans h.first, h'.report.trans h.report, h'.last.trans h.last⟩

theorem Stored.inject (h : s.Stored) (e : HalEvent × Option (List Int)) : ∃ t, s.inject e = some t ∧
    t.Stored ∧ s.SameReads t := by
  obtain ⟨v, hv, hsound, -, hlist⟩ := h.sound.injectEvent e.1 e.2
  have hinject : s.v.toList.injectEvent e.1 e.2 =
      { s.v.toList with mBuffer := s.v.contents ++ accepts s.v.toList e.1 e.2 } := by
    cases e.1 with
    | flushComplete => simp [VirtualSensor.injectEvent, accepts, VirtualRing.toList]
    | reading sensor timestamp data =>
      cases e.2 with
      | none => simp [VirtualSensor.injectEvent, accepts, VirtualRing.toList]
      | some data =>
        simp only [VirtualSensor.injectEvent, accepts]
        split <;> simp [VirtualRing.toList]
  rw [hinject] at hlist
  simp only [VirtualRing.toList, VirtualSensor.mk.injEq] at hlist
  obtain ⟨-, henabled, -, hlast, hreport, hfirst, hbuffer⟩ := hlist
  refine ⟨_, Option.map_eq_some_iff.mpr ⟨v, hv, rfl⟩, ⟨hsound, ?_⟩,
    ⟨rfl, rfl, henabled, hfirst, hreport, hlast⟩⟩
  show s.accepted ++ _ = s.reported ++ v.contents
  rw [hbuffer, h.order, List.append_assoc]
  rfl

theorem Stored.injectAll (h : s.Stored) (events : List (HalEvent × Option (List Int))) : ∃ t,
    Runs.play VirtualRun.inject s events = some t ∧ t.Stored ∧ s.SameReads t := by
  induction events generalizing s with
  | nil => exact ⟨s, rfl, h, ⟨rfl, rfl, rfl, rfl, rfl, rfl⟩⟩
  | cons e events ih =>
    obtain ⟨u, hu, hstored, hsame⟩ := h.inject e
    obtain ⟨t, ht, hend, hrest⟩ := ih hstored
    exact ⟨t, Runs.play_cons.mpr ⟨u, hu, ht⟩, hend, hsame.trans hrest⟩

theorem Stored.read (memory : Nat → HalEvent) (h : s.Stored) (hcount : 1 ≤ count) (hon : s.v.mEnabled = true) : ∃ data v',
    s.v.readEvents count memory = some (.ok data, v') ∧ v'.Sound ∧
    s.v.toList.ReadOf memory (min count.toNat s.v.toList.pending)
      (min count.toNat s.v.toList.pending - s.v.toList.notStored) data v'.toList := by
  obtain ⟨v', hv, hsound, -, hlist⟩ := h.sound.readEvents count memory
  obtain ⟨data, hdata, hread⟩ :=
    VirtualSensor.readEvents_spec (v := s.v.toList) hcount hon
  rw [hdata] at hv
  rw [← hlist] at hread
  exact ⟨data, v', hv, hsound, hread⟩

theorem read_refused (hno : ¬(1 ≤ count ∧ s.v.mEnabled = true)) :
    s.step (.readEvents count memory) = some s := by
  have hcond : count < 1 ∨ s.v.mEnabled = false := by
    by_cases hc : count < 1
    · exact Or.inl hc
    · exact Or.inr (Bool.eq_false_iff.mpr fun hon => hno ⟨by omega, hon⟩)
  rw [step_readEvents, VirtualRing.readEvents, if_pos hcond]
  rfl

theorem Stored.step_read (h : s.Stored) (hcount : 1 ≤ count) (hon : s.v.mEnabled = true) {n k : Nat}
    (hn : n = min count.toNat s.v.toList.pending) (hk : k = n - s.v.toList.notStored) :
    ∃ t, s.step (.readEvents count memory) = some t ∧ t.Stored ∧
      t.reported = s.accepted.take (s.reported.length + k) ∧
      t.outside = (s.outside || decide (0 < n ∧ count.toNat < 2 * n)) ∧ t.v.mEnabled = true ∧
      t.v.reportLastEvent = false ∧
      t.v.mFirstEventReceived = (s.v.mFirstEventReceived || decide (0 < k)) ∧
      t.v.mLastEvent = if n = 0 then s.v.mLastEvent else memory (2 * n - 1) := by
  obtain ⟨data, v', hv, hsound, hread⟩ := h.read memory hcount hon
  rw [← hn, ← hk] at hread
  have hreported : s.reported ++ data.drop s.v.toList.notStored =
      s.accepted.take (s.reported.length + k) := by
    rw [hread.stored, h.order, List.take_length_add_append]
    rfl
  refine ⟨_, by rw [step_readEvents, hv]; rfl, ?_, ?_, ?_, hread.enabled.trans hon, hread.report,
    hread.first, hread.last⟩
  · rw [finish_ok]
    refine ⟨hsound, ?_⟩
    show s.accepted = s.reported ++ data.drop s.v.toList.notStored ++ v'.contents
    rw [hread.stored, show v'.contents = s.v.contents.drop k from hread.buffer, List.append_assoc,
      show s.v.toList.mBuffer = s.v.contents from rfl, List.take_append_drop, h.order]
  · exact hreported
  · show (s.outside || decide (data ≠ [] ∧ count.toNat ≤ 2 * data.length - 1)) = _
    congr 1
    rw [decide_eq_decide, ← List.length_pos_iff, hread.length]
    omega

theorem Stored.enable (h : s.Stored) (en : Int) : ({ s with v := (s.v.enable en).2 } : VirtualRun).Stored := by
  have hsame : (s.v.enable en).2.Sound ∧ (s.v.enable en).2.contents = s.v.contents := by
    rw [VirtualRing.enable]
    split_ifs
    · exact ⟨⟨h.sound.read, h.sound.write, h.sound.free⟩, rfl⟩
    · exact ⟨⟨h.sound.read, h.sound.write, h.sound.free⟩, rfl⟩
    · exact ⟨h.sound, rfl⟩
  exact ⟨hsame.1, by rw [hsame.2]; exact h.order⟩

theorem Stored.step (h : s.Stored) (call : Call) : ∃ t, s.step call = some t ∧ t.Stored := by
  cases call with
  | enable en => exact ⟨_, rfl, h.enable en⟩
  | flush => exact ⟨_, rfl, ⟨h.sound.read, h.sound.write, h.sound.free⟩, h.order⟩
  | injectEvents events =>
    rw [VirtualRun.step]
    split
    · obtain ⟨t, ht, hs, -⟩ := h.injectAll events
      exact ⟨t, ht, hs⟩
    · exact ⟨s, rfl, h⟩
  | readEvents count memory =>
    by_cases hgo : 1 ≤ count ∧ s.v.mEnabled = true
    · obtain ⟨t, ht, hs, -⟩ := h.step_read hgo.1 hgo.2 rfl rfl
      exact ⟨t, ht, hs⟩
    · exact ⟨s, read_refused hgo, h⟩

theorem Remembers.step (h : s.Remembers) {call : Call} (hlucky : s.Lucky call)
    (ht : s.step call = some t) : t.Remembers := by
  cases call with
  | enable en =>
    obtain rfl := Option.some.inj ht
    refine ⟨h.stored.enable en, h.inside, ?_⟩
    have hlast := h.last
    simp only [VirtualRing.enable]
    split_ifs with hne hen
    · exact fun hor => hlast (Or.inr (by simpa using hor))
    · exact fun hor => hlast (Or.inl (by simpa using hor))
    · exact hlast
  | flush =>
    obtain rfl := Option.some.inj ht
    exact ⟨⟨⟨h.stored.sound.read, h.stored.sound.write, h.stored.sound.free⟩, h.stored.order⟩,
      h.inside, h.last⟩
  | injectEvents events =>
    rw [VirtualRun.step] at ht
    split at ht
    · obtain ⟨u, hu, hs, hsame⟩ := h.stored.injectAll events
      obtain rfl := Option.some.inj (ht.symm.trans hu)
      refine ⟨hs, hsame.outside.trans h.inside, ?_⟩
      rw [hsame.reported, hsame.first, hsame.report, hsame.last]
      exact h.last
    · obtain rfl := Option.some.inj ht
      exact h
  | readEvents count memory =>
    by_cases hgo : 1 ≤ count ∧ s.v.mEnabled = true
    · obtain ⟨u, hu, hs, hrep, hout, hon, hagain, hfirst, hlast⟩ :=
        h.stored.step_read hgo.1 hgo.2 rfl rfl
      obtain rfl := Option.some.inj (ht.symm.trans hu)
      have hluck := hlucky hgo.2
      rcases Nat.eq_zero_or_pos (min count.toNat s.v.toList.pending) with hzero | hpos
      · -- nothing was there to be read
        rw [hzero] at hrep hout hfirst hlast
        simp only [Nat.zero_sub, Nat.add_zero, Nat.lt_irrefl, false_and, decide_false, Bool.or_false,
          if_true] at hrep hout hfirst hlast
        refine ⟨hs, hout.trans h.inside, fun hor => ?_⟩
        rw [hagain, hfirst] at hor
        rw [hrep, hlast, h.stored.order, List.take_left]
        exact h.last (hor.imp_right fun he => nomatch he)
      · obtain ⟨hroom, hcell⟩ := hluck hpos
        refine ⟨hs, ?_, fun hor => ?_⟩
        · rw [hout, h.inside, decide_eq_false (by omega)]
          rfl
        · rw [hagain, hfirst] at hor
          rw [hrep, hlast, if_neg hpos.ne']
          apply hcell
          rcases hor with hor | hor
          · exact (Bool.or_eq_true _ _ ▸ hor).imp_right of_decide_eq_true
          · cases hor
    · rw [read_refused hgo] at ht
      obtain rfl := Option.some.inj ht
      exact h

theorem Stored.readEvents_first (h : s.Stored) (hon : s.v.mEnabled = true)
    (hreport : s.v.reportLastEvent = true) (hcount : 1 ≤ count) : ∃ rest v',
    s.v.readEvents count memory = some (.ok (s.v.mLastEvent :: rest), v') := by
  obtain ⟨data, v', hv, -, hread⟩ := h.read memory hcount hon
  obtain ⟨rest, hrest⟩ := hread.head hreport
  exact ⟨rest, v', by rw [hv, hrest]; rfl⟩

theorem enable_again (hon : s.v.mEnabled = true) {en : Int} (hen : en ≠ 0) :
    (s.v.enable en).2 = { s.v with reportLastEvent := s.v.mFirstEventReceived } := by
  rw [VirtualRing.enable, if_neg (by simp [hon, hen]), if_pos (by simp [hen])]

theorem Remembers.faithful (h : s.Remembers) : s.Faithful where
  order := h.stored.order
  space := by rw [VirtualRing.length_contents, h.stored.sound.stored_add_free]
  inside := h.inside
  again := by
    intro hon hfirst en hen count memory hcount
    have hstored := h.stored.enable en
    rw [enable_again hon hen] at hstored ⊢
    obtain ⟨rest, v', hv⟩ := hstored.readEvents_first hon hfirst hcount
    exact ⟨_, rest, v', hv, h.last (Or.inl hfirst)⟩
  pending := by
    intro hon hreport count memory hcount
    obtain ⟨rest, v', hv⟩ := h.stored.readEvents_first hon hreport hcount
    exact ⟨_, rest, v', hv, h.last (Or.inr hreport)⟩

theorem Remembers.lucky (h : s.Remembers) {call : Call} (ht : s.step call = some t)
    (hfaithful : t.Faithful) : s.Lucky call := by
  cases call with
  | enable en => trivial
  | flush => trivial
  | injectEvents events => trivial
  | readEvents count memory =>
    intro hon hpos
    have hcount : 1 ≤ count := by omega
    obtain ⟨u, hu, hs, hrep, hout, hon', hagain, hfirst, hlast⟩ :=
      h.stored.step_read hcount hon rfl rfl
    obtain rfl := Option.some.inj (ht.symm.trans hu)
    have hin := hfaithful.inside
    rw [hout, h.inside, Bool.false_or, decide_eq_false_iff_not] at hin
    refine ⟨by omega, fun hor => ?_⟩
    have hreported : t.v.mFirstEventReceived = true := by
      rw [hfirst, Bool.or_eq_true, decide_eq_true_eq]
      exact hor
    obtain ⟨e, rest, v', hv, he⟩ := hfaithful.again hon' hreported 1 (by decide) 1 memory le_rfl
    have hstored := hs.enable 1
    rw [enable_again hon' (by decide)] at hv hstored
    obtain ⟨rest', v'', hv'⟩ := hstored.readEvents_first hon' hreported le_rfl
    rw [hv] at hv'
    have hsame := congrArg Prod.fst (Option.some.inj hv')
    have hevent : e = t.v.mLastEvent := (List.cons.inj (Except.ok.inj hsame)).1
    rw [← hrep, he, hevent, hlast, if_neg hpos.ne']

/-- A virtual sensor's calls always come to an end, and it is faithful all along exactly if each
read that finds something finds at most half of what it asks for, and the last data event where it
looks for it. -/
theorem last_event_iff (handle : Int) (algo : Bool) (lastEvent : HalEvent) (memory : Nat → HalEvent)
    (calls : List Call) : ∃ s, Runs.play step (start handle algo lastEvent memory) calls = some s ∧
    (Runs.Along step Lucky (start handle algo lastEvent memory) calls ↔
      ∀ pre post, calls = pre ++ post →
        ∀ u, Runs.play step (start handle algo lastEvent memory) pre = some u → u.Faithful) := by
  obtain ⟨hsound, hempty⟩ := VirtualRing.new_sound handle algo lastEvent memory
  have hstart : (start handle algo lastEvent memory).Remembers :=
    ⟨⟨hsound, hempty.symm⟩, rfl, fun hor => by rcases hor with hor | hor <;> cases hor⟩
  obtain ⟨s, hs, -⟩ := Runs.play_total (fun s e h _ => h.step e) hstart.stored
    (Runs.Along.of_forall (P := fun _ _ => True) (fun _ _ _ => trivial) _)
  refine ⟨s, hs, Runs.along_iff_prefixes (R := fun _ _ => True) (I := Remembers) ?_ ?_ ?_ hstart
    (Runs.Along.of_forall (fun _ _ _ => trivial) _) hs⟩
  · exact fun s e t h _ hlucky ht => h.step hlucky ht
  · exact fun s h => h.faithful
  · exact fun s e t h _ ht hfaithful => h.lucky ht hfaithful

def reading (timestamp : Int) : HalEvent := .reading 1 timestamp []

def readOnce (stale : HalEvent) : List Call :=
  [.enable 1, .injectEvents [(reading 7, some [])], .readEvents 2 fun _ => stale]

/-- Enabled once more, the sensor reports what the caller's array held before. -/
theorem stale_event_reported : ¬∀ (handle : Int) (algo : Bool) (lastEvent : HalEvent)
    (memory : Nat → HalEvent) (calls : List Call) (u : VirtualRun),
    Runs.play step (start handle algo lastEvent memory) calls = some u → u.Faithful := by
  intro hall
  let shown (u : VirtualRun) := ((u.v.mEnabled, u.v.mFirstEventReceived), u.reported.getLast?,
    ((u.v.enable 1).2.readEvents 1 fun _ => reading 0).map (·.1.toOption))
  obtain ⟨u, hu, hshown⟩ := Option.map_eq_some_iff.mp (show
    (Runs.play step (start 1 true (reading 0) fun _ => reading 0) (readOnce (reading 3))).map shown =
      some ((true, true), some (reading 7), some (some [reading 3])) from rfl)
  simp only [shown, Prod.mk.injEq] at hshown
  obtain ⟨⟨hon, hfirst⟩, hlast, hevent⟩ := hshown
  obtain ⟨e, rest, v', hread, he⟩ :=
    (hall 1 true (reading 0) (fun _ => reading 0) _ u hu).again hon hfirst 1 (by decide) 1
      (fun _ => reading 0) le_rfl
  rw [hread] at hevent
  have hhead := (List.cons.inj (Option.some.inj (Option.some.inj hevent))).1
  rw [hlast, hhead] at he
  exact absurd he (by decide)

end VirtualRun

end Wt88047.Sensors
