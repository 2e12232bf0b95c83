import Wt88047.Sensors.CompleteEvents

/-! `pollEvents` of the poll context, with the calls of `activate` and `flush` that other threads
make between its steps. -/

namespace Wt88047.Sensors

/-- A call of `pollEvents`: the room that is left, what has been written to the caller's buffer, and
what the drivers have produced, with whether their sensors were enabled. -/
structure PollCall where
  count : Int
  data : List HalEvent
  produced : List (Bool × HalEvent)

namespace PollCall

def reported (produced : List (Bool × HalEvent)) : List HalEvent :=
  (produced.filter (·.1)).map (·.2)

end PollCall

/-- Where the thread is: before the test of sensor `i`, or at the lock before its read, or in
`poll`. -/
inductive PollPhase
  | idle
  | scan (i : Nat) (c : PollCall)
  | read (i : Nat) (c : PollCall)
  | poll (c : PollCall)

namespace PollPhase

def reading : PollPhase → Option (Nat × PollCall)
  | .read i c => some (i, c)
  | _ => none

def polling : PollPhase → Option PollCall
  | .poll c => some c
  | _ => none

end PollPhase

structure PollReturn where
  result : Except Int (List HalEvent)
  produced : List (Bool × HalEvent)

/-- `sensors_poll_context_t`; `revents` says `POLLIN` of each `mPollFds`. -/
structure SensorsPollContext where
  hal : SensorsHal
  revents : Nat → Bool
  phase : PollPhase
  returns : List PollReturn

inductive PollStep
  | pollEvents (count : Int)
  | test
  | readEvents (ws : List SensorDriver.Reads) (algo : Nat → HalEvent → Option (List Int))
  | poll (n : Nat) (ready : Nat → Bool)
  | pollFailed (errno : Int)
  | activate (handle enable : Int) (opened : Nat → Option Int)
  | flush (handle : Int) (written : Nat → Bool)

def SensorsHal.driverEvents (s : SensorsHal) (i : Nat) (count : Int)
    (ws : List SensorDriver.Reads) : List (Bool × HalEvent) :=
  match s.readDriver i count ws with
  | some (.ok es, _) => es.map fun e => ((s.manager.context i).enable ≠ 0, e)
  | _ => []

namespace SensorsPollContext

def init (hal : SensorsHal) : SensorsPollContext := ⟨hal, fun _ => false, .idle, []⟩

def finish (c : PollCall) (result : Except Int (List HalEvent)) (s : SensorsPollContext) : SensorsPollContext :=
  { s with phase := .idle, returns := s.returns ++ [⟨result, c.produced⟩] }

variable (sensors : SensorList)

def test (i : Nat) (c : PollCall) (s : SensorsPollContext) : SensorsPollContext :=
  if c.count ≠ 0 ∧ i < sensors.mSensorCount then
    if s.revents i ∨ s.hal.hasPendingEvents sensors (sensorsHandle i) then
      { s with phase := .read i c }
    else { s with phase := .scan (i + 1) c }
  else if c.count ≠ 0 then { s with phase := .poll c }
  else s.finish c (.ok c.data)

/-- `revents` is cleared when no more than `count` events came, and more never do. -/
def readEvents (i : Nat) (c : PollCall) (ws : List SensorDriver.Reads)
    (algo : Nat → HalEvent → Option (List Int)) (s : SensorsPollContext) : Option SensorsPollContext :=
  (s.hal.readEvents sensors (sensorsHandle i) c.count ws algo).map fun r =>
    let produced := c.produced ++ s.hal.driverEvents i c.count ws
    let s := { s with hal := r.2 }
    match r.1 with
    | .error err => s.finish { c with produced := produced } (.error err)
    | .ok es => { s with
        revents := if es.length ≤ c.count then Function.update s.revents i false else s.revents
        phase := .scan (i + 1) ⟨c.count - es.length, c.data ++ es, produced⟩ }

/-- `poll` waits for ever while there are no events; the last of `mPollFds` is the wake pipe, which
is read at once. -/
def poll (c : PollCall) (n : Nat) (ready : Nat → Bool) (s : SensorsPollContext) : Option SensorsPollContext :=
  if n = 0 then
    if c.data = [] then none
    else some ({ s with revents := fun _ => false }.finish c (.ok c.data))
  else some { s with
    revents := Function.update ready sensors.mSensorCount false
    phase := .scan 0 c }

def step (s : SensorsPollContext) (e : PollStep) : Option SensorsPollContext :=
  match e, s.phase with
  | .pollEvents count, .idle => some { s with phase := .scan 0 ⟨count, [], []⟩ }
  | .test, .scan i c => some (s.test sensors i c)
  | .readEvents ws algo, .read i c => s.readEvents sensors i c ws algo
  | .poll n ready, .poll c => s.poll sensors c n ready
  | .pollFailed errno, .poll c => some (s.finish c (.error (-errno)))
  | .activate handle enable opened, _ =>
    some { s with hal := s.hal.activate sensors handle enable opened }
  | .flush handle written, _ => some { s with hal := (s.hal.flush sensors handle written).2 }
  | _, _ => none

end SensorsPollContext

def PollReturn.Faithful (r : PollReturn) : Prop :=
  match r.result with
  | .ok data => data = PollCall.reported r.produced
  | .error _ => PollCall.reported r.produced = []

namespace SensorsPollContext

variable {sensors : SensorList} {s t : SensorsPollContext}

def failed : Option (Except Int (List HalEvent) × SensorsHal) → Bool
  | some (.error _, _) => true
  | _ => false

/-- Once an event has been produced in a call, no read of an enabled sensor fails and `poll` does
not fail. -/
def Timely (s : SensorsPollContext) : PollStep → Prop
  | .readEvents ws _ => ∀ r ∈ s.phase.reading, r.2.data = [] ∨
    (s.hal.manager.context r.1).enable = 0 ∨
    failed (s.hal.readDriver r.1 r.2.count ws) = false
  | .pollFailed _ => ∀ c ∈ s.phase.polling, c.data = []
  | _ => True

instance (s : SensorsPollContext) : ∀ e, Decidable (s.Timely e)
  | .readEvents .. => inferInstanceAs (Decidable (∀ r ∈ s.phase.reading, _))
  | .pollFailed _ => inferInstanceAs (Decidable (∀ c ∈ s.phase.polling, _))
  | .pollEvents _ | .test | .poll .. | .activate .. | .flush .. => isTrue trivial

def Fits (s : SensorsPollContext) : PollStep → Prop
  | .readEvents ws _ => ∀ r ∈ s.phase.reading, ∀ d, s.hal.driver r.1 = .input d → 1 ≤ r.2.count →
    ∀ w ∈ ws,
      d.complete (d.mInputReader.contents ++ InputSensor.given w.reads) ≤ r.2.count.toNat
  | _ => True

structure Kept (sensors : SensorList) (s : SensorsPollContext) : Prop where
  call : ∀ c, (∃ i, s.phase = .scan i c) ∨ (∃ i, s.phase = .read i c) ∨ s.phase = .poll c →
    c.data = PollCall.reported c.produced
  index : ∀ i c, s.phase = .read i c → i < sensors.mSensorCount
  returns : ∀ r ∈ s.returns, r.Faithful

theorem reported_append (l k : List (Bool × HalEvent)) :
    PollCall.reported (l ++ k) = PollCall.reported l ++ PollCall.reported k := by
  simp [PollCall.reported]

theorem readEvents_reported {hal hal' : SensorsHal} {i : Nat} {count : Int}
    {ws : List SensorDriver.Reads} {algo : Nat → HalEvent → Option (List Int)}
    {r : Except Int (List HalEvent)} (hi : i < sensors.mSensorCount)
    (h : hal.readEvents sensors (sensorsHandle i) count ws algo = some (r, hal')) :
    (∃ es, r = .ok es ∧ PollCall.reported (hal.driverEvents i count ws) = es) ∨
      ∃ err hal'', r = .error err ∧ hal.driverEvents i count ws = [] ∧
        (hal.manager.context i).enable ≠ 0 ∧ hal.readDriver i count ws = some (.error err, hal'') := by
  have hget := SensorList.getInfoByHandle_eq_some.mpr ⟨hi, rfl⟩
  rw [SensorsHal.readEvents, hget] at h
  dsimp only at h
  rw [SensorsHal.driverEvents]
  cases hr : hal.readDriver i count ws with
  | none =>
    rw [hr] at h
    cases h
  | some f =>
    obtain ⟨r₁, hal₁⟩ := f
    rw [hr] at h
    have hm : hal₁.manager = hal.manager := by rw [SensorsHal.readDriver_frame hr]
    cases r₁ with
    | error err =>
      obtain ⟨rfl, rfl⟩ := Prod.mk.inj (Option.some.inj h)
      rw [SensorsHal.gated, hm]
      by_cases he : (hal.manager.context i).enable ≠ 0
      · right
        rw [if_pos he]
        exact ⟨err, hal₁, rfl, rfl, he, rfl⟩
      · left
        rw [if_neg he]
        exact ⟨[], rfl, rfl⟩
    | ok es =>
      obtain ⟨rfl, rfl⟩ := Prod.mk.inj (Option.some.inj h)
      left
      rw [SensorsHal.gated, hm]
      by_cases he : (hal.manager.context i).enable ≠ 0
      · rw [if_pos he]
        exact ⟨es, rfl, by simp [PollCall.reported, he, List.filter_map, Function.comp_def]⟩
      · rw [if_neg he]
        exact ⟨[], rfl, by simp [PollCall.reported, he]⟩

theorem Kept.finish {c : PollCall} {result : Except Int (List HalEvent)} (h : s.Kept sensors)
    (hr : (PollReturn.mk result c.produced).Faithful) : (s.finish c result).Kept sensors := by
  refine ⟨fun c hc => ?_, fun i c hc => ?_, fun r hmem => ?_⟩
  · rcases hc with ⟨_, hc⟩ | ⟨_, hc⟩ | hc <;> cases hc
  · cases hc
  · rcases List.mem_append.mp hmem with hmem | hmem
    · exact h.returns r hmem
    · rw [List.mem_singleton.mp hmem]
      exact hr

theorem Kept.within {c : PollCall} (h : s.Kept sensors)
    (hc : c.data = PollCall.reported c.produced) (hreturns : t.returns = s.returns)
    (hphase : (∃ i, t.phase = .scan i c) ∨ (∃ i < sensors.mSensorCount, t.phase = .read i c) ∨
      t.phase = .poll c) : t.Kept sensors := by
  refine ⟨fun c' hc' => ?_, fun i c' hc' => ?_, fun r hr => h.returns r (hreturns ▸ hr)⟩
  · have heq : c' = c := by
      rcases hphase with ⟨i, hp⟩ | ⟨i, -, hp⟩ | hp <;> rw [hp] at hc' <;>
        rcases hc' with ⟨j, hc'⟩ | ⟨j, hc'⟩ | hc' <;> cases hc' <;> rfl
    rw [heq]
    exact hc
  · rcases hphase with ⟨j, hp⟩ | ⟨j, hj, hp⟩ | hp <;> rw [hp] at hc' <;> cases hc'
    exact hj

theorem Kept.step {e : PollStep} (h : s.Kept sensors) (hp : s.Timely e)
    (ht : s.step sensors e = some t) : t.Kept sensors := by
  have hsame : ∀ u : SensorsPollContext, u.phase = s.phase → u.returns = s.returns →
      u.Kept sensors := by
    intro u hphase hreturns
    exact ⟨fun c hc => h.call c (by rwa [hphase] at hc), fun i c hc => h.index i c (hphase ▸ hc),
      fun r hr => h.returns r (hreturns ▸ hr)⟩
  cases e with
  | activate handle enable opened =>
    obtain rfl := Option.some.inj ht
    exact hsame _ rfl rfl
  | flush handle written =>
    obtain rfl := Option.some.inj ht
    exact hsame _ rfl rfl
  | pollEvents count =>
    cases hphase : s.phase with
    | idle =>
      simp only [SensorsPollContext.step, hphase] at ht
      obtain rfl := Option.some.inj ht
      exact h.within (c := ⟨count, [], []⟩) rfl rfl (Or.inl ⟨0, rfl⟩)
    | scan | read | poll => simp [SensorsPollContext.step, hphase] at ht
  | test =>
    cases hphase : s.phase with
    | scan i c =>
      have hc := h.call c (Or.inl ⟨i, hphase⟩)
      simp only [SensorsPollContext.step, hphase] at ht
      obtain rfl := Option.some.inj ht
      rw [test]
      split
      · rename_i hi
        split
        · exact h.within hc rfl (Or.inr (Or.inl ⟨i, hi.2, rfl⟩))
        · exact h.within hc rfl (Or.inl ⟨i + 1, rfl⟩)
      · split
        · exact h.within hc rfl (Or.inr (Or.inr rfl))
        · exact h.finish hc
    | idle | read | poll => simp [SensorsPollContext.step, hphase] at ht
  | readEvents ws algo =>
    cases hphase : s.phase with
    | read i c =>
      have hc := h.call c (Or.inr (Or.inl ⟨i, hphase⟩))
      simp only [SensorsPollContext.step, hphase, readEvents] at ht
      obtain ⟨⟨r, hal⟩, hr, rfl⟩ := Option.map_eq_some_iff.mp ht
      have hi := h.index i c hphase
      rcases readEvents_reported hi hr with ⟨es, rfl, hes⟩ | ⟨err, hal'', rfl, hnone, hen, hfail⟩
      · refine h.within (c := ⟨c.count - es.length, c.data ++ es, _⟩) ?_ rfl (Or.inl ⟨i + 1, rfl⟩)
        simp only [reported_append, hes, hc]
      · have hdata : c.data = [] := by
          rcases hp (i, c) (by rw [hphase]; rfl) with hdata | hoff | hok
          · exact hdata
          · exact absurd hoff hen
          · rw [hfail] at hok
            cases hok
        have hkept : ({ s with hal := hal } : SensorsPollContext).Kept sensors := hsame _ rfl rfl
        refine hkept.finish ?_
        show PollCall.reported (c.produced ++ _) = []
        rw [hnone, List.append_nil, ← hc, hdata]
    | idle | scan | poll => simp [SensorsPollContext.step, hphase] at ht
  | poll n ready =>
    cases hphase : s.phase with
    | poll c =>
      have hc := h.call c (Or.inr (Or.inr hphase))
      simp only [SensorsPollContext.step, hphase, poll] at ht
      split at ht
      · split at ht
        · cases ht
        · obtain rfl := Option.some.inj ht
          have hkept : ({ s with revents := fun _ => false } : SensorsPollContext).Kept sensors :=
            hsame _ rfl rfl
          exact hkept.finish hc
      · obtain rfl := Option.some.inj ht
        exact h.within hc rfl (Or.inl ⟨0, rfl⟩)
    | idle | scan | read => simp [SensorsPollContext.step, hphase] at ht
  | pollFailed errno =>
    cases hphase : s.phase with
    | poll c =>
      have hc := h.call c (Or.inr (Or.inr hphase))
      simp only [SensorsPollContext.step, hphase] at ht
      obtain rfl := Option.some.inj ht
      refine h.finish ?_
      show PollCall.reported c.produced = []
      rw [← hc]
      exact hp c (by rw [hphase]; rfl)
    | idle | scan | read => simp [SensorsPollContext.step, hphase] at ht

def RingsRead (sensors : SensorList) (hal : SensorsHal) : Prop :=
  ∀ i < sensors.mSensorCount, (hal.driver i).CaughtUp

theorem RingsRead.readEvents {hal hal' : SensorsHal} {i : Nat} {count : Int}
    {ws : List SensorDriver.Reads} {algo : Nat → HalEvent → Option (List Int)}
    {r : Except Int (List HalEvent)} (h : RingsRead sensors hal)
    (hfit : ∀ d, hal.driver i = .input d → 1 ≤ count → ∀ w ∈ ws,
      d.complete (d.mInputReader.contents ++ InputSensor.given w.reads) ≤ count.toNat)
    (hr : hal.readEvents sensors (sensorsHandle i) count ws algo = some (r, hal')) :
    RingsRead sensors hal' := by
  rw [SensorsHal.readEvents] at hr
  cases hget : sensors.getInfoByHandle (sensorsHandle i) with
  | none =>
    rw [hget] at hr
    obtain ⟨-, rfl⟩ := Prod.mk.inj (Option.some.inj hr)
    exact h
  | some list =>
    have hli : list = i := by
      have hhandle := (SensorList.getInfoByHandle_eq_some.mp hget).2
      simp only [sensorsHandle] at hhandle
      omega
    subst hli
    rw [hget] at hr
    dsimp only at hr
    cases hd : hal.readDriver list count ws with
    | none =>
      rw [hd] at hr
      cases hr
    | some f =>
      obtain ⟨r₁, hal₁⟩ := f
      rw [hd] at hr
      have hone : RingsRead sensors hal₁ := by
        intro x hx
        by_cases hxl : x = list
        · subst hxl
          exact SensorsHal.readDriver_caughtUp (h x hx) hfit hd
        · rw [SensorsHal.readDriver_frame hd]
          simpa only [Function.update_of_ne hxl] using h x hx
      cases r₁ with
      | error err =>
        obtain ⟨-, rfl⟩ := Prod.mk.inj (Option.some.inj hr)
        exact hone
      | ok es =>
        obtain ⟨-, rfl⟩ := Prod.mk.inj (Option.some.inj hr)
        refine (SensorsHal.injectAll_keeps (I := fun x d => x < sensors.mSensorCount → d.CaughtUp)
          ?_ list algo es hone).2
        intro x d e converted hd hx
        cases d with
        | input d => exact hd hx
        | virtual v => trivial

theorem RingsRead.step {e : PollStep} (h : RingsRead sensors s.hal) (hp : s.Fits e)
    (ht : s.step sensors e = some t) : RingsRead sensors t.hal := by
  cases e with
  | activate handle enable opened =>
    obtain rfl := Option.some.inj ht
    exact SensorsHal.activate_keeps (I := fun x d => x < sensors.mSensorCount → d.CaughtUp)
      (fun x d en opened hd hx => (hd hx).enable en (opened)) h handle enable opened
  | flush handle written =>
    obtain rfl := Option.some.inj ht
    refine SensorsHal.flush_keeps (I := fun x d => x < sensors.mSensorCount → d.CaughtUp)
      ?_ h handle written
    intro x d hd hx
    cases d with
    | input d => exact (hd hx).of_reader rfl
    | virtual v => trivial
  | pollEvents count =>
    cases hphase : s.phase with
    | idle =>
      simp only [SensorsPollContext.step, hphase] at ht
      obtain rfl := Option.some.inj ht
      exact h
    | scan | read | poll => simp [SensorsPollContext.step, hphase] at ht
  | test =>
    cases hphase : s.phase with
    | scan i c =>
      simp only [SensorsPollContext.step, hphase] at ht
      obtain rfl := Option.some.inj ht
      rw [test]
      split_ifs <;> exact h
    | idle | read | poll => simp [SensorsPollContext.step, hphase] at ht
  | readEvents ws algo =>
    cases hphase : s.phase with
    | read i c =>
      simp only [SensorsPollContext.step, hphase, SensorsPollContext.readEvents] at ht
      obtain ⟨⟨r, hal⟩, hr, rfl⟩ := Option.map_eq_some_iff.mp ht
      have hread := h.readEvents (hp (i, c) (by rw [hphase]; rfl)) hr
      cases r with
      | error err => exact hread
      | ok es => exact hread
    | idle | scan | poll => simp [SensorsPollContext.step, hphase] at ht
  | poll n ready =>
    cases hphase : s.phase with
    | poll c =>
      simp only [SensorsPollContext.step, hphase, SensorsPollContext.poll] at ht
      split at ht
      · split at ht
        · cases ht
        · obtain rfl := Option.some.inj ht
          exact h
      · obtain rfl := Option.some.inj ht
        exact h
    | idle | scan | read => simp [SensorsPollContext.step, hphase] at ht
  | pollFailed errno =>
    cases hphase : s.phase with
    | poll c =>
      simp only [SensorsPollContext.step, hphase] at ht
      obtain rfl := Option.some.inj ht
      exact h
    | idle | scan | read => simp [SensorsPollContext.step, hphase] at ht

def NewRings (sensors : SensorList) (hal : SensorsHal) : Prop :=
  ∀ i < sensors.mSensorCount, ∀ d, hal.driver i = .input d →
    ∃ numEvents memory, 0 < numEvents ∧ d.mInputReader = .new numEvents memory

theorem NewRings.ringsRead {hal : SensorsHal} (h : NewRings sensors hal) :
    RingsRead sensors hal := by
  intro i hi
  cases hd : hal.driver i with
  | input d =>
    obtain ⟨numEvents, memory, hpos, hnew⟩ := h i hi d hd
    obtain ⟨hsound, hnil⟩ := InputEventCircularReader.new_sound hpos memory
    exact ⟨hnew ▸ hsound, by simp [hnew, hnil]⟩
  | virtual v => trivial

open ManagerRun (twoAndVirtual)

theorem idle_newRings : NewRings twoAndVirtual .idle := by
  intro i hi d hd
  match i with
  | 0 =>
    obtain rfl := SensorDriver.input.inj hd
    exact ⟨4, _, by decide, rfl⟩
  | 1 =>
    obtain rfl := SensorDriver.input.inj hd
    exact ⟨4, _, by decide, rfl⟩
  | _ + 2 => cases hd

def oneEvent : SensorDriver.Reads :=
  ⟨0, [.events [⟨7, evAbs, 0, 5⟩, ⟨7, evSyn, synReport, 0⟩]], fun _ => .reading 0 0 []⟩

def pollAccel : List PollStep :=
  [.activate 1 1 fun _ => some 0, .pollEvents 16, .test, .test, .test, .test,
    .poll 1 fun i => i = 0, .test, .readEvents [oneEvent] fun _ _ => none, .test, .test, .test,
    .poll 0 fun _ => false]

/-- The accelerometer runs for the virtual sensor only, which makes an event of its event. -/
def pollVirtual : List PollStep :=
  [.activate 3 1 fun _ => some 0, .pollEvents 16, .test, .test, .test, .test,
    .poll 1 fun i => i = 0, .test, .readEvents [oneEvent] fun _ _ => some [9], .test, .test,
    .readEvents [⟨0, [], fun _ => .reading 0 0 []⟩] fun _ _ => none, .test,
    .poll 0 fun _ => false]

end SensorsPollContext

end Wt88047.Sensors
