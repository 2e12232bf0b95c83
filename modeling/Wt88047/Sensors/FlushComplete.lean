import Wt88047.Sensors.Completions

/-! The flushes of a sensor and the `META_DATA_FLUSH_COMPLETE` events that answer them, in every
order of activations, flushes and reads. -/

namespace Wt88047.Sensors

structure SensorList.Built (sensors : SensorList) : Prop where
  hardware : ∀ x < sensors.mSensorCount, (sensors.info x).isVirtual = false →
    (sensors.info x).depList = [x]
  virtual : ∀ x < sensors.mSensorCount, (sensors.info x).isVirtual = true →
    ∀ hw ∈ (sensors.info x).depList, hw < sensors.mSensorCount ∧ (sensors.info hw).isVirtual = false

namespace SensorsHal

variable {sensors : SensorList} {s : SensorsHal} {handle enable : Int} {x y : Nat}
  {opened : Nat → Option Int} {written : Nat → Bool}

theorem flush_cases (hb : sensors.Built) (s : SensorsHal) (handle : Int) (written : Nat → Bool) :
    ((s.flush sensors handle written).1 ≠ 0 ∧ (s.flush sensors handle written).2 = s) ∨
      ∃ x < sensors.mSensorCount, handle = sensorsHandle x ∧ (sensors.info x).oneShot = false ∧
        (s.driver x).mEnabled = true ∧
        ¬((sensors.info x).fifoMaxEventCount ≠ 0 ∧ written x = false) ∧
        s.flush sensors handle written = (0, s.onDriver x (·.pendMetadata)) := by
  have heinval : einval ≠ 0 := by decide
  cases hx : sensors.getInfoByHandle handle with
  | none =>
    left
    simp only [flush, hx]
    exact ⟨heinval, trivial⟩
  | some x =>
    obtain ⟨hlt, hhandle⟩ := SensorList.getInfoByHandle_eq_some.mp hx
    have hflush : s.flush sensors handle written =
        if (sensors.info x).oneShot then (einval, s) else flushAll sensors written [x] s := by
      simp only [flush, hx]
      cases hv : (sensors.info x).isVirtual with
      | true => simp
      | false => simp [hb.hardware x hlt hv]
    rw [hflush]
    by_cases hone : (sensors.info x).oneShot = true
    · left
      rw [if_pos hone]
      exact ⟨heinval, rfl⟩
    rw [if_neg hone]
    by_cases hoff : (s.driver x).mEnabled = false
    · left
      have hd : (s.driver x).flush (sensors.info x) (written x) = (einval, s.driver x) := by
        rw [SensorDriver.flush, if_pos (Or.inl hoff)]
      simp [flushAll, hd, heinval]
    by_cases hfifo : (sensors.info x).fifoMaxEventCount ≠ 0 ∧ written x = false
    · left
      have hd : (s.driver x).flush (sensors.info x) (written x) = (-1, s.driver x) := by
        rw [SensorDriver.flush, if_neg (by simp [hoff, hone]), if_pos hfifo]
      simp [flushAll, hd]
    · right
      have hd : (s.driver x).flush (sensors.info x) (written x) =
          (0, (s.driver x).pendMetadata) := by
        rw [SensorDriver.flush, if_neg (by simp [hoff, hone]), if_neg hfifo]
      exact ⟨x, hlt, hhandle, by simpa using hone, by simpa using hoff, hfifo, by
        simp [flushAll, hd, onDriver]⟩

theorem activate_flag (s : SensorsHal) (sensors : SensorList) (handle enable : Int) (y : Nat)
    (opened : Nat → Option Int)
    (hr : ∃ asked, (ManagerRun.mk s.manager asked).Registered sensors) :
    (((s.activate sensors handle enable opened).manager.context y).enable =
      if sensors.getInfoByHandle handle = some y then enable else (s.manager.context y).enable) ∧
    ∃ asked, (ManagerRun.mk (s.activate sensors handle enable opened).manager asked).Registered
      sensors := by
  obtain ⟨asked, hr⟩ := hr
  have hnext := hr.activate handle enable
  rw [activate_manager]
  refine ⟨?_, _, hnext⟩
  have hold := hr.flag y
  have hnew := hnext.flag y
  simp only at hold hnew
  rw [hnew, hold]
  simp only [Requests.record]
  cases hx : sensors.getInfoByHandle handle with
  | none => simp
  | some x =>
    by_cases hxy : x = y
    · subst hxy
      simp
    · simp [hxy, Ne.symm hxy]

theorem activateAll_driver {deps : List Nat} {list : Nat} (h : x ∉ deps) :
    (deps.foldl (activateOn sensors list enable opened) s).driver x = s.driver x := by
  induction deps generalizing s with
  | nil => rfl
  | cons hw deps ih =>
    rw [List.foldl_cons, ih (List.not_mem_of_not_mem_cons h)]
    have hne := List.ne_of_not_mem_cons h
    simp only [activateOn]
    split_ifs
    · exact Function.update_of_ne hne _ _
    · exact Function.update_of_ne hne _ _
    · rfl

theorem activate_virtual (hb : sensors.Built) (hx : x < sensors.mSensorCount)
    (hv : (sensors.info x).isVirtual = true) :
    (s.activate sensors handle enable opened).driver x =
      if sensors.getInfoByHandle handle = some x then (s.driver x).enable enable (opened x)
      else s.driver x := by
  rw [activate]
  cases hlist : sensors.getInfoByHandle handle with
  | none => simp
  | some list =>
    obtain ⟨hlt, -⟩ := SensorList.getInfoByHandle_eq_some.mp hlist
    have hdeps : x ∉ (sensors.info list).depList := by
      intro hmem
      cases hvl : (sensors.info list).isVirtual with
      | true =>
        have hhw := (hb.virtual list hlt hvl x hmem).2
        rw [hv] at hhw
        cases hhw
      | false =>
        rw [hb.hardware list hlt hvl, List.mem_singleton] at hmem
        rw [← hmem, hv] at hvl
        cases hvl
    dsimp only
    by_cases hxl : list = x
    · subst hxl
      simp only [hv, if_true, driverEnable, activateAll_driver hdeps]
      split <;> simp only [Function.update_self]
    · rw [if_neg fun h => hxl (Option.some.inj h)]
      have hne : x ≠ list := Ne.symm hxl
      split
      · exact Function.update_of_ne hne _ _
      · split
        · simp only [driverEnable, Function.update_of_ne hne, activateAll_driver hdeps]
        · exact activateAll_driver hdeps

structure Reports (sensors : SensorList) (s : SensorsHal) (x : Nat) : Prop where
  oneShot : (sensors.info x).oneShot = false
  enable : (s.manager.context x).enable ≠ 0
  driver : (s.driver x).mEnabled = true

theorem activate_hardware (hb : sensors.Built) (hx : x < sensors.mSensorCount)
    (hhw : (sensors.info x).isVirtual = false)
    (hr : ∃ asked, (ManagerRun.mk s.manager asked).Registered sensors)
    (h : s.Reports sensors x) (hoff : sensors.getInfoByHandle handle = some x → enable ≠ 0) :
    ((s.activate sensors handle enable opened).driver x).mEnabled = true := by
  rw [activate]
  cases hlist : sensors.getInfoByHandle handle with
  | none => exact h.driver
  | some list =>
    have hne : (sensors.info list).oneShot = true ∨ (sensors.info list).isVirtual = true →
        x ≠ list := by
      rintro hor rfl
      rcases hor with ho | hv
      · rw [h.oneShot] at ho
        cases ho
      · rw [hhw] at hv
        cases hv
    have hlisten : ∀ m : NativeSensorManager, ∀ hw, x ∈ (m.context x).listener →
        x ∈ ((m.activateOn sensors list enable hw).context x).listener := by
      intro m hw hmem
      rw [NativeSensorManager.activateOn_context]
      split
      · rename_i hxhw
        rw [hxhw] at hmem ⊢
        simp only [Requests.setEnabled]
        split_ifs with he hl
        · exact hmem
        · exact List.mem_append_left _ hmem
        · have hxl : x ≠ list := by
            rintro rfl
            exact he (hoff hlist)
          rw [hxhw] at hxl
          exact (List.mem_erase_of_ne hxl).mpr hmem
      · exact hmem
    have hmem : x ∈ (s.manager.context x).listener := by
      obtain ⟨asked, hr⟩ := hr
      have hl := hr.listener x
      have hflag := hr.flag x
      simp only at hl hflag
      rw [hl, List.mem_filter, hr.enabled, ← hflag]
      exact ⟨⟨hx, h.oneShot, h.enable⟩, by simp [hb.hardware x hx hhw]⟩
    let t : SensorsHal := ⟨s.manager.update list fun c => { c with enable := enable }, s.driver⟩
    have hmem' : x ∈ (t.manager.context x).listener := by
      by_cases hxl : x = list
      · subst hxl
        simpa [t, NativeSensorManager.update] using hmem
      · simpa [t, NativeSensorManager.update, hxl] using hmem
    have hall : (((sensors.info list).depList.foldl (activateOn sensors list enable opened)
        t).driver x).mEnabled = true := activateAll_on hlisten hmem' h.driver
    dsimp only
    split
    · rename_i ho
      simpa only [driverEnable, Function.update_of_ne (hne (Or.inl ho))] using h.driver
    · split
      · rename_i hv
        simpa only [driverEnable, Function.update_of_ne (hne (Or.inr hv))] using hall
      · exact hall

end SensorsHal

structure FlushRun where
  hal : SensorsHal
  flushed : Nat → Nat
  completed : Nat → Nat

inductive FlushCall
  | activate (handle enable : Int) (opened : Nat → Option Int)
  | flush (handle : Int) (written : Nat → Bool)
  | readEvents (handle count : Int) (ws : List SensorDriver.Reads)
    (algo : Nat → HalEvent → Option (List Int))

namespace FlushCall

def Disables (x : Nat) : FlushCall → Prop
  | .activate handle enable _ => handle = sensorsHandle x ∧ enable = 0
  | _ => False

def Reads (x : Nat) : FlushCall → Prop
  | .readEvents handle count ws _ => handle = sensorsHandle x ∧ 1 ≤ count ∧ ws ≠ []
  | _ => False

end FlushCall

namespace FlushRun

def init (hal : SensorsHal) : FlushRun := ⟨hal, fun _ => 0, fun _ => 0⟩

def pending (s : FlushRun) (x : Nat) : Nat := (s.hal.driver x).mHasPendingMetadata

def step (sensors : SensorList) (s : FlushRun) : FlushCall → Option FlushRun
  | .activate handle enable opened =>
    some { s with hal := s.hal.activate sensors handle enable opened }
  | .flush handle written =>
    let r := s.hal.flush sensors handle written
    some { s with
      hal := r.2
      flushed := fun x =>
        if r.1 = 0 ∧ handle = sensorsHandle x then s.flushed x + 1 else s.flushed x }
  | .readEvents handle count ws algo =>
    (s.hal.readEvents sensors handle count ws algo).map fun r =>
      { s with hal := r.2, completed := fun x => s.completed x + completions x r.1 }

/-- A flush of a sensor that is not enabled does not find its driver on, and a read does not report
again, as the last event, one that completes a flush. -/
def Owned (sensors : SensorList) (s : FlushRun) : FlushCall → Prop
  | .activate .. => True
  | .flush handle written => ∀ x < sensors.mSensorCount, handle = sensorsHandle x →
    (s.hal.manager.context x).enable = 0 → (s.hal.driver x).mEnabled = false ∨
      (sensors.info x).oneShot = true ∨
      (sensors.info x).fifoMaxEventCount ≠ 0 ∧ written x = false
  | .readEvents handle count .. => ∀ x < sensors.mSensorCount, handle = sensorsHandle x →
    1 ≤ count → (s.hal.driver x).Harmless sensors

structure Accounted (sensors : SensorList) (s : FlushRun) : Prop where
  serves : ∀ x < sensors.mSensorCount, (s.hal.driver x).Serves sensors x
  follows : ∀ x < sensors.mSensorCount, (sensors.info x).isVirtual = true →
    ((s.hal.driver x).mEnabled = true ↔ (s.hal.manager.context x).enable ≠ 0)
  registered : ∃ asked, (ManagerRun.mk s.hal.manager asked).Registered sensors
  balance : ∀ x < sensors.mSensorCount, s.completed x + s.pending x ≤ s.flushed x

variable {sensors : SensorList} {s t : FlushRun} {e : FlushCall} {x : Nat}

/-- A step answers no more flushes than it takes off, and those of a sensor that reports all. -/
structure Settles (sensors : SensorList) (s : FlushRun) (e : FlushCall) (t : FlushRun) : Prop where
  serves : ∀ x < sensors.mSensorCount, (t.hal.driver x).Serves sensors x
  follows : ∀ x < sensors.mSensorCount, (sensors.info x).isVirtual = true →
    ((t.hal.driver x).mEnabled = true ↔ (t.hal.manager.context x).enable ≠ 0)
  registered : ∃ asked, (ManagerRun.mk t.hal.manager asked).Registered sensors
  reports : ∀ x < sensors.mSensorCount, s.hal.Reports sensors x → ¬e.Disables x →
    t.hal.Reports sensors x
  le : ∀ x < sensors.mSensorCount,
    t.completed x + t.pending x + s.flushed x ≤ s.completed x + s.pending x + t.flushed x
  balance : ∀ x < sensors.mSensorCount, s.hal.Reports sensors x →
    t.completed x + t.pending x + s.flushed x = s.completed x + s.pending x + t.flushed x

theorem Accounted.activate (h : s.Accounted sensors) (hb : sensors.Built) (handle enable : Int)
    (opened : Nat → Option Int) : s.Settles sensors (.activate handle enable opened)
      { s with hal := s.hal.activate sensors handle enable opened } := by
  let I : Nat → SensorDriver → Prop := fun x d =>
    (x < sensors.mSensorCount → d.Serves sensors x) ∧ d.mHasPendingMetadata = s.pending x
  have hkeeps : ∀ x, I x ((s.hal.activate sensors handle enable opened).driver x) :=
    SensorsHal.activate_keeps (fun x d en o hd => ⟨fun hx => (hd.1 hx).enable en o,
      (SensorDriver.enable_metadata en o d).trans hd.2⟩) (fun x => ⟨h.serves x, rfl⟩) handle enable
      opened
  have hflag := fun y => s.hal.activate_flag sensors handle enable y opened h.registered
  have hvirtual : ∀ x < sensors.mSensorCount, (sensors.info x).isVirtual = true →
      (((s.hal.activate sensors handle enable opened).driver x).mEnabled = true ↔
        ((s.hal.activate sensors handle enable opened).manager.context x).enable ≠ 0) := by
    intro x hx hv
    rw [SensorsHal.activate_virtual hb hx hv, (hflag x).1]
    split
    · have hserves := h.serves x hx
      cases hd : s.hal.driver x with
      | input d =>
        rw [hd] at hserves
        rw [hserves.1] at hv
        cases hv
      | virtual v =>
        simp only [SensorDriver.enable, SensorDriver.mEnabled, VirtualSensor.enable]
        split_ifs <;> simp_all
    · exact h.follows x hx hv
  refine ⟨fun x hx => (hkeeps x).1 hx, hvirtual, (hflag 0).2, fun x hx hr hd => ?_, fun x _ => ?_,
    fun x _ _ => ?_⟩
  · have hoff : sensors.getInfoByHandle handle = some x → enable ≠ 0 := by
      intro hget he
      exact hd ⟨(SensorList.getInfoByHandle_eq_some.mp hget).2, he⟩
    have henable : ((s.hal.activate sensors handle enable opened).manager.context x).enable ≠ 0 := by
      rw [(hflag x).1]
      split
      · rename_i hget
        exact hoff hget
      · exact hr.enable
    refine ⟨hr.oneShot, henable, ?_⟩
    cases hv : (sensors.info x).isVirtual with
    | true => exact (hvirtual x hx hv).mpr henable
    | false => exact SensorsHal.activate_hardware hb hx hv h.registered hr hoff
  · simp only [pending, (hkeeps x).2]
    exact le_refl _
  · simp only [pending, (hkeeps x).2]

theorem Accounted.flush (h : s.Accounted sensors) (hb : sensors.Built) (handle : Int)
    (written : Nat → Bool) (ht : s.step sensors (.flush handle written) = some t) :
    s.Settles sensors (.flush handle written) t := by
  obtain rfl := Option.some.inj ht
  rcases s.hal.flush_cases hb handle written with
    ⟨hfail, hsame⟩ | ⟨x, hx, hhandle, hone, hon, hfifo, hflush⟩
  · simp only [hsame, hfail, false_and, if_false]
    exact ⟨h.serves, h.follows, h.registered, fun x _ hr _ => hr, fun x _ => le_refl _,
      fun x _ _ => rfl⟩
  · have hdriver : ∀ y, (s.hal.onDriver x (·.pendMetadata)).driver y =
        if y = x then (s.hal.driver x).pendMetadata else s.hal.driver y := by
      intro y
      by_cases hy : y = x
      · subst hy
        simp [SensorsHal.onDriver]
      · simp [SensorsHal.onDriver, hy]
    have hserves : ∀ d : SensorDriver, d.Serves sensors x → d.pendMetadata.Serves sensors x ∧
        d.pendMetadata.mEnabled = d.mEnabled ∧
        d.pendMetadata.mHasPendingMetadata = d.mHasPendingMetadata + 1 := by
      intro d hd
      cases d with
      | input d => exact ⟨hd, rfl, rfl⟩
      | virtual v => exact ⟨hd, rfl, rfl⟩
    obtain ⟨hpend, hsame, hmore⟩ := hserves _ (h.serves x hx)
    have henabled : ∀ y, ((s.hal.onDriver x (·.pendMetadata)).driver y).mEnabled =
        (s.hal.driver y).mEnabled := by
      intro y
      rw [hdriver]
      split
      · rename_i hy
        rw [hy, hsame]
      · rfl
    have hone : ∀ y, ((s.hal.onDriver x (·.pendMetadata)).driver y).mHasPendingMetadata +
        s.flushed y = s.pending y +
          if handle = sensorsHandle y then s.flushed y + 1 else s.flushed y := by
      intro y
      have hhandle' : handle = sensorsHandle y ↔ y = x := by
        simp only [hhandle, sensorsHandle]
        omega
      rw [hdriver]
      simp only [hhandle', pending]
      split
      · rename_i hy
        rw [hy, hmore]
        omega
      · rfl
    simp only [hflush, true_and]
    refine ⟨fun y hy => ?_, fun y hy hv => ?_, h.registered, fun y hy hr _ => ?_, fun y hy => ?_,
      fun y hy _ => ?_⟩
    · simp only [hdriver]
      split
      · rename_i hyx
        rw [hyx]
        exact hpend
      · exact h.serves y hy
    · simp only [henabled]
      exact h.follows y hy hv
    · exact ⟨hr.oneShot, hr.enable, (henabled y).trans hr.driver⟩
    · have hy := hone y
      simp only [pending] at hy ⊢
      omega
    · have hy := hone y
      simp only [pending] at hy ⊢
      omega

theorem Accounted.readEvents (h : s.Accounted sensors) {handle count : Int}
    {ws : List SensorDriver.Reads} {algo : Nat → HalEvent → Option (List Int)}
    (hp : s.Owned sensors (.readEvents handle count ws algo))
    (ht : s.step sensors (.readEvents handle count ws algo) = some t) :
    s.Settles sensors (.readEvents handle count ws algo) t := by
  obtain ⟨⟨r, hal⟩, hr, rfl⟩ := Option.map_eq_some_iff.mp ht
  have hreported := SensorsHal.readEvents_reported h.serves hp hr
  have hmanager := hreported.manager
  refine ⟨hreported.serves, fun y hy hv => ?_, ?_, fun y hy hr _ => ?_, fun y hy => ?_,
    fun y hy hr => ?_⟩
  · rw [hreported.enabled, hmanager]
    exact h.follows y hy hv
  · rw [hmanager]
    exact h.registered
  · exact ⟨hr.oneShot, hmanager ▸ hr.enable, (hreported.enabled y).trans hr.driver⟩
  · have hle := hreported.le y
    have hc := hreported.completes y hy
    simp only [pending] at hle hc ⊢
    split at hc <;> omega
  · have hle := hreported.le y
    have hc := hreported.completes y hy
    rw [if_pos ⟨hr.enable, hr.driver⟩] at hc
    simp only [pending] at hle hc ⊢
    omega

theorem Accounted.settles (h : s.Accounted sensors) (hb : sensors.Built) (hp : s.Owned sensors e)
    (ht : s.step sensors e = some t) : s.Settles sensors e t := by
  cases e with
  | activate handle enable opened =>
    obtain rfl := Option.some.inj ht
    exact h.activate hb handle enable opened
  | flush handle written => exact h.flush hb handle written ht
  | readEvents handle count ws algo => exact h.readEvents hp ht

theorem Accounted.next (h : s.Accounted sensors) (hs : s.Settles sensors e t) :
    t.Accounted sensors where
  serves := hs.serves
  follows := hs.follows
  registered := hs.registered
  balance x hx := by
    have hle := hs.le x hx
    have hold := h.balance x hx
    omega

theorem Accounted.run {es : List FlushCall} (h : s.Accounted sensors) (hb : sensors.Built)
    (hp : Runs.Along (step sensors) (Owned sensors) s es)
    (ht : Runs.play (step sensors) s es = some t) : t.Accounted sensors ∧
      ∀ x < sensors.mSensorCount, s.hal.Reports sensors x → (∀ e ∈ es, ¬e.Disables x) →
        t.hal.Reports sensors x ∧
          t.completed x + t.pending x + s.flushed x = s.completed x + s.pending x + t.flushed x := by
  induction es generalizing s with
  | nil =>
    obtain rfl := Option.some.inj ht
    exact ⟨h, fun x _ hr _ => ⟨hr, rfl⟩⟩
  | cons e es ih =>
    obtain ⟨u, hu, ht⟩ := Runs.play_cons.mp ht
    have hs := h.settles hb hp.head hu
    obtain ⟨hacc, hrest⟩ := ih (h.next hs) (hp.tail hu) ht
    refine ⟨hacc, fun x hx hr hd => ?_⟩
    have hru := hs.reports x hx hr (hd e (List.mem_cons_self ..))
    obtain ⟨hrt, hbal⟩ := hrest x hx hru fun f hf => hd f (List.mem_cons_of_mem _ hf)
    have hone := hs.balance x hx hr
    exact ⟨hrt, by omega⟩

theorem read_progress (hr : s.hal.Reports sensors x) (hx : x < sensors.mSensorCount)
    (he : e.Reads x) (hp : s.pending x ≠ 0) : ∃ t, s.step sensors e = some t ∧
      t.hal.Reports sensors x ∧
      t.pending x + (t.hal.driver x).early < s.pending x + (s.hal.driver x).early := by
  cases e with
  | activate | flush => cases he
  | readEvents handle count ws algo =>
    obtain ⟨hhandle, hcount, hws⟩ := he
    cases ws with
    | nil => cases hws rfl
    | cons w ws =>
      obtain ⟨es, d, hd, hen, hlt⟩ := SensorDriver.readEvents_progress w hr.driver hp hcount
      have hget := SensorList.getInfoByHandle_eq_some.mpr ⟨hx, hhandle⟩
      let u : SensorsHal := { s.hal with driver := Function.update s.hal.driver x d }
      obtain ⟨hm, hi⟩ := SensorsHal.injectAll_keeps (s := u)
        (I := fun y d => d.mEnabled = (u.driver y).mEnabled ∧
          d.mHasPendingMetadata = (u.driver y).mHasPendingMetadata ∧ d.early = (u.driver y).early)
        (fun y d a c hd => by
          obtain ⟨h₁, h₂, h₃⟩ := SensorDriver.injectEvent_keeps a c d
          exact ⟨h₁.trans hd.1, h₂.trans hd.2.1, h₃.trans hd.2.2⟩) x algo es
        fun y => ⟨rfl, rfl, rfl⟩
      obtain ⟨h₁, h₂, h₃⟩ := hi x
      have hux : u.driver x = d := Function.update_self ..
      rw [hux] at h₁ h₂ h₃
      refine ⟨_, Option.map_eq_some_iff.mpr ⟨(u.gated x (.ok es), es.foldl
        (SensorsHal.inject x algo) u), ?_, rfl⟩, ⟨hr.oneShot, ?_, ?_⟩, ?_⟩
      · simp only [SensorsHal.readEvents, hget, SensorsHal.readDriver, hd]
        rfl
      · rw [hm]
        exact hr.enable
      · rw [h₁, hen]
        exact hr.driver
      · simp only [pending] at hlt ⊢
        omega

theorem drained (hx : x < sensors.mSensorCount) (hr : s.hal.Reports sensors x)
    {reads : List FlushCall} (hreads : ∀ e ∈ reads, e.Reads x)
    (hn : s.pending x + (s.hal.driver x).early ≤ reads.length) : ∃ pre post t,
      reads = pre ++ post ∧ Runs.play (step sensors) s pre = some t ∧ t.pending x = 0 := by
  induction reads generalizing s with
  | nil => exact ⟨[], [], s, rfl, rfl, by simp at hn; omega⟩
  | cons e reads ih =>
    by_cases hp : s.pending x = 0
    · exact ⟨[], e :: reads, s, rfl, rfl, hp⟩
    · obtain ⟨u, hu, hru, hlt⟩ := read_progress hr hx (hreads e (List.mem_cons_self ..)) hp
      have hn' : u.pending x + (u.hal.driver x).early ≤ reads.length := by
        simp only [List.length_cons] at hn
        omega
      obtain ⟨pre, post, t, rfl, ht, hz⟩ := ih hru (fun f hf => hreads f (List.mem_cons_of_mem _ hf)) hn'
      exact ⟨e :: pre, post, t, rfl, Runs.play_cons.mpr ⟨u, hu, ht⟩, hz⟩

structure Fresh (sensors : SensorList) (hal : SensorsHal) : Prop where
  manager : hal.manager = .init
  serves : ∀ x < sensors.mSensorCount, (hal.driver x).Serves sensors x
  pending : ∀ x < sensors.mSensorCount, (hal.driver x).mHasPendingMetadata = 0
  off : ∀ x < sensors.mSensorCount, (sensors.info x).isVirtual = true →
    (hal.driver x).mEnabled = false

theorem Fresh.accounted {hal : SensorsHal} (h : Fresh sensors hal) :
    (init hal).Accounted sensors where
  serves := h.serves
  follows x hx hv := by
    simp [init, h.manager, NativeSensorManager.init, h.off x hx hv]
  registered := ⟨.init, by
    simp only [init, h.manager]
    exact ManagerRun.init_registered sensors⟩
  balance x hx := by simp [init, FlushRun.pending, h.pending x hx]

/-- What the comment in `SensorBase::flush` asks of a run: as many completions as flushes. -/
structure FlushesAnswered (sensors : SensorList) (hal : SensorsHal) (es : List FlushCall) :
    Prop where
  bounded : ∀ pre post s, es = pre ++ post → Runs.play (step sensors) (init hal) pre = some s →
    ∀ x < sensors.mSensorCount, s.completed x ≤ s.flushed x
  answered : ∀ pre mid post s t, es = pre ++ mid ++ post →
    Runs.play (step sensors) (init hal) pre = some s → Runs.play (step sensors) s mid = some t →
    ∀ x < sensors.mSensorCount, s.hal.Reports sensors x → (∀ e ∈ mid, ¬e.Disables x) →
      t.hal.Reports sensors x ∧
        t.completed x + t.pending x + s.flushed x = s.completed x + s.pending x + t.flushed x
  drained : ∀ pre post s, es = pre ++ post → Runs.play (step sensors) (init hal) pre = some s →
    ∀ x < sensors.mSensorCount, s.hal.Reports sensors x → ∀ reads : List FlushCall,
      (∀ e ∈ reads, e.Reads x) → s.pending x < reads.length → ∃ first rest t,
        reads = first ++ rest ∧ Runs.play (step sensors) s first = some t ∧ t.pending x = 0
  failed : ∀ pre handle written post s, es = pre ++ .flush handle written :: post →
    Runs.play (step sensors) (init hal) pre = some s →
    (s.hal.flush sensors handle written).1 ≠ 0 → (s.hal.flush sensors handle written).2 = s.hal
  refused : ∀ pre handle written post s, es = pre ++ .flush handle written :: post →
    Runs.play (step sensors) (init hal) pre = some s →
    (s.hal.flush sensors handle written).1 = 0 →
    ∃ x < sensors.mSensorCount, handle = sensorsHandle x ∧ s.hal.Reports sensors x

open ManagerRun (twoAndVirtual)

theorem twoAndVirtual_built : twoAndVirtual.Built where
  hardware x hx hv := by
    match x with
    | 0 => rfl
    | 1 => rfl
    | _ + 2 => cases hv
  virtual x hx hv := by
    match x with
    | 0 => cases hv
    | 1 => cases hv
    | _ + 2 => exact (by decide : ∀ hw ∈ [0, 1], hw < 3 ∧ (twoAndVirtual.info hw).isVirtual = false)

theorem idle_fresh : Fresh twoAndVirtual .idle where
  manager := rfl
  serves x hx := by
    match x with
    | 0 => exact ⟨rfl, rfl⟩
    | 1 => exact ⟨rfl, rfl⟩
    | 2 => exact ⟨rfl, rfl, by simp⟩
    | _ + 3 => exact absurd hx (by simp [twoAndVirtual])
  pending x hx := by
    match x with
    | 0 => rfl
    | 1 => rfl
    | _ + 2 => rfl
  off x hx hv := by
    match x with
    | 0 => cases hv
    | 1 => cases hv
    | _ + 2 => rfl

def flushOnce : List FlushCall :=
  [.activate 1 1 fun _ => some 0, .flush 1 fun _ => true,
    .readEvents 1 1 [⟨0, [], fun _ => .reading 0 0 []⟩] fun _ _ => none]

/-- The driver of the accelerometer runs for the virtual sensor only, and accepts a flush. -/
def flushShared : List FlushCall := [.activate 3 1 fun _ => some 0, .flush 1 fun _ => true]

end FlushRun

end Wt88047.Sensors
