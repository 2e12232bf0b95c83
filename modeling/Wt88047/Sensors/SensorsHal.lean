import Wt88047.Sensors.Activation
import Wt88047.Sensors.SensorDriver

/-! The manager with its drivers: enabling, flushing and reading a sensor. -/

namespace Wt88047.Sensors

structure SensorsHal where
  manager : NativeSensorManager
  driver : Nat → SensorDriver

namespace SensorsHal

def onDriver (x : Nat) (f : SensorDriver → SensorDriver) (s : SensorsHal) : SensorsHal :=
  { s with driver := Function.update s.driver x (f (s.driver x)) }

/-- `driver->enable` of context `x`, which finds its node open or not. -/
def driverEnable (x : Nat) (enabled : Int) (opened : Nat → Option Int) (s : SensorsHal) :
    SensorsHal :=
  { manager := s.manager.driverEnable x enabled
    driver := Function.update s.driver x ((s.driver x).enable enabled (opened x)) }

section Calls

variable (sensors : SensorList)

/-- `activateOn`, with the calls of the driver's `enable` that it makes. -/
def activateOn (list : Nat) (enable : Int) (opened : Nat → Option Int) (s : SensorsHal)
    (hw : Nat) : SensorsHal :=
  let s := { s with manager := s.manager.activateOn sensors list enable hw }
  if enable ≠ 0 then s.onDriver hw (·.enable 1 (opened hw))
  else if (s.manager.context hw).listener = [] then s.onDriver hw (·.enable 0 (opened hw))
  else s

def activate (handle enable : Int) (opened : Nat → Option Int) (s : SensorsHal) : SensorsHal :=
  match sensors.getInfoByHandle handle with
  | none => s
  | some list =>
    let s := { s with manager := s.manager.update list fun c => { c with enable := enable } }
    if (sensors.info list).oneShot then s.driverEnable list enable opened
    else
      let s := (sensors.info list).depList.foldl (activateOn sensors list enable opened) s
      if (sensors.info list).isVirtual then s.driverEnable list enable opened else s

def flushAll (written : Nat → Bool) : List Nat → SensorsHal → Int × SensorsHal
  | [], s => (0, s)
  | x :: xs, s =>
    let r := (s.driver x).flush (sensors.info x) (written x)
    let s := { s with driver := Function.update s.driver x r.2 }
    if r.1 ≠ 0 then (r.1, s) else flushAll written xs s

def flush (handle : Int) (written : Nat → Bool) (s : SensorsHal) : Int × SensorsHal :=
  match sensors.getInfoByHandle handle with
  | none => (einval, s)
  | some list =>
    if (sensors.info list).oneShot then (einval, s)
    else if (sensors.info list).isVirtual then flushAll sensors written [list] s
    else flushAll sensors written (sensors.info list).depList s

def inject (list : Nat) (algo : Nat → HalEvent → Option (List Int)) (s : SensorsHal)
    (e : HalEvent) : SensorsHal :=
  (s.manager.context list).listener.foldl (fun s x =>
    if (s.manager.context x).enable ≠ 0 ∧ x ≠ list then
      s.onDriver x (·.injectEvent e (algo x e))
    else s) s

/-- `-EAGAIN` and `-EINTR` -/
def retried (err : Int) : Prop := err = -11 ∨ err = -4

instance (err : Int) : Decidable (retried err) := inferInstanceAs (Decidable (_ ∨ _))

def readDriver (list : Nat) (count : Int) : List SensorDriver.Reads → SensorsHal →
    Option (Except Int (List HalEvent) × SensorsHal)
  | [], _ => none
  | w :: ws, s =>
    match (s.driver list).readEvents count w with
    | none => none
    | some (r, d) =>
      let s := { s with driver := Function.update s.driver list d }
      match r with
      | .error err => if retried err then readDriver list count ws s else some (.error err, s)
      | .ok es => some (.ok es, s)

/-- What `readEvents` returns for a sensor that is not enabled is nothing. -/
def gated (s : SensorsHal) (list : Nat) (r : Except Int (List HalEvent)) :
    Except Int (List HalEvent) :=
  if (s.manager.context list).enable ≠ 0 then r else .ok []

def readEvents (handle count : Int) (ws : List SensorDriver.Reads)
    (algo : Nat → HalEvent → Option (List Int)) (s : SensorsHal) :
    Option (Except Int (List HalEvent) × SensorsHal) :=
  match sensors.getInfoByHandle handle with
  | none => some (.error einval, s)
  | some list =>
    match s.readDriver list count ws with
    | none => none
    | some (.error err, s) => some (s.gated list (.error err), s)
    | some (.ok es, s) => some (s.gated list (.ok es), es.foldl (inject list algo) s)

def hasPendingEvents (handle : Int) (s : SensorsHal) : Bool :=
  match sensors.getInfoByHandle handle with
  | none => true
  | some list => (s.driver list).hasPendingEvents

end Calls

variable {sensors : SensorList} {s : SensorsHal}

theorem activateAll_manager (deps : List Nat) (list : Nat) (enable : Int)
    (opened : Nat → Option Int) (s : SensorsHal) :
    (deps.foldl (activateOn sensors list enable opened) s).manager =
      deps.foldl (fun m hw => m.activateOn sensors list enable hw) s.manager := by
  induction deps generalizing s with
  | nil => rfl
  | cons hw deps ih =>
    rw [List.foldl_cons, List.foldl_cons, ih]
    congr 1
    simp only [activateOn]
    split_ifs <;> rfl

theorem activate_manager (handle enable : Int) (opened : Nat → Option Int) (s : SensorsHal) :
    (s.activate sensors handle enable opened).manager =
      (s.manager.activate sensors handle enable).2 := by
  simp only [activate, NativeSensorManager.activate]
  cases sensors.getInfoByHandle handle with
  | none => rfl
  | some list =>
    dsimp only
    split_ifs
    · rfl
    · simp only [driverEnable, activateAll_manager]
    · simp only [activateAll_manager]

theorem activate_keeps {I : Nat → SensorDriver → Prop}
    (hI : ∀ x d en opened, I x d → I x (d.enable en opened)) (h : ∀ x, I x (s.driver x))
    (handle enable : Int) (opened : Nat → Option Int) (x : Nat) :
    I x ((s.activate sensors handle enable opened).driver x) := by
  have hone : ∀ (t : SensorsHal) (y : Nat) (en : Int), (∀ x, I x (t.driver x)) →
      ∀ x, I x (Function.update t.driver y ((t.driver y).enable en (opened y)) x) := by
    intro t y en ht x
    by_cases hx : x = y
    · subst hx
      rw [Function.update_self]
      exact hI x _ en _ (ht x)
    · rw [Function.update_of_ne hx]
      exact ht x
  have hall : ∀ (deps : List Nat) (list : Nat) (t : SensorsHal), (∀ x, I x (t.driver x)) →
      ∀ x, I x ((deps.foldl (activateOn sensors list enable opened) t).driver x) := by
    intro deps list
    induction deps with
    | nil => exact fun _ ht => ht
    | cons hw deps ih =>
      intro t ht
      apply ih
      intro x
      simp only [activateOn]
      split_ifs
      · exact hone _ hw 1 ht x
      · exact hone _ hw 0 ht x
      · exact ht x
  simp only [activate]
  cases sensors.getInfoByHandle handle with
  | none => exact h x
  | some list =>
    dsimp only
    have hstart := hall (sensors.info list).depList list
      ⟨s.manager.update list fun c => { c with enable := enable }, s.driver⟩ h
    split_ifs
    · exact hone ⟨s.manager.update list fun c => { c with enable := enable }, s.driver⟩
        list enable h x
    · exact hone _ list enable hstart x
    · exact hstart x

theorem activateAll_on {deps : List Nat} {list x : Nat} {enable : Int} {opened : Nat → Option Int}
    (hlisten : ∀ m : NativeSensorManager, ∀ hw, x ∈ (m.context x).listener →
      x ∈ ((m.activateOn sensors list enable hw).context x).listener)
    (hx : x ∈ (s.manager.context x).listener) (hon : (s.driver x).mEnabled = true) :
    ((deps.foldl (activateOn sensors list enable opened) s).driver x).mEnabled = true := by
  induction deps generalizing s with
  | nil => exact hon
  | cons hw deps ih =>
    rw [List.foldl_cons]
    have hl := hlisten s.manager hw hx
    have hmanager : (s.activateOn sensors list enable opened hw).manager =
        s.manager.activateOn sensors list enable hw := by
      simp only [activateOn]
      split_ifs <;> rfl
    refine ih (by rw [hmanager]; exact hl) ?_
    simp only [activateOn]
    by_cases hxh : x = hw
    · subst hxh
      split_ifs with he hnil
      · simp only [onDriver, Function.update_self]
        cases hd : s.driver x with
        | input d =>
          rw [hd] at hon
          simp only [SensorDriver.mEnabled] at hon
          simp only [SensorDriver.enable, SensorDriver.mEnabled, InputSensor.enable, hon]
          split_ifs <;> simp_all
        | virtual v =>
          rw [hd] at hon
          simp only [SensorDriver.mEnabled] at hon
          simp [SensorDriver.enable, SensorDriver.mEnabled, VirtualSensor.enable, hon]
      · rw [hnil] at hl
        cases hl
      · exact hon
    · split_ifs
      · simpa only [onDriver, Function.update_of_ne hxh] using hon
      · simpa only [onDriver, Function.update_of_ne hxh] using hon
      · exact hon

theorem flush_keeps {I : Nat → SensorDriver → Prop} (hI : ∀ x d, I x d → I x d.pendMetadata)
    (h : ∀ x, I x (s.driver x)) (handle : Int) (written : Nat → Bool) (x : Nat) :
    I x ((s.flush sensors handle written).2.driver x) := by
  have hall : ∀ (deps : List Nat) (t : SensorsHal), (∀ x, I x (t.driver x)) →
      ∀ x, I x ((flushAll sensors written deps t).2.driver x) := by
    intro deps
    induction deps with
    | nil => exact fun _ ht => ht
    | cons y deps ih =>
      intro t ht
      have hflush : I y ((t.driver y).flush (sensors.info y) (written y)).2 := by
        simp only [SensorDriver.flush]
        split_ifs
        · exact ht y
        · exact ht y
        · exact hI y _ (ht y)
      have hone : ∀ x, I x (Function.update t.driver y
          ((t.driver y).flush (sensors.info y) (written y)).2 x) := by
        intro x
        by_cases hx : x = y
        · subst hx
          rw [Function.update_self]
          exact hflush
        · rw [Function.update_of_ne hx]
          exact ht x
      simp only [flushAll]
      split_ifs
      · exact hone
      · exact ih _ hone
  simp only [flush]
  cases sensors.getInfoByHandle handle with
  | none => exact h x
  | some list =>
    dsimp only
    split_ifs
    · exact h x
    · exact hall [list] s h x
    · exact hall _ s h x

theorem readDriver_frame {list : Nat} {count : Int} {ws : List SensorDriver.Reads}
    {r : Except Int (List HalEvent)} {s' : SensorsHal}
    (h : s.readDriver list count ws = some (r, s')) :
    s' = { s with driver := Function.update s.driver list (s'.driver list) } := by
  induction ws generalizing s with
  | nil => cases h
  | cons w ws ih =>
    rw [readDriver] at h
    cases hr : (s.driver list).readEvents count w with
    | none =>
      rw [hr] at h
      cases h
    | some f =>
      obtain ⟨r₁, d⟩ := f
      rw [hr] at h
      have hend : some (r₁, { s with driver := Function.update s.driver list d }) = some (r, s') →
          s' = { s with driver := Function.update s.driver list (s'.driver list) } := by
        intro he
        obtain ⟨-, rfl⟩ := Prod.mk.inj (Option.some.inj he)
        simp only [Function.update_self]
      cases r₁ with
      | ok es => exact hend h
      | error err =>
        dsimp only at h
        split at h
        · exact (ih h).trans (by simp only [Function.update_idem])
        · exact hend h

def idleInput (kind : InputKind) (handle : Int) : InputSensor :=
  ⟨kind, handle, false, 0, false, false, false, 0, 0, 0, [0, 0, 0], .new 4 fun _ => ⟨0, 0, 0, 0⟩⟩

def idle : SensorsHal where
  manager := .init
  driver
    | 0 => .input (idleInput .accel 1)
    | 1 => .input (idleInput .gyro 2)
    | _ => .virtual ⟨3, false, 0, .reading 3 0 [], false, false, []⟩

end SensorsHal

end Wt88047.Sensors
