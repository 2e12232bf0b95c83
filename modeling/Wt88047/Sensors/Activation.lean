import Wt88047.Sensors.NativeSensorManager
import Mathlib.Data.List.Nodup
import Mathlib.Tactic.SplitIfs

/-! Who listens to a hardware sensor after any sequence of calls, and whether its driver is on. -/

namespace Wt88047.Sensors

structure Requests where
  enable : Nat → Int
  enabled : List Nat
  delay : Nat → Int

namespace Requests

def init : Requests := ⟨fun _ => 0, [], fun _ => 0⟩

def setEnabled (x : Nat) (enable : Int) (l : List Nat) : List Nat :=
  if enable ≠ 0 then if x ∈ l then l else l ++ [x] else l.erase x

def delayOf (sensors : SensorList) : ManagerCall → Option (Nat × Int)
  | .activate .. => none
  | .setDelay handle ns => (sensors.getInfoByHandle handle).bind fun x =>
    if ns = 0 ∨ (sensors.info x).oneShot then none else some (x, ns)
  | .batch handle sampleNs latencyNs =>
    if latencyNs ≠ 0 ∧ latencyNs < sampleNs then none
    else (sensors.getInfoByHandle handle).bind fun x =>
      if (sensors.info x).oneShot then none else some (x, sampleNs)

def record (sensors : SensorList) (r : Requests) (e : ManagerCall) : Requests :=
  match e with
  | .activate handle enable =>
    match sensors.getInfoByHandle handle with
    | none => r
    | some x => { r with
        enable := Function.update r.enable x enable
        enabled := if (sensors.info x).oneShot then r.enabled else setEnabled x enable r.enabled }
  | _ =>
    match delayOf sensors e with
    | none => r
    | some (x, ns) => { r with delay := Function.update r.delay x ns }

variable {x y : Nat} {enable : Int} {l : List Nat}

theorem mem_setEnabled (h : l.Nodup) :
    y ∈ setEnabled x enable l ↔ if y = x then enable ≠ 0 else y ∈ l := by
  unfold setEnabled
  by_cases hy : y = x
  · subst hy
    split_ifs <;> simp_all [h.not_mem_erase]
  · split_ifs with he hx
    · rfl
    · simp [hy]
    · exact List.mem_erase_of_ne hy

theorem setEnabled_nodup (h : l.Nodup) : (setEnabled x enable l).Nodup := by
  unfold setEnabled
  split_ifs with he hx
  · exact h
  · exact List.nodup_append.mpr ⟨h, List.nodup_singleton x, fun a ha b hb => by
      rintro rfl
      exact hx (List.mem_singleton.mp hb ▸ ha)⟩
  · exact h.erase x

theorem setEnabled_twice (h : l.Nodup) :
    setEnabled x enable (setEnabled x enable l) = setEnabled x enable l := by
  have hmem : x ∈ setEnabled x enable l ↔ enable ≠ 0 := by
    rw [mem_setEnabled h, if_pos rfl]
  generalize setEnabled x enable l = k at hmem
  unfold setEnabled
  split_ifs with he hx
  · rfl
  · exact absurd (hmem.mpr he) hx
  · exact List.erase_of_not_mem fun hx => he (hmem.mp hx)

theorem filter_setEnabled (h : l.Nodup) (p : Nat → Bool) : (setEnabled x enable l).filter p =
    if p x then setEnabled x enable (l.filter p) else l.filter p := by
  unfold setEnabled
  by_cases hp : p x = true
  · by_cases hx : x ∈ l
    · split_ifs <;> simp_all [h.erase_eq_filter, (h.filter p).erase_eq_filter, Bool.and_comm]
    · split_ifs <;> simp_all [List.erase_of_not_mem]
  · by_cases hx : x ∈ l
    · split_ifs
      · rfl
      · rw [h.erase_eq_filter, List.filter_filter]
        apply List.filter_congr
        intro y _
        by_cases hy : y = x
        · subst hy
          simp [hp]
        · simp [hy]
    · split_ifs <;> simp_all [List.erase_of_not_mem]

end Requests

namespace NativeSensorManager

open Requests (setEnabled)

variable {sensors : SensorList} {m : NativeSensorManager} {x hw i : Nat} {enable : Int}

@[simp] theorem syncDelay_context : (m.syncDelay hw).context = m.context := by
  unfold syncDelay
  split <;> rfl

@[simp] theorem syncLatency_context : (m.syncLatency sensors hw).context = m.context := by
  unfold syncLatency
  split
  · rfl
  · dsimp only
    split_ifs <;> rfl

@[simp] theorem driverEnable_context : (m.driverEnable hw enable).context = m.context := rfl

@[simp] theorem syncDelay_enable : ((m.syncDelay hw).driver i).enable = (m.driver i).enable := by
  unfold syncDelay
  split
  · rfl
  · by_cases hi : i = hw
    · subst hi
      simp [tell]
    · simp [tell, hi]

@[simp] theorem syncLatency_driver : ((m.syncLatency sensors hw).driver i).enable =
    (m.driver i).enable ∧ ((m.syncLatency sensors hw).driver i).setDelay =
      (m.driver i).setDelay := by
  unfold syncLatency
  split
  · exact ⟨rfl, rfl⟩
  · dsimp only
    split_ifs
    · by_cases hi : i = hw
      · subst hi
        simp [tell]
      · simp [tell, hi]
    · exact ⟨rfl, rfl⟩

theorem driverEnable_driver : (m.driverEnable hw enable).driver i =
    if i = hw then { m.driver hw with enable := some enable } else m.driver i := by
  by_cases hi : i = hw
  · subst hi
    simp [driverEnable, tell]
  · simp [driverEnable, tell, hi]

def setListener (hw : Nat) (l : List Nat) (m : NativeSensorManager) : NativeSensorManager :=
  m.update hw fun c => { c with listener := l }

theorem setListener_self : m.setListener hw (m.context hw).listener = m := by
  simp [setListener, update]

theorem registerListener_eq (h : enable ≠ 0) : (m.registerListener hw x).2 =
    m.setListener hw (setEnabled x enable (m.context hw).listener) := by
  have hhandle : ∀ y, sensorsHandle y = sensorsHandle x ↔ y = x := by
    intro y
    simp only [sensorsHandle]
    omega
  have hany : ((m.context hw).listener.any fun y => sensorsHandle y = sensorsHandle x) = true ↔
      x ∈ (m.context hw).listener := by
    simp [hhandle]
  unfold registerListener
  split_ifs with hreg
  · rw [setEnabled, if_pos h, if_pos (hany.mp hreg), setListener_self]
  · rw [setEnabled, if_pos h, if_neg (fun hx => hreg (hany.mpr hx))]
    rfl

theorem unregisterListener_eq (h : enable = 0) : (m.unregisterListener hw x).2 =
    m.setListener hw (setEnabled x enable (m.context hw).listener) := by
  unfold unregisterListener
  rw [setEnabled, if_neg (not_not.mpr h)]
  split_ifs with hreg
  · rfl
  · rw [List.erase_of_not_mem hreg, setListener_self]

theorem syncDelay_nil (h : (m.context hw).listener = []) : m.syncDelay hw = m := by
  simp only [syncDelay, h]

theorem syncLatency_nil (h : (m.context hw).listener = []) : m.syncLatency sensors hw = m := by
  simp only [syncLatency, h]

theorem activateOn_eq : m.activateOn sensors x enable hw =
    let m' := m.setListener hw (setEnabled x enable (m.context hw).listener)
    if enable ≠ 0 then ((m'.syncLatency sensors hw).driverEnable hw 1).syncDelay hw
    else
      let m'' := (m'.syncDelay hw).syncLatency sensors hw
      if setEnabled x enable (m.context hw).listener = [] then m''.driverEnable hw 0 else m'' := by
  have hset : ∀ l, ((m.setListener hw l).context hw).listener = l := by
    intro l
    simp [setListener, update]
  unfold activateOn
  by_cases he : enable = 0
  · rw [if_neg (not_not.mpr he), unregisterListener_eq he]
    dsimp only
    rw [if_neg (not_not.mpr he)]
    by_cases hl : (m.context hw).listener = []
    · have hnil : setEnabled x enable (m.context hw).listener = [] := by simp [hl, setEnabled, he]
      have hsame : m.setListener hw [] = m := by rw [← hl, setListener_self]
      rw [hnil, hsame, if_neg (not_not.mpr hl), if_pos hl, if_pos rfl, syncDelay_nil hl,
        syncLatency_nil hl]
    · rw [if_pos hl, syncLatency_context, syncDelay_context, hset]
  · rw [if_pos he, registerListener_eq he]
    rw [if_pos he]

theorem activateOn_context : (m.activateOn sensors x enable hw).context i =
    if i = hw then
      { m.context hw with listener := setEnabled x enable (m.context hw).listener }
    else m.context i := by
  have hset : (m.setListener hw (setEnabled x enable (m.context hw).listener)).context i =
      if i = hw then
        { m.context hw with listener := setEnabled x enable (m.context hw).listener }
      else m.context i := by
    by_cases hi : i = hw
    · subst hi
      simp [setListener, update]
    · simp [setListener, update, hi]
  rw [activateOn_eq, ← hset]
  split_ifs <;> simp

theorem activateOn_enable : ((m.activateOn sensors x enable hw).driver i).enable =
    if i = hw then
      if enable ≠ 0 then some 1
      else if setEnabled x enable (m.context hw).listener = [] then some 0
      else (m.driver hw).enable
    else (m.driver i).enable := by
  have hset : (m.setListener hw (setEnabled x enable (m.context hw).listener)).driver =
      m.driver := rfl
  rw [activateOn_eq]
  by_cases hi : i = hw
  · subst hi
    rw [if_pos rfl]
    split_ifs <;> simp [driverEnable_driver, hset]
  · split_ifs <;> simp [driverEnable_driver, hset, hi]

section Dependencies

variable (deps : List Nat)

theorem activateAll_context (sensors : SensorList) (x : Nat) (enable : Int)
    (hn : ∀ i, (m.context i).listener.Nodup) (i : Nat) :
    (deps.foldl (fun m hw => m.activateOn sensors x enable hw) m).context i =
      if i ∈ deps then { m.context i with listener := setEnabled x enable (m.context i).listener }
      else m.context i := by
  induction deps generalizing m with
  | nil => simp
  | cons hw deps ih =>
    rw [List.foldl_cons, ih]
    · rw [activateOn_context]
      by_cases hi : i = hw
      · subst hi
        simp [Requests.setEnabled_twice (hn i)]
      · simp [hi]
    · intro j
      rw [activateOn_context]
      split_ifs
      · exact Requests.setEnabled_nodup (hn hw)
      · exact hn j

def OnAt (i : Nat) (m : NativeSensorManager) : Prop :=
  (m.driver i).enable = some 1 ↔ (m.context i).listener ≠ []

theorem OnAt.activateOn (h : m.OnAt i) : (m.activateOn sensors x enable hw).OnAt i := by
  unfold OnAt
  rw [activateOn_context, activateOn_enable]
  by_cases hi : i = hw
  · subst hi
    simp only [if_true]
    split_ifs with he hl
    · have hne : setEnabled x enable (m.context i).listener ≠ [] := by
        unfold setEnabled
        split_ifs with hx
        · exact List.ne_nil_of_mem hx
        · simp
      exact ⟨fun _ => hne, fun _ => rfl⟩
    · simp [hl]
    · have hold : (m.context i).listener ≠ [] := by
        intro hnil
        exact hl (by simp [setEnabled, he, hnil])
      exact ⟨fun _ => hl, fun _ => h.mpr hold⟩
  · simp only [hi, if_false]
    exact h

theorem OnAt.congr {n : NativeSensorManager} (h : m.OnAt i) (hd : n.driver i = m.driver i)
    (hc : (n.context i).listener = (m.context i).listener) : n.OnAt i := by
  unfold OnAt
  rw [hd, hc]
  exact h

theorem OnAt.driverEnable {y : Nat} (h : m.OnAt i) (hi : i ≠ y) : (m.driverEnable y enable).OnAt i :=
  h.congr (by rw [driverEnable_driver, if_neg hi]) rfl

theorem OnAt.activateAll (sensors : SensorList) (x : Nat) (enable : Int) (h : m.OnAt i) :
    (deps.foldl (fun m hw => m.activateOn sensors x enable hw) m).OnAt i := by
  induction deps generalizing m with
  | nil => exact h
  | cons hw deps ih => exact ih h.activateOn

theorem syncAll_keeps {β : Type*} (g : NativeSensorManager → β)
    (f : NativeSensorManager → Nat → NativeSensorManager) (hf : ∀ m hw, g (f m hw) = g m) :
    g (deps.foldl f m) = g m := by
  induction deps generalizing m with
  | nil => rfl
  | cons hw deps ih => rw [List.foldl_cons, ih, hf]

end Dependencies

theorem getInfoByHandle_lt {handle : Int} (h : sensors.getInfoByHandle handle = some x) :
    x < sensors.mSensorCount :=
  List.mem_range.mp (List.mem_of_find?_eq_some h)

end NativeSensorManager

structure ManagerRun where
  manager : NativeSensorManager
  asked : Requests

namespace ManagerRun

def init : ManagerRun := ⟨.init, .init⟩

def step (sensors : SensorList) (s : ManagerRun) (e : ManagerCall) : Option ManagerRun :=
  some ⟨(s.manager.call sensors e).2, s.asked.record sensors e⟩

structure Registered (sensors : SensorList) (s : ManagerRun) : Prop where
  listener : ∀ i, (s.manager.context i).listener =
    s.asked.enabled.filter fun x => i ∈ (sensors.info x).depList
  nodup : s.asked.enabled.Nodup
  enabled : ∀ x, x ∈ s.asked.enabled ↔
    x < sensors.mSensorCount ∧ (sensors.info x).oneShot = false ∧ s.asked.enable x ≠ 0
  flag : ∀ x, (s.manager.context x).enable = s.asked.enable x
  driver : ∀ i, (sensors.info i).isVirtual = false → (sensors.info i).oneShot = false →
    s.manager.OnAt i

variable {sensors : SensorList} {s : ManagerRun}

theorem init_registered (sensors : SensorList) : init.Registered sensors where
  listener _ := rfl
  nodup := List.nodup_nil
  enabled x := by simp [init, Requests.init]
  flag _ := rfl
  driver i _ _ := by simp [NativeSensorManager.OnAt, init, NativeSensorManager.init]

theorem Registered.activate (h : s.Registered sensors) (handle enable : Int) :
    (ManagerRun.mk (s.manager.activate sensors handle enable).2
      (s.asked.record sensors (.activate handle enable))).Registered sensors := by
  cases hx : sensors.getInfoByHandle handle with
  | none => simpa only [NativeSensorManager.activate, Requests.record, hx] using h
  | some x =>
    have hlt := NativeSensorManager.getInfoByHandle_lt hx
    -- The flag is set before anything else; the lists are still those of the calls before.
    let m := s.manager.update x fun c => { c with enable := enable }
    have hm : ∀ i, m.context i =
        if i = x then { s.manager.context x with enable := enable } else s.manager.context i := by
      intro i
      by_cases hi : i = x
      · subst hi
        simp [m, NativeSensorManager.update]
      · simp [m, NativeSensorManager.update, hi]
    have hlist : ∀ i, (m.context i).listener = (s.manager.context i).listener := by
      intro i
      rw [hm]
      split_ifs with hi
      · rw [hi]
      · rfl
    have hflag : ∀ i, (m.context i).enable = Function.update s.asked.enable x enable i := by
      intro i
      rw [hm]
      by_cases hi : i = x
      · subst hi
        simp
      · simp [hi, h.flag]
    have hon : ∀ i, (sensors.info i).isVirtual = false → (sensors.info i).oneShot = false →
        m.OnAt i := by
      intro i hv ho
      exact (h.driver i hv ho).congr rfl (hlist i)
    simp only [NativeSensorManager.activate, Requests.record, hx]
    by_cases hone : (sensors.info x).oneShot = true
    · rw [if_pos hone, if_pos hone]
      refine ⟨fun i => (hlist i).trans (h.listener i), h.nodup, fun y => ?_, hflag,
        fun i hv ho => ?_⟩
      · rw [h.enabled]
        by_cases hy : y = x
        · subst hy
          simp [hone]
        · simp [hy]
      · have hi : i ≠ x := by
          rintro rfl
          rw [hone] at ho
          cases ho
        exact (hon i hv ho).driverEnable hi
    · rw [if_neg hone, if_neg hone]
      have hnodup : ∀ i, (m.context i).listener.Nodup := by
        intro i
        rw [hlist, h.listener]
        exact h.nodup.filter _
      have hall := NativeSensorManager.activateAll_context (sensors.info x).depList sensors x enable
        hnodup
      have hcontext : ∀ v : Bool, ∀ n : NativeSensorManager,
          (if v then n.driverEnable x enable else n).context = n.context := by
        intro v n
        cases v <;> rfl
      refine ⟨fun i => ?_, Requests.setEnabled_nodup h.nodup, fun y => ?_, fun i => ?_,
        fun i hv ho => ?_⟩
      · rw [hcontext, hall, Requests.filter_setEnabled h.nodup]
        split_ifs <;> simp_all [h.listener]
      · rw [Requests.mem_setEnabled h.nodup, h.enabled]
        by_cases hy : y = x
        · subst hy
          simp [hlt, hone]
        · simp [hy]
      · refine Eq.trans ?_ (hflag i)
        rw [hcontext, hall]
        split_ifs <;> rfl
      · have hd := (hon i hv ho).activateAll (sensors.info x).depList sensors x enable
        by_cases hvx : (sensors.info x).isVirtual = true
        · have hi : i ≠ x := by
            rintro rfl
            rw [hvx] at hv
            cases hv
          rw [if_pos hvx]
          exact hd.driverEnable hi
        · rw [if_neg hvx]
          exact hd

structure Keeps (s u : ManagerRun) : Prop where
  listener : ∀ i, (u.manager.context i).listener = (s.manager.context i).listener
  flag : ∀ i, (u.manager.context i).enable = (s.manager.context i).enable
  driver : ∀ i, (u.manager.driver i).enable = (s.manager.driver i).enable
  enabled : u.asked.enabled = s.asked.enabled
  enable : u.asked.enable = s.asked.enable

theorem Registered.keeps {u : ManagerRun} (h : s.Registered sensors) (hk : s.Keeps u) :
    u.Registered sensors where
  listener i := by rw [hk.listener, hk.enabled, h.listener]
  nodup := by rw [hk.enabled]; exact h.nodup
  enabled x := by rw [hk.enabled, hk.enable]; exact h.enabled x
  flag x := by rw [hk.flag, hk.enable, h.flag]
  driver i hv ho := by
    unfold NativeSensorManager.OnAt
    rw [hk.driver, hk.listener]
    exact h.driver i hv ho

theorem record_delay (sensors : SensorList) (r : Requests) {e : ManagerCall}
    (he : ∀ handle enable, e ≠ .activate handle enable) :
    (r.record sensors e).enabled = r.enabled ∧ (r.record sensors e).enable = r.enable := by
  cases e with
  | activate handle enable => exact absurd rfl (he handle enable)
  | setDelay handle ns =>
    simp only [Requests.record]
    split <;> exact ⟨rfl, rfl⟩
  | batch handle sampleNs latencyNs =>
    simp only [Requests.record]
    split <;> exact ⟨rfl, rfl⟩

def storedNs (sensors : SensorList) (x : Nat) : ManagerCall → Int
  | .activate .. => 0
  | .setDelay _ ns =>
    let minNs := NativeSensorManager.minDelayNs (sensors.info x).minDelay
    if ns < minNs then minNs else ns
  | .batch _ sampleNs _ => sampleNs

theorem call_cases (m : NativeSensorManager) {e : ManagerCall}
    (he : ∀ handle enable, e ≠ .activate handle enable) :
    (Requests.delayOf sensors e = none ∧ (m.call sensors e).2 = m) ∨
      ∃ x ns f g, Requests.delayOf sensors e = some (x, ns) ∧
        (m.call sensors e).2 = (sensors.info x).depList.foldl g (m.update x f) ∧
        (∀ c : SensorContext, (f c).listener = c.listener ∧ (f c).enable = c.enable ∧
          (f c).delayNs = storedNs sensors x e) ∧
        ∀ m hw, g m hw = m.syncDelay hw ∨ g m hw = (m.syncDelay hw).syncLatency sensors hw := by
  cases e with
  | activate handle enable => exact absurd rfl (he handle enable)
  | setDelay handle ns =>
    simp only [NativeSensorManager.call, NativeSensorManager.setDelay, Requests.delayOf]
    cases hx : sensors.getInfoByHandle handle with
    | none => exact Or.inl ⟨rfl, rfl⟩
    | some x =>
      dsimp only [Option.bind_some]
      by_cases h0 : ns = 0
      · exact Or.inl ⟨by rw [if_pos (Or.inl h0)], by rw [if_pos h0]⟩
      · by_cases hone : (sensors.info x).oneShot = true
        · exact Or.inl ⟨by rw [if_pos (Or.inr hone)], by rw [if_neg h0, if_pos hone]⟩
        · rw [if_neg h0, if_neg hone, if_neg (by simp [h0, hone])]
          exact Or.inr ⟨x, ns, _, _, rfl, rfl, fun _ => ⟨rfl, rfl, rfl⟩, fun _ _ => Or.inl rfl⟩
  | batch handle sampleNs latencyNs =>
    simp only [NativeSensorManager.call, NativeSensorManager.batch, Requests.delayOf]
    by_cases hl : latencyNs ≠ 0 ∧ latencyNs < sampleNs
    · exact Or.inl ⟨by rw [if_pos hl], by rw [if_pos hl]⟩
    · rw [if_neg hl, if_neg hl]
      cases hx : sensors.getInfoByHandle handle with
      | none => exact Or.inl ⟨rfl, rfl⟩
      | some x =>
        dsimp only [Option.bind_some]
        by_cases hone : (sensors.info x).oneShot = true
        · exact Or.inl ⟨by rw [if_pos hone], by rw [if_pos hone]⟩
        · rw [if_neg hone, if_neg hone]
          exact Or.inr ⟨x, sampleNs, _, _, rfl, rfl, fun _ => ⟨rfl, rfl, rfl⟩,
            fun _ _ => Or.inr rfl⟩

theorem call_keeps (s : ManagerRun) {e : ManagerCall}
    (he : ∀ handle enable, e ≠ .activate handle enable) :
    s.Keeps ⟨(s.manager.call sensors e).2, s.asked.record sensors e⟩ := by
  have hr := record_delay sensors s.asked he
  rcases call_cases s.manager he with ⟨-, hm⟩ | ⟨x, ns, f, g, -, hm, hf, hg⟩
  · exact ⟨fun i => by rw [hm], fun i => by rw [hm], fun i => by rw [hm], hr.1, hr.2⟩
  · have hcontext := NativeSensorManager.syncAll_keeps (m := s.manager.update x f)
      (sensors.info x).depList (·.context) g fun m hw => by
        rcases hg m hw with h | h <;> simp [h]
    have hdriver := fun i => NativeSensorManager.syncAll_keeps (m := s.manager.update x f)
      (sensors.info x).depList (fun m => (m.driver i).enable) g fun m hw => by
        rcases hg m hw with h | h <;> simp [h]
    have hupdate : ∀ i, ((s.manager.update x f).context i).listener =
        (s.manager.context i).listener ∧
        ((s.manager.update x f).context i).enable = (s.manager.context i).enable := by
      intro i
      by_cases hi : i = x
      · subst hi
        simp [NativeSensorManager.update, hf]
      · simp [NativeSensorManager.update, hi]
    exact ⟨fun i => by rw [hm, hcontext]; exact (hupdate i).1,
      fun i => by rw [hm, hcontext]; exact (hupdate i).2,
      fun i => by rw [hm]; exact hdriver i, hr.1, hr.2⟩

theorem step_registered (h : s.Registered sensors) {e : ManagerCall} {u : ManagerRun}
    (hu : s.step sensors e = some u) : u.Registered sensors := by
  obtain rfl := Option.some.inj hu
  cases e with
  | activate handle enable => exact h.activate handle enable
  | setDelay handle ns => exact h.keeps (call_keeps s (by simp))
  | batch handle sampleNs latencyNs => exact h.keeps (call_keeps s (by simp))

theorem play_registered {es : List ManagerCall} {u : ManagerRun}
    (h : Runs.play (step sensors) init es = some u) : u.Registered sensors :=
  Runs.play_invariant (I := Registered sensors) (P := fun _ _ => True)
    (fun _ _ _ hs _ hu => step_registered hs hu) (init_registered sensors)
    (Runs.Along.of_forall (fun _ _ _ => trivial) _) h

structure Activated (sensors : SensorList) (s : ManagerRun) : Prop where
  listener : ∀ i x, x ∈ (s.manager.context i).listener ↔
    x < sensors.mSensorCount ∧ i ∈ (sensors.info x).depList ∧ (s.manager.context x).enable ≠ 0
  once : ∀ i, (s.manager.context i).listener.Nodup
  driver : ∀ i, (sensors.info i).isVirtual = false →
    ((s.manager.driver i).enable = some 1 ↔ (s.manager.context i).listener ≠ [])
  flag : ∀ x, (s.manager.context x).enable = s.asked.enable x

theorem activation_consistent (sensors : SensorList)
    (hone : ∀ x, (sensors.info x).oneShot = false) (es : List ManagerCall) (s : ManagerRun)
    (h : Runs.play (step sensors) init es = some s) : s.Activated sensors := by
  have hr := play_registered h
  refine ⟨fun i x => ?_, fun i => ?_, fun i hv => hr.driver i hv (hone i), hr.flag⟩
  · rw [hr.listener, List.mem_filter, hr.enabled, hr.flag]
    simp only [hone, decide_eq_true_eq]
    constructor
    · rintro ⟨⟨hlt, -, he⟩, hd⟩
      exact ⟨hlt, hd, he⟩
    · rintro ⟨hlt, hd, he⟩
      exact ⟨⟨hlt, trivial, he⟩, hd⟩
  · rw [hr.listener]
    exact hr.nodup.filter _

def twoAndVirtual : SensorList where
  mSensorCount := 3
  info
    | 0 => ⟨false, false, 10000, 0, [0]⟩
    | 1 => ⟨false, false, 10000, 0, [1]⟩
    | _ => ⟨false, true, 20000, 0, [0, 1]⟩

def sharedRun : List ManagerCall :=
  [.activate 1 1, .activate 3 1, .activate 3 1, .activate 1 0]

theorem activation_consistent_shared : ∃ s, Runs.play (step twoAndVirtual) init sharedRun = some s ∧
    s.Activated twoAndVirtual :=
  ⟨_, rfl, activation_consistent twoAndVirtual (fun x => by
    match x with
    | 0 => rfl
    | 1 => rfl
    | _ + 2 => rfl) sharedRun _ rfl⟩

end ManagerRun

end Wt88047.Sensors
