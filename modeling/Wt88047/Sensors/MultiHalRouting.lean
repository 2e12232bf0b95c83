import Wt88047.Sensors.MultiHal
import Mathlib.Tactic.ByContra
import Mathlib.Tactic.SplitIfs
import Mathlib.Data.List.Nodup

/-! Which device a global handle leads to, and under which handle an event comes back. -/

namespace Wt88047.Sensors

def declared (modules : List HwModule) : List (Nat × SensorT) :=
  modules.zipIdx.flatMap fun m => m.1.sensors.map fun x => (m.2, x)

def fullHandle (d : Nat × SensorT) : FullHandle := ⟨d.1, d.2.handle⟩

structure HandleTable.Lists (t : HandleTable) (fs : List FullHandle) : Prop where
  next : t.nextGlobalHandle = fs.length + 1
  full : ∀ g, t.globalToFull g = if 1 ≤ g then fs[(g - 1).toNat]? else none
  latest : ∀ f g, t.fullToGlobal f = some g ↔ t.globalToFull g = some f ∧
    ∀ g', t.globalToFull g' = some f → g' ≤ g

namespace HandleTable.Lists

variable {t : HandleTable} {fs : List FullHandle} {g : Int} {f : FullHandle}

theorem empty : HandleTable.empty.Lists [] where
  next := rfl
  full g := by simp [HandleTable.empty]
  latest f g := by simp [HandleTable.empty]

theorem bounds (h : t.Lists fs) (hg : t.globalToFull g = some f) : 1 ≤ g ∧ g ≤ fs.length := by
  rw [h.full] at hg
  split_ifs at hg with hpos
  · obtain ⟨hlt, -⟩ := List.getElem?_eq_some_iff.mp hg
    omega

theorem at_index (h : t.Lists fs) {n : Nat} (hn : fs[n]? = some f) :
    t.globalToFull (n + 1) = some f := by
  rw [h.full, if_pos (by omega), show ((n : Int) + 1 - 1).toNat = n by omega, hn]

theorem assign (h : t.Lists fs) (i : Nat) (l : Int) :
    (t.assignGlobalHandle i l).1 = fs.length + 1 ∧
      (t.assignGlobalHandle i l).2.Lists (fs ++ [⟨i, l⟩]) := by
  have hnext := h.next
  have hnew : t.globalToFull t.nextGlobalHandle = none := by
    cases hg : t.globalToFull t.nextGlobalHandle with
    | none => rfl
    | some f =>
      have hb := h.bounds hg
      omega
  have hsame : ∀ g f, f ≠ ⟨i, l⟩ →
      ((t.assignGlobalHandle i l).2.globalToFull g = some f ↔ t.globalToFull g = some f) := by
    intro g f hf
    by_cases hg : g = t.nextGlobalHandle
    · subst hg
      rw [hnew]
      simp [assignGlobalHandle, Ne.symm hf]
    · simp only [assignGlobalHandle, Function.update_of_ne hg]
  have hself : (t.assignGlobalHandle i l).2.globalToFull t.nextGlobalHandle = some ⟨i, l⟩ :=
    Function.update_self ..
  have hle : ∀ g f, (t.assignGlobalHandle i l).2.globalToFull g = some f →
      g ≤ t.nextGlobalHandle := by
    intro g f hg
    by_cases hne : g = t.nextGlobalHandle
    · omega
    · simp only [assignGlobalHandle, Function.update_of_ne hne] at hg
      have hb := h.bounds hg
      omega
  refine ⟨hnext, ?_, fun g => ?_, fun f g => ?_⟩
  · simp [assignGlobalHandle, hnext]
  · by_cases hg : g = t.nextGlobalHandle
    · subst hg
      rw [hself, if_pos (by omega), show (t.nextGlobalHandle - 1).toNat = fs.length by omega]
      simp
    · simp only [assignGlobalHandle, Function.update_of_ne hg, h.full]
      split_ifs with hpos
      · by_cases hlt : (g - 1).toNat < fs.length
        · rw [List.getElem?_append_left hlt]
        · rw [List.getElem?_eq_none (by omega), List.getElem?_eq_none (by simp; omega)]
      · rfl
  · by_cases hf : f = ⟨i, l⟩
    · subst hf
      have hfound : (t.assignGlobalHandle i l).2.fullToGlobal ⟨i, l⟩ = some t.nextGlobalHandle :=
        Function.update_self ..
      rw [hfound, Option.some.injEq]
      constructor
      · rintro rfl
        exact ⟨hself, fun g' hg' => hle g' _ hg'⟩
      · rintro ⟨hg, hlast⟩
        exact le_antisymm (hlast _ hself) (hle g _ hg)
    · have hfound : (t.assignGlobalHandle i l).2.fullToGlobal f = t.fullToGlobal f :=
        Function.update_of_ne hf ..
      rw [hfound, h.latest, hsame g f hf]
      simp only [hsame _ f hf]

theorem inverse (h : t.Lists fs) (hfs : fs.Nodup) :
    t.fullToGlobal f = some g ↔ t.globalToFull g = some f := by
  rw [h.latest]
  refine ⟨And.left, fun hg => ⟨hg, fun g' hg' => ?_⟩⟩
  have hb := h.bounds hg
  have hb' := h.bounds hg'
  rw [h.full, if_pos hb.1] at hg
  rw [h.full, if_pos hb'.1] at hg'
  obtain ⟨hlt, hg⟩ := List.getElem?_eq_some_iff.mp hg
  obtain ⟨hlt', hg'⟩ := List.getElem?_eq_some_iff.mp hg'
  have heq := (List.Nodup.getElem_inj_iff hfs).mp (hg.trans hg'.symm)
  omega

theorem one_to_one (h : t.Lists fs) :
    (∀ g g' f, t.globalToFull g = some f → t.globalToFull g' = some f → g = g') ↔ fs.Nodup := by
  constructor
  · intro hinj
    rw [List.nodup_iff_getElem?_ne_getElem?]
    intro a b hab hb heq
    have hb' : fs[b]? = some fs[b] := List.getElem?_eq_getElem hb
    have := hinj _ _ _ (h.at_index (heq.trans hb')) (h.at_index hb')
    omega
  · intro hfs g g' f hg hg'
    exact Option.some.inj (((h.inverse hfs).mpr hg).symm.trans ((h.inverse hfs).mpr hg'))

end HandleTable.Lists

namespace MultiHal

def Listed (fs : List FullHandle) (acc : HandleTable × List SensorT) : Prop :=
  acc.1.Lists fs ∧ acc.2.map (·.handle) = (List.range fs.length).map fun (n : Nat) => (n : Int) + 1

section SensorsList

variable {versions : Option (List (Nat × Int))} {acc u : HandleTable × List SensorT}
  {fs : List FullHandle}

theorem fixSensorFlags_handle (version : Int) (x : SensorT) :
    (fixSensorFlags version x).handle = x.handle := by
  unfold fixSensorFlags
  split_ifs <;> rfl

theorem addSensor_listed (h : Listed fs acc) {m : HwModule × Nat} {x : SensorT}
    (hu : addSensor versions m acc x = some u) : Listed (fs ++ [fullHandle (m.2, x)]) u := by
  obtain ⟨ht, hl⟩ := h
  obtain ⟨hg, ht'⟩ := ht.assign m.2 x.handle
  simp only [addSensor, Option.map_eq_some_iff] at hu
  obtain ⟨version, -, rfl⟩ := hu
  refine ⟨ht', ?_⟩
  simp only [List.map_append, hl, List.map_cons, List.map_nil, fixSensorFlags_handle, hg,
    List.length_append, List.length_singleton, List.range_succ]

theorem addSensors_listed (m : HwModule × Nat) (xs : List SensorT) (h : Listed fs acc)
    (hu : xs.foldlM (addSensor versions m) acc = some u) :
    Listed (fs ++ xs.map fun x => fullHandle (m.2, x)) u := by
  induction xs generalizing fs acc with
  | nil =>
    obtain rfl := Option.some.inj hu
    simpa using h
  | cons x xs ih =>
    rw [List.foldlM_cons] at hu
    obtain ⟨v, hv, hu⟩ := Option.bind_eq_some_iff.mp hu
    simpa using ih (addSensor_listed h hv) hu

theorem addModules_listed (ms : List (HwModule × Nat)) (h : Listed fs acc)
    (hu : ms.foldlM (addModule versions) acc = some u) :
    Listed (fs ++ ms.flatMap fun m => m.1.sensors.map fun x => fullHandle (m.2, x)) u := by
  induction ms generalizing fs acc with
  | nil =>
    obtain rfl := Option.some.inj hu
    simpa using h
  | cons m ms ih =>
    rw [List.foldlM_cons] at hu
    obtain ⟨v, hv, hu⟩ := Option.bind_eq_some_iff.mp hu
    simpa using ih (addSensors_listed m m.1.sensors h hv) hu

end SensorsList

end MultiHal

namespace PollContext

structure Sound (ctx : PollContext) : Prop where
  ascending : ctx.subHwDevices.Pairwise fun d e => d.moduleIndex < e.moduleIndex
  queues : ctx.queues.length = ctx.subHwDevices.length
  next : ctx.nextReadIndex < ctx.queues.length ∨ ctx.queues = []

def deviceOf (ctx : PollContext) (i : Nat) : Option HwDevice :=
  ctx.subHwDevices.find? fun d => d.moduleIndex = i

def Gapless (ctx : PollContext) : Prop :=
  ∀ d ∈ ctx.subHwDevices, ∀ i < d.moduleIndex, ∃ e ∈ ctx.subHwDevices, e.moduleIndex = i

instance (ctx : PollContext) : Decidable ctx.Gapless :=
  inferInstanceAs (Decidable (∀ d ∈ ctx.subHwDevices, ∀ i < d.moduleIndex,
    ∃ e ∈ ctx.subHwDevices, e.moduleIndex = i))

section Devices

variable {ctx : PollContext}

theorem Sound.moduleIndex_eq (h : ctx.Sound) (hg : ctx.Gapless) (k : Nat)
    (hk : k < ctx.subHwDevices.length) : ctx.subHwDevices[k].moduleIndex = k := by
  induction k using Nat.strong_induction_on with
  | _ k ih =>
    have hasc := List.pairwise_iff_getElem.mp h.ascending
    -- Every index below that of the device belongs to another device, which stands before it.
    have hge : k ≤ ctx.subHwDevices[k].moduleIndex := by
      cases k with
      | zero => omega
      | succ j =>
        have hj := ih j (by omega) (by omega)
        have hlt := hasc j (j + 1) (by omega) hk (by omega)
        omega
    by_contra hne
    obtain ⟨e, he, hek⟩ := hg _ (List.getElem_mem hk) k (by omega)
    obtain ⟨j, hj, rfl⟩ := List.getElem_of_mem he
    rcases Nat.lt_trichotomy j k with hlt | rfl | hlt
    · have hjj := ih j hlt hj
      omega
    · omega
    · have hlt' := hasc k j hk hj hlt
      omega

theorem Sound.deviceOf_eq (h : ctx.Sound) (hg : ctx.Gapless) (i : Nat) :
    ctx.subHwDevices[i]? = ctx.deviceOf i := by
  cases hi : ctx.deviceOf i with
  | none =>
    rw [deviceOf, List.find?_eq_none] at hi
    apply List.getElem?_eq_none
    by_contra hle
    have hlt : i < ctx.subHwDevices.length := by omega
    exact hi _ (List.getElem_mem hlt) (by simpa using h.moduleIndex_eq hg i hlt)
  | some d =>
    have hmem := List.mem_of_find?_eq_some hi
    have hd : d.moduleIndex = i := by simpa using List.find?_some hi
    obtain ⟨k, hk, rfl⟩ := List.getElem_of_mem hmem
    have hmod := h.moduleIndex_eq hg k hk
    rw [hmod] at hd
    subst hd
    exact List.getElem?_eq_getElem hk

end Devices

theorem opened_sound (opened : Nat → Option Int) (modules : List HwModule) :
    (modules.zipIdx.foldl (MultiHal.openModule opened) (⟨[], [], 0⟩, [])).1.Sound := by
  have hfold : ∀ (ms : List HwModule) (n : Nat) (acc : PollContext × List (Nat × Int)),
      acc.1.subHwDevices.Pairwise (fun d e => d.moduleIndex < e.moduleIndex) →
      (∀ d ∈ acc.1.subHwDevices, d.moduleIndex < n) →
      acc.1.queues.length = acc.1.subHwDevices.length → acc.1.nextReadIndex = 0 →
      ((ms.zipIdx n).foldl (MultiHal.openModule opened) acc).1.Sound := by
    intro ms
    induction ms with
    | nil =>
      intro n acc hasc hlt hq hnext
      show acc.1.Sound
      refine ⟨hasc, hq, ?_⟩
      rw [hnext]
      cases hqs : acc.1.queues with
      | nil => exact Or.inr rfl
      | cons => exact Or.inl (by simp)
    | cons m ms ih =>
      intro n acc hasc hlt hq hnext
      rw [List.zipIdx_cons, List.foldl_cons]
      cases ho : opened n with
      | none =>
        rw [show MultiHal.openModule opened acc (m, n) = acc by simp [MultiHal.openModule, ho]]
        exact ih (n + 1) acc hasc (fun d hd => Nat.lt_succ_of_lt (hlt d hd)) hq hnext
      | some version =>
        simp only [MultiHal.openModule, ho]
        refine ih (n + 1) _ ?_ ?_ ?_ hnext
        · exact List.pairwise_append.mpr ⟨hasc, List.pairwise_singleton _ _,
            fun d hd e he => by
              obtain rfl := List.mem_singleton.mp he
              exact hlt d hd⟩
        · intro d hd
          rcases List.mem_append.mp hd with hd | hd
          · exact Nat.lt_succ_of_lt (hlt d hd)
          · obtain rfl := List.mem_singleton.mp hd
            exact Nat.lt_succ_self n
        · simp [addSubHwDevice, hq]
  exact hfold modules 0 _ List.Pairwise.nil (by simp) rfl rfl

end PollContext

def HandleTable.reported (t : HandleTable) (e : Nat × SensorsEvent) : Option SensorsEvent :=
  let dest := t.copyEventRemapHandle e.2 e.1
  if dest.sensor = -1 then none else some dest

def ofQueue (k : Nat) (es : List (Nat × SensorsEvent)) : List SensorsEvent :=
  (es.filter fun e => e.1 = k).map (·.2)

namespace Reading

structure Took (t : HandleTable) (start r : Reading) (es : List (Nat × SensorsEvent)) : Prop where
  queues : ∀ k, start.queues[k]? = r.queues[k]?.map (ofQueue k es ++ ·)
  data : r.data = start.data ++ es.filterMap t.reported

structure Passed (r : Reading) : Prop where
  next : r.nextReadIndex < r.queues.length ∨ r.queues = []
  empties : r.empties ≤ r.queues.length
  empty : ∀ j < r.empties,
    r.queues[(r.nextReadIndex + (r.queues.length - 1 - j)) % r.queues.length]? = some []

variable {t : HandleTable} {maxReads : Int} {start r u : Reading} {es : List (Nat × SensorsEvent)}

theorem flatten_set (qs : List (List SensorsEvent)) (k : Nat) (e : SensorsEvent)
    (rest : List SensorsEvent) (h : qs[k]? = some (e :: rest)) :
    (qs.set k rest).flatten.length + 1 = qs.flatten.length := by
  induction qs generalizing k with
  | nil => simp at h
  | cons q qs ih =>
    cases k with
    | zero =>
      obtain rfl : q = e :: rest := by simpa using h
      simp only [List.set_cons_zero, List.flatten_cons, List.length_append, List.length_cons]
      omega
    | succ k =>
      have hk := ih k (by simpa using h)
      simp only [List.set_cons_succ, List.flatten_cons, List.length_append]
      omega

theorem turn_cases (h : r.turn t maxReads = some u) : r.empties < r.queues.length ∧
    u.nextReadIndex = (r.nextReadIndex + 1) % r.queues.length ∧
    ((r.queues[r.nextReadIndex]? = some [] ∧ u.queues = r.queues ∧ u.data = r.data ∧
        u.empties = r.empties + 1) ∨
      ∃ event rest, r.queues[r.nextReadIndex]? = some (event :: rest) ∧
        u.queues = r.queues.set r.nextReadIndex rest ∧ u.empties = 0 ∧
        u.data = r.data ++ (t.reported (r.nextReadIndex, event)).toList) := by
  simp only [turn] at h
  split_ifs at h with hgo
  split at h
  · cases h
  · next hq =>
    obtain rfl := Option.some.inj h
    exact ⟨hgo.1, rfl, Or.inl ⟨hq, rfl, rfl, rfl⟩⟩
  · next event rest hq =>
    obtain rfl := Option.some.inj h
    refine ⟨hgo.1, rfl, Or.inr ⟨event, rest, hq, rfl, rfl, ?_⟩⟩
    simp only [HandleTable.reported]
    split_ifs
    · simp
    · rfl

theorem turn_variant (h : r.turn t maxReads = some u) : u.rounds < r.rounds := by
  obtain ⟨hlt, -, ⟨-, hq, -, he⟩ | ⟨event, rest, hr, hq, he, -⟩⟩ := turn_cases h
  · simp only [rounds, hq, he]
    omega
  · have hlen := flatten_set _ _ _ _ hr
    simp only [rounds, hq, he, List.length_set, ← hlen, Nat.add_mul]
    omega

theorem Took.turn (h : Took t start r es) (hu : r.turn t maxReads = some u) :
    ∃ es', Took t start u es' := by
  obtain ⟨-, -, ⟨-, hq, hd, -⟩ | ⟨event, rest, hr, hq, -, hd⟩⟩ := turn_cases hu
  · exact ⟨es, by rw [hq]; exact h.queues, by rw [hd]; exact h.data⟩
  · refine ⟨es ++ [(r.nextReadIndex, event)], fun k => ?_, ?_⟩
    · rw [h.queues k, hq]
      by_cases hk : r.nextReadIndex = k
      · subst hk
        rw [hr, List.getElem?_set_self (List.getElem?_eq_some_iff.mp hr).1]
        simp [ofQueue]
      · rw [List.getElem?_set_ne hk]
        simp [ofQueue, hk]
    · rw [hd, h.data, List.filterMap_append, List.append_assoc]
      cases hrep : t.reported (r.nextReadIndex, event) <;> simp [hrep]

theorem Passed.turn (h : r.Passed) (hu : r.turn t maxReads = some u) : u.Passed := by
  obtain ⟨hlt, hnext, ⟨hr, hq, -, he⟩ | ⟨event, rest, hr, hq, he, -⟩⟩ := turn_cases hu
  · have hn := (List.getElem?_eq_some_iff.mp hr).1
    refine ⟨Or.inl ?_, by rw [he, hq]; omega, fun j hj => ?_⟩
    · rw [hnext, hq]
      exact Nat.mod_lt _ (by omega)
    · rw [hnext, hq, Nat.mod_add_mod]
      cases j with
      | zero =>
        rw [show r.nextReadIndex + 1 + (r.queues.length - 1 - 0) =
          r.nextReadIndex + r.queues.length by omega, Nat.add_mod_right, Nat.mod_eq_of_lt hn, hr]
      | succ j =>
        rw [show r.nextReadIndex + 1 + (r.queues.length - 1 - (j + 1)) =
          r.nextReadIndex + (r.queues.length - 1 - j) by omega]
        exact h.empty j (by omega)
  · refine ⟨Or.inl ?_, by omega, fun j hj => by omega⟩
    rw [hnext, hq, List.length_set]
    exact Nat.mod_lt _ (by omega)

theorem Passed.ended (h : r.Passed) (hend : r.turn t maxReads = none)
    (hroom : (r.data.length : Int) < maxReads) : ∀ q ∈ r.queues, q = [] := by
  have hall : r.queues.length ≤ r.empties := by
    by_contra hlt
    rcases h.next with hn | hn
    · simp only [Reading.turn] at hend
      rw [if_pos ⟨by omega, hroom⟩, List.getElem?_eq_getElem hn] at hend
      cases hq : r.queues[r.nextReadIndex] <;> simp [hq] at hend
    · simp [hn] at hlt
  intro q hq
  obtain ⟨i, hi, rfl⟩ := List.getElem_of_mem hq
  rcases h.next with hn | hn
  · obtain ⟨d, hd⟩ : ∃ d, d = (i + r.queues.length - r.nextReadIndex) % r.queues.length := ⟨_, rfl⟩
    have hlt : d < r.queues.length := by
      rw [hd]
      exact Nat.mod_lt _ (by omega)
    have hpassed := h.empty (r.queues.length - 1 - d) (by omega)
    rw [show r.queues.length - 1 - (r.queues.length - 1 - d) = d by omega, hd, Nat.add_mod_mod,
      show r.nextReadIndex + (i + r.queues.length - r.nextReadIndex) =
        i + r.queues.length by omega, Nat.add_mod_right, Nat.mod_eq_of_lt hi,
      List.getElem?_eq_getElem hi] at hpassed
    exact Option.some.inj hpassed
  · simp [hn] at hi

end Reading

namespace PollContext

variable {ctx : PollContext}

/-- `poll` reports what it takes off the queues, in that order, and stops with events left only
when it has read as many as it may. -/
structure Polled (t : HandleTable) (maxReads : Int) (ctx : PollContext)
    (r : List SensorsEvent × PollContext) (es : List (Nat × SensorsEvent)) : Prop where
  queues : ∀ k, ctx.queues[k]? = r.2.queues[k]?.map (ofQueue k es ++ ·)
  data : r.1 = es.filterMap t.reported
  rest : (r.1.length : Int) < maxReads → ∀ q ∈ r.2.queues, q = []

theorem Sound.poll (h : ctx.Sound) (t : HandleTable) (maxReads : Int) :
    ∃ r es, ctx.poll t maxReads = some r ∧ r.2.Sound ∧ Polled t maxReads ctx r es := by
  let start : Reading := ⟨ctx.queues, ctx.nextReadIndex, 0, []⟩
  have htotal : ∃ r, Loop.run (Reading.turn t maxReads) start.rounds start = some r :=
    Loop.run_total (I := fun _ => True) (fun _ _ _ hu => ⟨trivial, Reading.turn_variant hu⟩)
      trivial (Nat.le_refl _)
  obtain ⟨r, hr⟩ := htotal
  obtain ⟨⟨es, htook⟩, hpassed⟩ := Loop.run_invariant
    (I := fun r => (∃ es, Reading.Took t start r es) ∧ r.Passed)
    (fun _ _ ⟨⟨_, htook⟩, hp⟩ hu => ⟨htook.turn hu, hp.turn hu⟩)
    ⟨⟨[], fun k => by simp [ofQueue], by simp⟩, h.next, Nat.zero_le _, fun j hj => by
      exact absurd hj (Nat.not_lt_zero j)⟩ hr
  have hend := (Loop.run_path hr).2
  have hlength : r.queues.length = ctx.queues.length := by
    apply Nat.le_antisymm
    · by_contra hlt
      have hk := htook.queues ctx.queues.length
      rw [List.getElem?_eq_none (Nat.le_refl _), List.getElem?_eq_getElem (by omega)] at hk
      cases hk
    · by_contra hlt
      have hk := htook.queues r.queues.length
      rw [List.getElem?_eq_none (Nat.le_refl r.queues.length),
        List.getElem?_eq_getElem (show r.queues.length < start.queues.length by
          show _ < ctx.queues.length
          omega)] at hk
      cases hk
  refine ⟨_, es, by rw [PollContext.poll, hr]; rfl, ⟨h.ascending, hlength.trans h.queues,
    hpassed.next⟩, htook.queues, by simpa [start] using htook.data, hpassed.ended hend⟩

end PollContext

def forward (reply : DeviceCall → Int) : Option DeviceCall → Int × List DeviceCall
  | some call => (reply call, [call])
  | none => (einval, [])

/-- Where the calls on global handle `g` go, for a sensor of module `i` with local handle `l`: to
the device of that module, if it opened. -/
structure Routes (t : HandleTable) (ctx : PollContext) (g : Int) (i : Nat) (l : Int) : Prop where
  activate : ∀ reply enabled, ctx.deviceActivate t reply g enabled =
    forward reply ((ctx.deviceOf i).map (.activate · l enabled))
  setDelay : ∀ reply ns, ctx.deviceSetDelay t reply g ns =
    forward reply ((ctx.deviceOf i).map (.setDelay · l ns))
  batch : ∀ reply flags periodNs timeout, ctx.deviceBatch t reply g flags periodNs timeout =
    forward reply ((ctx.deviceOf i).map (.setDelay · l periodNs))
  flush : ctx.deviceFlush g = (einval, [])
  inject : ∀ reply data, data.sensor = g → ∃ dev data', ctx.deviceInjectSensorData t reply data =
    forward reply (((ctx.deviceOf i).filter (apiVersion14 ≤ ·.version)).map
      (.injectSensorData · dev data'))

structure Refuses (t : HandleTable) (ctx : PollContext) (g : Int) : Prop where
  activate : ∀ reply enabled, ctx.deviceActivate t reply g enabled = (einval, [])
  setDelay : ∀ reply ns, ctx.deviceSetDelay t reply g ns = (einval, [])
  batch : ∀ reply flags periodNs timeout,
    ctx.deviceBatch t reply g flags periodNs timeout = (einval, [])
  flush : ctx.deviceFlush g = (einval, [])
  inject : ∀ reply data, data.sensor = g → ctx.deviceInjectSensorData t reply data = (einval, [])

def SensorsEvent.CarriesHandle (e : SensorsEvent) (l : Int) : Prop :=
  if e.type = metaData then e.metaDataSensor = l ∧ e.sensor ≠ -1 else e.sensor = l

def SensorsEvent.withHandle (e : SensorsEvent) (g : Int) : SensorsEvent :=
  if e.type = metaData then { e with metaDataSensor := g } else { e with sensor := g }

section Routing

variable {t : HandleTable} {ctx : PollContext} {g l : Int} {i : Nat}

theorem getDevice_eq (hg : t.globalToFull g = some ⟨i, l⟩) (hsound : ctx.Sound)
    (hgapless : ctx.Gapless) : ctx.getV0DeviceByHandle t g = ctx.deviceOf i := by
  simp only [PollContext.getV0DeviceByHandle, HandleTable.getModuleIndex, hg]
  rw [← hsound.deviceOf_eq hgapless]
  split_ifs with hout
  · rw [List.getElem?_eq_none (by omega)]
  · rfl

theorem routes (hg : t.globalToFull g = some ⟨i, l⟩) (hl : 0 ≤ l) (hsound : ctx.Sound)
    (hgapless : ctx.Gapless) : Routes t ctx g i l := by
  have hdevice := getDevice_eq hg hsound hgapless
  have hlocal : t.getLocalHandle g = l := by simp [HandleTable.getLocalHandle, hg]
  have hactivate : ∀ reply enabled, ctx.deviceActivate t reply g enabled =
      forward reply ((ctx.deviceOf i).map (.activate · l enabled)) := by
    intro reply enabled
    simp only [PollContext.deviceActivate, PollContext.activate, hdevice, hlocal]
    cases ctx.deviceOf i with
    | none => rfl
    | some d => simp [hl, forward]
  have hsetDelay : ∀ reply ns, ctx.setDelay t reply g ns =
      forward reply ((ctx.deviceOf i).map (.setDelay · l ns)) := by
    intro reply ns
    simp only [PollContext.setDelay, hdevice, hlocal]
    cases ctx.deviceOf i with
    | none => rfl
    | some d => simp [hl, forward]
  refine ⟨hactivate, hsetDelay, fun reply _ periodNs _ => hsetDelay reply periodNs, rfl, ?_⟩
  rintro reply data rfl
  refine ⟨none, data, ?_⟩
  simp only [PollContext.deviceInjectSensorData, PollContext.injectSensorData,
    PollContext.getV1DeviceByHandle, PollContext.halIsAPILevelCompliant,
    PollContext.getDeviceVersionByHandle, hdevice, hlocal]
  cases ctx.deviceOf i with
  | none => rfl
  | some d =>
    by_cases hversion : apiVersion14 ≤ d.version
    · have hset : d.version ≠ -1 := by
        unfold apiVersion14 at hversion
        omega
      simp [hversion, hset, hl, forward, Option.filter]
    · simp [hversion, forward, Option.filter]

theorem refuses (hg : t.globalToFull g = some ⟨i, l⟩) (hl : l < 0) (ctx : PollContext) :
    Refuses t ctx g := by
  have hlocal : t.getLocalHandle g = l := by simp [HandleTable.getLocalHandle, hg]
  have hneg : ¬ 0 ≤ l := by omega
  have hactivate : ∀ reply enabled, ctx.deviceActivate t reply g enabled = (einval, []) := by
    intro reply enabled
    simp only [PollContext.deviceActivate, PollContext.activate, hlocal]
    cases ctx.getV0DeviceByHandle t g <;> simp [hneg]
  have hsetDelay : ∀ reply ns, ctx.setDelay t reply g ns = (einval, []) := by
    intro reply ns
    simp only [PollContext.setDelay, hlocal]
    cases ctx.getV0DeviceByHandle t g <;> simp [hneg]
  refine ⟨hactivate, hsetDelay, fun reply _ periodNs _ => hsetDelay reply periodNs, rfl, ?_⟩
  rintro reply data rfl
  simp only [PollContext.deviceInjectSensorData, PollContext.injectSensorData, hlocal]
  cases ctx.getV1DeviceByHandle t data.sensor <;> simp [hneg]

theorem reported_under (hf : t.fullToGlobal ⟨i, l⟩ = some g) (hg : 1 ≤ g) {e : SensorsEvent}
    (he : e.CarriesHandle l) : t.reported (i, e) = some (e.withHandle g) := by
  have hne : g ≠ -1 := by omega
  unfold SensorsEvent.CarriesHandle at he
  by_cases hm : e.type = metaData
  · rw [if_pos hm] at he
    obtain ⟨rfl, hs⟩ := he
    simp [HandleTable.reported, HandleTable.copyEventRemapHandle, HandleTable.getGlobalHandle,
      SensorsEvent.withHandle, hm, hf, hs]
  · rw [if_neg hm] at he
    subst he
    simp [HandleTable.reported, HandleTable.copyEventRemapHandle, HandleTable.getGlobalHandle,
      SensorsEvent.withHandle, hm, hf, hne]

end Routing

namespace MultiHal

def fullHandles (modules : List HwModule) : List FullHandle := (declared modules).map fullHandle

/-- What the framework sees through a context once it has the list of sensors. -/
structure Routed (modules : List HwModule) (s : MultiHal) (list : List SensorT)
    (ctx : PollContext) : Prop where
  /-- The sensors stand in the list in the order of their declaration. -/
  handles : list.map (·.handle) =
    (List.range (declared modules).length).map fun (n : Nat) => (n : Int) + 1
  calls : ∀ (n i : Nat) (x : SensorT), (declared modules)[n]? = some (i, x) → 0 ≤ x.handle →
    Routes s.table ctx (n + 1) i x.handle
  refused : ∀ (n i : Nat) (x : SensorT), (declared modules)[n]? = some (i, x) → x.handle < 0 →
    Refuses s.table ctx (n + 1)
  devices : ∀ (k : Nat) (d : HwDevice), ctx.subHwDevices[k]? = some d → d.moduleIndex = k
  polls : ∀ maxReads, ∃ r es, ctx.poll s.table maxReads = some r ∧
    PollContext.Polled s.table maxReads ctx r es
  /-- Of several sensors with one local handle in a module, the last one gets the events. -/
  events : ∀ (n i : Nat) (x : SensorT), (declared modules)[n]? = some (i, x) →
    (∀ (m : Nat) (y : SensorT), (declared modules)[m]? = some (i, y) → y.handle = x.handle → m ≤ n) →
    ∀ e, e.CarriesHandle x.handle → s.table.reported (i, e) = some (e.withHandle (n + 1))
  oneToOne : (∀ g g' f, s.table.globalToFull g = some f → s.table.globalToFull g' = some f →
    g = g') ↔ (fullHandles modules).Nodup

structure Sound (modules : List HwModule) (s : MultiHal) : Prop where
  unlisted : s.globalSensorsList = none → s.table = .empty
  listed : ∀ list, s.globalSensorsList = some list → Listed (fullHandles modules) (s.table, list)
  context : ∀ c ctx, s.context c = some ctx → ctx.Sound

variable {modules : List HwModule} {s u : MultiHal}

theorem init_sound (modules : List HwModule) : init.Sound modules where
  unlisted _ := rfl
  listed _ h := by cases h
  context _ _ h := by cases h

theorem fullHandles_eq (modules : List HwModule) : fullHandles modules =
    modules.zipIdx.flatMap fun m => m.1.sensors.map fun x => fullHandle (m.2, x) := by
  simp [fullHandles, declared, List.map_flatMap, Function.comp_def]

theorem setContext_sound (h : s.Sound modules) {c : Nat} {x : Option PollContext}
    (hx : ∀ ctx, x = some ctx → ctx.Sound) (hlist : u.globalSensorsList = s.globalSensorsList)
    (htable : u.table = s.table) (hc : u.context = Function.update s.context c x) :
    u.Sound modules where
  unlisted hn := by
    rw [hlist] at hn
    rw [htable, h.unlisted hn]
  listed list hl := by
    rw [hlist] at hl
    rw [htable]
    exact h.listed list hl
  context c' ctx hctx := by
    rw [hc] at hctx
    by_cases hne : c' = c
    · rw [hne, Function.update_self] at hctx
      exact hx ctx hctx
    · rw [Function.update_of_ne hne] at hctx
      exact h.context c' ctx hctx

theorem step_sound (h : s.Sound modules) {e : MultiHalEvent} (hu : s.step modules e = some u) :
    u.Sound modules := by
  cases e with
  | openSensors opened =>
    obtain rfl := Option.some.inj hu
    refine setContext_sound h ?_ rfl rfl rfl
    rintro ctx hctx
    obtain rfl := Option.some.inj hctx
    exact PollContext.opened_sound opened modules
  | getSensorsList =>
    simp only [step, lazyInitSensorsList] at hu
    cases hl : s.globalSensorsList with
    | some list =>
      simp only [hl, Option.some.injEq] at hu
      rwa [← hu]
    | none =>
      simp only [hl, Option.map_eq_some_iff] at hu
      obtain ⟨acc, hacc, rfl⟩ := hu
      have hempty : Listed [] (s.table, ([] : List SensorT)) := by
        rw [h.unlisted hl]
        exact ⟨.empty, rfl⟩
      have hlisted := addModules_listed modules.zipIdx hempty hacc
      rw [List.nil_append, ← fullHandles_eq] at hlisted
      refine ⟨fun hn => (by cases hn), fun list hlist => ?_, h.context⟩
      obtain rfl := Option.some.inj hlist
      exact hlisted
  | writerTask c k events =>
    simp only [step, writerTask] at hu
    split at hu
    · cases hu
    · next ctx hctx =>
      split at hu
      · cases hu
      · next queue hq =>
        split_ifs at hu
        obtain rfl := Option.some.inj hu
        refine setContext_sound h ?_ rfl rfl rfl
        rintro ctx' hctx'
        obtain rfl := Option.some.inj hctx'
        have hs := h.context c ctx hctx
        refine ⟨hs.ascending, by simp [hs.queues], ?_⟩
        rcases hs.next with hn | hn
        · exact Or.inl (by simpa using hn)
        · simp [hn] at hq
  | poll c maxReads =>
    simp only [step, poll] at hu
    split at hu
    · cases hu
    · next ctx hctx =>
      obtain ⟨r, es, hr, hs, -⟩ := (h.context c ctx hctx).poll s.table maxReads
      rw [hr] at hu
      obtain rfl := Option.some.inj hu
      refine setContext_sound h ?_ rfl rfl rfl
      rintro ctx' hctx'
      obtain rfl := Option.some.inj hctx'
      exact hs
  | close c =>
    obtain rfl := Option.some.inj hu
    exact setContext_sound h (by simp) rfl rfl rfl

theorem handles_routed (modules : List HwModule) (es : List MultiHalEvent) (s : MultiHal)
    (list : List SensorT) (c : Nat) (ctx : PollContext)
    (h : Runs.play (step modules) init es = some s) (hlist : s.globalSensorsList = some list)
    (hctx : s.context c = some ctx) (hgapless : ctx.Gapless) : Routed modules s list ctx := by
  have hsound : s.Sound modules := Runs.play_invariant (I := Sound modules) (P := fun _ _ => True)
    (fun _ _ _ hs _ hu => step_sound hs hu) (init_sound modules)
    (Runs.Along.of_forall (fun _ _ _ => trivial) _) h
  obtain ⟨htable, hhandles⟩ := hsound.listed list hlist
  have hc := hsound.context c ctx hctx
  have hat : ∀ (n i : Nat) (x : SensorT), (declared modules)[n]? = some (i, x) →
      s.table.globalToFull (n + 1) = some ⟨i, x.handle⟩ := by
    intro n i x hn
    exact htable.at_index (by rw [fullHandles, List.getElem?_map, hn]; rfl)
  refine ⟨by simpa [fullHandles] using hhandles, ?_, ?_, ?_, ?_, ?_, htable.one_to_one⟩
  · exact fun n i x hn hx => routes (hat n i x hn) hx hc hgapless
  · exact fun n i x hn hx => refuses (hat n i x hn) hx ctx
  · intro k d hk
    obtain ⟨hlt, rfl⟩ := List.getElem?_eq_some_iff.mp hk
    exact hc.moduleIndex_eq hgapless k hlt
  · intro maxReads
    obtain ⟨r, es, hr, -, hpolled⟩ := hc.poll s.table maxReads
    exact ⟨r, es, hr, hpolled⟩
  · intro n i x hn hlast e he
    refine reported_under ((htable.latest _ _).mpr ⟨hat n i x hn, fun g hg => ?_⟩) (by omega) he
    have hb := htable.bounds hg
    rw [htable.full, if_pos hb.1, fullHandles, List.getElem?_map, Option.map_eq_some_iff] at hg
    obtain ⟨⟨j, y⟩, hy, heq⟩ := hg
    obtain ⟨rfl, hhandle⟩ := FullHandle.mk.inj heq
    have hle := hlast _ y hy hhandle
    omega

def twoHals : List HwModule :=
  [⟨0x10, [⟨3, 1, 0⟩]⟩, ⟨0x20, [⟨3, proximity, 0⟩, ⟨5, 2, 0⟩]⟩]

def bothOpen : List MultiHalEvent := [.openSensors fun _ => some apiVersion14, .getSensorsList]

theorem handles_routed_two : ∃ s list ctx, Runs.play (step twoHals) init bothOpen = some s ∧
    Routed twoHals s list ctx :=
  ⟨_, _, _, rfl, handles_routed twoHals bothOpen _ _ 0 _ rfl rfl rfl (by decide)⟩

/-- No flush gets to a device. -/
theorem flush_not_forwarded : ¬ ∀ (modules : List HwModule) (es : List MultiHalEvent) (s : MultiHal)
    (list : List SensorT) (c : Nat) (ctx : PollContext) (n i : Nat) (x : SensorT) (d : HwDevice),
    Runs.play (step modules) init es = some s → s.globalSensorsList = some list →
      s.context c = some ctx → (declared modules)[n]? = some (i, x) → ctx.deviceOf i = some d →
        ∃ call ∈ (ctx.deviceFlush (n + 1)).2, call.device = d := by
  intro h
  obtain ⟨call, hcall, -⟩ := h twoHals bothOpen _ _ 0 _ 0 0 ⟨3, 1, 0⟩ ⟨0, apiVersion14⟩ rfl rfl rfl
    rfl rfl
  cases hcall

end MultiHal

end Wt88047.Sensors
