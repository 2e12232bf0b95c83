import Wt88047.Sensors.SensorsXml

/-! What is read from the store of calibration parameters after any sequence of writes, reads and
removals. -/

namespace Wt88047.Sensors

variable {name : String} (type : Int)

namespace XmlElement

variable {ps : List String} {offset : Nat → Int} {e : XmlElement} {n : Nat}

theorem getProp_newProp (name value other : String) (e : XmlElement)
    (h : e.getProp name = none) :
    (e.newProp name value).getProp other = if other = name then some value else e.getProp other := by
  simp only [getProp, newProp, List.find?_append]
  split
  · rename_i hname
    subst hname
    rw [getProp, Option.map_eq_none_iff] at h
    simp [h]
  · rename_i hname
    simp [Ne.symm hname]

theorem getProp_setAll (offset : Nat → Int) (e : XmlElement) (k : Nat) (name : String)
    (hp : ps.Nodup) :
    ((ps.zipIdx k).foldl (fun e p => e.setProp p.1 (offset p.2).repr) e).getProp name =
      match ps.idxOf? name with
      | some j => some (offset (k + j)).repr
      | none => e.getProp name := by
  induction ps generalizing e k with
  | nil => rfl
  | cons p ps ih =>
    obtain ⟨hnot, hp⟩ := List.nodup_cons.mp hp
    rw [List.zipIdx_cons, List.foldl_cons, ih _ (k + 1) hp, List.idxOf?_cons]
    by_cases hname : p = name
    · subst hname
      have hnone : ps.idxOf? p = none := List.idxOf?_eq_none_iff.mpr hnot
      rw [hnone]
      simp [getProp_setProp]
    · rw [if_neg (by simpa using hname)]
      cases ps.idxOf? name with
      | none => simp [getProp_setProp, Ne.symm hname]
      | some j => simp [Nat.add_assoc, Nat.add_comm 1 j]

theorem getProp_newAll (offset : Nat → Int) (e : XmlElement) (k : Nat) (name : String)
    (hp : ps.Nodup) (hnew : ∀ p ∈ ps, e.getProp p = none) :
    ((ps.zipIdx k).foldl (fun e p => e.newProp p.1 (offset p.2).repr) e).getProp name =
      match ps.idxOf? name with
      | some j => some (offset (k + j)).repr
      | none => e.getProp name := by
  induction ps generalizing e k with
  | nil => rfl
  | cons p ps ih =>
    obtain ⟨hnot, hp⟩ := List.nodup_cons.mp hp
    have hadd := fun name => getProp_newProp p (offset k).repr name e (hnew p (List.mem_cons_self ..))
    have hrest : ∀ q ∈ ps, (e.newProp p (offset k).repr).getProp q = none := by
      intro q hq
      have hne : q ≠ p := by
        rintro rfl
        exact hnot hq
      rw [hadd, if_neg hne]
      exact hnew q (List.mem_cons_of_mem _ hq)
    rw [List.zipIdx_cons, List.foldl_cons, ih _ (k + 1) hp hrest, List.idxOf?_cons]
    by_cases hname : p = name
    · subst hname
      have hnone : ps.idxOf? p = none := List.idxOf?_eq_none_iff.mpr hnot
      rw [hnone]
      simp [hadd]
    · rw [if_neg (by simpa using hname)]
      cases ps.idxOf? name with
      | none => simp [hadd, Ne.symm hname]
      | some j => simp [Nat.add_assoc, Nat.add_comm 1 j]

theorem params_cases : params type = ["offset_x", "offset_y", "offset_z"] ∨
    params type = ["threshold_h", "threshold_l", "bias"] ∨ params type = [] := by
  rw [params, paramRange]
  split_ifs
  · exact Or.inl rfl
  · exact Or.inr (Or.inl rfl)
  · exact Or.inr (Or.inr rfl)

theorem params_spec : (params type).Nodup ∧ "name" ∉ params type ∧
    "state" ∉ params type ∧ (params type).length ≤ 3 := by
  rcases params_cases type with h | h | h <;> rw [h] <;> decide

theorem params_disjoint (other : Int) :
    params type = params other ∨ ∀ p ∈ params other, p ∉ params type := by
  rcases params_cases type with h | h | h <;> rcases params_cases other with h' | h' | h' <;>
    rw [h, h'] <;> decide

structure Shows (e : XmlElement) (ps : List String) (offset : Nat → Int) : Prop where
  value : ∀ j (hj : j < ps.length), e.getProp (ps.get ⟨j, hj⟩) = some (offset j).repr

theorem idxOf_get (hp : ps.Nodup) {j : Nat} (hj : j < ps.length) :
    ps.idxOf? (ps.get ⟨j, hj⟩) = some j := by
  refine List.idxOf?_eq_some_iff.mpr ⟨hj, rfl, fun i hi heq => ?_⟩
  have hij := (List.getElem_inj hp).mp heq
  omega

theorem setParams_shows (offset : Nat → Int) (e : XmlElement) :
    (e.setParams (params type) offset).Shows (params type) offset ∧
      ∀ name ∉ params type, (e.setParams (params type) offset).getProp name = e.getProp name := by
  obtain ⟨hnodup, -⟩ := params_spec type
  have hall := fun name => getProp_setAll offset e 0 name hnodup
  refine ⟨⟨fun j hj => ?_⟩, fun name hname => ?_⟩
  · rw [setParams, hall, idxOf_get hnodup hj]
    simp
  · rw [setParams, hall, List.idxOf?_eq_none_iff.mpr hname]

theorem newSensor_shows (sensor : CalSensor) (state : Int) (offset : Nat → Int) :
    (newSensor sensor state offset).Shows (params sensor.type) offset ∧
      (newSensor sensor state offset).getProp "name" = some sensor.name ∧
      (newSensor sensor state offset).getProp "state" = some (calState state) := by
  obtain ⟨hnodup, hname, hstate, -⟩ := params_spec sensor.type
  let e := newProp "state" (calState state) (newProp "name" sensor.name ⟨[]⟩)
  have hnew : ∀ p ∈ params sensor.type, e.getProp p = none := by
    intro p hp
    have hpn : p ≠ "name" := fun h => hname (h ▸ hp)
    have hps : p ≠ "state" := fun h => hstate (h ▸ hp)
    simp [e, newProp, getProp, Ne.symm hpn, Ne.symm hps]
  have hall := fun name => getProp_newAll offset e 0 name hnodup hnew
  refine ⟨⟨fun j hj => ?_⟩, ?_, ?_⟩
  · rw [newSensor, hall, idxOf_get hnodup hj]
    simp
  · rw [newSensor, hall, List.idxOf?_eq_none_iff.mpr hname]
    simp [e, newProp, getProp]
  · rw [newSensor, hall, List.idxOf?_eq_none_iff.mpr hstate]
    simp [e, newProp, getProp]

theorem belongsTo_iff {state : String} : e.belongsTo name state = true ↔
    e.getProp "name" = some name ∧ e.getProp "state" = some state := by
  rw [belongsTo, decide_eq_true_eq]

end XmlElement

theorem calState_injective {state other : Int} (h : state = 0 ∨ state = 1)
    (h' : other = 0 ∨ other = 1) (he : calState state = calState other) : state = other := by
  rcases h with rfl | rfl <;> rcases h' with rfl | rfl <;> revert he <;> decide

namespace XmlRoot

def lookup (name : String) (state : Int) (r : XmlRoot) : Option XmlElement :=
  if r.name = "sensors" then r.children.find? (·.belongsTo name (calState state)) else none

def put (sensor : CalSensor) (state : Int) (offset : Nat → Int) (r : XmlRoot) : XmlRoot :=
  { r with
    children := Upsert.upsert (·.belongsTo sensor.name (calState state))
      (·.setParams (params sensor.type) offset) (.newSensor sensor state offset) r.children }

variable {r : XmlRoot} {sensor : CalSensor} {state : Int} {offset : Nat → Int}

theorem setParams_belongsTo {e : XmlElement} {state : String} (offset : Nat → Int)
    (h : e.belongsTo name state = true) :
    (e.setParams (params type) offset).belongsTo name state = true := by
  obtain ⟨-, hname, hstate, -⟩ := XmlElement.params_spec type
  obtain ⟨hn, hs⟩ := XmlElement.belongsTo_iff.mp h
  have hset := (XmlElement.setParams_shows type offset e).2
  exact XmlElement.belongsTo_iff.mpr ⟨(hset _ hname).trans hn, (hset _ hstate).trans hs⟩

theorem put_same (sensor : CalSensor) (state : Int) (offset : Nat → Int)
    (hr : r.name = "sensors") : ∃ e, (r.put sensor state offset).lookup sensor.name state = some e ∧ e.Shows (params sensor.type) offset ∧
      ∀ old, r.lookup sensor.name state = some old →
        ∀ name ∉ params sensor.type, e.getProp name = old.getProp name := by
  obtain ⟨hshows, hn, hs⟩ := XmlElement.newSensor_shows sensor state offset
  have hfind : (r.put sensor state offset).lookup sensor.name state =
      some (((r.children.find? (·.belongsTo sensor.name (calState state))).map
        (·.setParams (params sensor.type) offset)).getD (.newSensor sensor state offset)) := by
    have hput : (r.put sensor state offset).name = "sensors" := hr
    rw [lookup, if_pos hput]
    exact Upsert.find_same (fun a ha => setParams_belongsTo sensor.type offset ha)
      (XmlElement.belongsTo_iff.mpr ⟨hn, hs⟩)
  refine ⟨_, hfind, ?_, fun old hold name hnot => ?_⟩
  · cases r.children.find? (·.belongsTo sensor.name (calState state)) with
    | none => exact hshows
    | some old => exact (XmlElement.setParams_shows sensor.type offset old).1
  · rw [lookup, if_pos hr] at hold
    rw [hold]
    exact (XmlElement.setParams_shows sensor.type offset old).2 name hnot

theorem put_other {other : Int} (h : state = 0 ∨ state = 1) (h' : other = 0 ∨ other = 1)
    (hne : ¬(name = sensor.name ∧ other = state)) :
    (r.put sensor state offset).lookup name other = r.lookup name other := by
  obtain ⟨-, hn, hs⟩ := XmlElement.newSensor_shows sensor state offset
  have hdiffer : ∀ e : XmlElement, e.belongsTo sensor.name (calState state) = true →
      ¬e.belongsTo name (calState other) = true := by
    intro e he he'
    obtain ⟨he, hst⟩ := XmlElement.belongsTo_iff.mp he
    obtain ⟨he', hst'⟩ := XmlElement.belongsTo_iff.mp he'
    rw [he] at he'
    rw [hst] at hst'
    exact hne ⟨(Option.some.inj he').symm, (calState_injective h h' (Option.some.inj hst')).symm⟩
  have hfind : (r.put sensor state offset).children.find? (·.belongsTo name (calState other)) =
      r.children.find? (·.belongsTo name (calState other)) :=
    Upsert.find_other hdiffer (fun a ha => hdiffer _ (setParams_belongsTo sensor.type offset ha))
      (hdiffer _ (XmlElement.belongsTo_iff.mpr ⟨hn, hs⟩))
  rw [lookup, lookup, hfind]
  rfl

end XmlRoot

namespace StoreFile

def lookup (name : String) (state : Int) (f : StoreFile) : Option XmlElement :=
  (f.recovered.bind (·.root)).bind (·.lookup name state)

structure Puts (sensor : CalSensor) (state : Int) (offset : Nat → Int) (old : Option StoreFile)
    (f : StoreFile) : Prop where
  readable : f.readable = true
  before : ∀ g, old = some g → g.readable = true
  same : ∃ e, f.lookup sensor.name state = some e ∧ e.Shows (params sensor.type) offset ∧
    ∀ e', old.bind (·.lookup sensor.name state) = some e' →
      ∀ name ∉ params sensor.type, e.getProp name = e'.getProp name
  other : ∀ name other, (other = 0 ∨ other = 1) → ¬(name = sensor.name ∧ other = state) →
    f.lookup name other = old.bind (·.lookup name other)

variable {sensor : CalSensor} {state : Int} {offset : Nat → Int} {f : StoreFile} {root : XmlRoot}

theorem opened_ok (h : f.opened = .ok root) : f.readable = true ∧ root.name = "sensors" ∧
    ∀ name state, f.lookup name state = root.lookup name state := by
  rw [opened] at h
  split at h
  · cases h
  · cases hr : f.readable with
    | false =>
      rw [hr] at h
      cases h
    | true =>
      rw [hr, if_pos rfl] at h
      cases hc : f.content with
      | none =>
        rw [hc] at h
        cases h
      | some doc =>
        rw [hc] at h
        dsimp only at h
        cases hroot : doc.root with
        | none =>
          rw [hroot] at h
          cases h
        | some root' =>
          rw [hroot] at h
          dsimp only at h
          split at h
          · cases h
          · rename_i hname
            obtain rfl := Except.ok.inj h
            refine ⟨rfl, not_not.mp hname, fun name state => ?_⟩
            rw [lookup, f.wellFormed doc hc]
            simp [hroot]

theorem puts_new (h : state = 0 ∨ state = 1) : Puts sensor state offset none
    (.save ⟨some ⟨"sensors", [.newSensor sensor state offset]⟩⟩ true true) := by
  let empty : XmlRoot := ⟨"sensors", []⟩
  obtain ⟨e, he, hshows, -⟩ := XmlRoot.put_same (r := empty) sensor state offset rfl
  refine ⟨rfl, fun g hg => (by cases hg), ⟨e, he, hshows, fun e' he' => by cases he'⟩,
    fun name other h' hne => ?_⟩
  show (empty.put sensor state offset).lookup name other = none
  rw [XmlRoot.put_other h h' hne]
  rfl

theorem puts_old (h : state = 0 ∨ state = 1) (ho : f.opened = .ok root) :
    Puts sensor state offset (some f)
      (.save ⟨some (root.put sensor state offset)⟩ f.readable f.writable) := by
  obtain ⟨hr, hname, hlookup⟩ := opened_ok ho
  obtain ⟨e, he, hshows, hold⟩ := XmlRoot.put_same sensor state offset hname
  refine ⟨hr, fun g hg => ?_, ⟨e, he, hshows, fun e' he' => ?_⟩, fun name other h' hne => ?_⟩
  · rw [← Option.some.inj hg]
    exact hr
  · exact hold e' (by rw [← hlookup]; exact he')
  · show (root.put sensor state offset).lookup name other = f.lookup name other
    rw [XmlRoot.put_other h h' hne, hlookup]

def Holds (name : String) (state : Int) (ps : List String) (offset : Nat → Int) (f : StoreFile) :
    Prop :=
  ∃ e, f.lookup name state = some e ∧ e.Shows ps offset

theorem Puts.holds {g : StoreFile} {other type : Int} {values : Nat → Int}
    (h : Puts sensor state offset (some g) f) (hother : other = 0 ∨ other = 1)
    (hg : g.Holds name other (params type) values)
    (hne : ¬(name = sensor.name ∧ other = state ∧ params type = params sensor.type)) :
    f.Holds name other (params type) values := by
  obtain ⟨e', he', hshows⟩ := hg
  by_cases hkey : name = sensor.name ∧ other = state
  · obtain ⟨rfl, rfl⟩ := hkey
    obtain ⟨e, he, -, hold⟩ := h.same
    refine ⟨e, he, ⟨fun j hj => ?_⟩⟩
    have hdisjoint : ∀ p ∈ params type, p ∉ params sensor.type := by
      rcases XmlElement.params_disjoint sensor.type type with heq | hd
      · exact absurd ⟨rfl, rfl, heq.symm⟩ hne
      · exact hd
    rw [hold e' he' _ (hdisjoint _ (List.get_mem ..)), hshows.value j hj]
  · exact ⟨e', (h.other name other hother hkey).trans he', hshows⟩

end StoreFile

namespace ParamFiles

variable {sensor : CalSensor} {state : Int} {s : ParamFiles}

def accepts (state : Int) (s : ParamFiles) : Prop :=
  ∀ f, s.file state = some f → ∃ root, f.opened = .ok root

theorem write_cases (s : ParamFiles) (sensor : CalSensor) (offset : Nat → Int) (saving : Saving)
    (h : state = 0 ∨ state = 1) :
    (¬s.accepts state ∧ (s.writeSensorsParams sensor (some offset) state saving).1 ≠ 0 ∧
      (s.writeSensorsParams sensor (some offset) state saving).2 = s) ∨
    s.accepts state ∧ ∃ f, StoreFile.Puts sensor state offset (s.file state) f ∧
      s.writeSensorsParams sensor (some offset) state saving = s.saveDoc state f saving := by
  have hvalid : ¬(state < calStatic ∨ calDynamic < state) := by
    simp only [calStatic, calDynamic]
    omega
  rw [writeSensorsParams, if_neg hvalid]
  cases hf : s.file state with
  | none =>
    right
    refine ⟨fun f hf' => ?_, _, StoreFile.puts_new h, rfl⟩
    rw [hf] at hf'
    cases hf'
  | some f =>
    dsimp only
    cases ho : f.opened with
    | error err =>
      left
      refine ⟨fun hacc => ?_, ?_, rfl⟩
      · obtain ⟨root, hroot⟩ := hacc f hf
        rw [ho] at hroot
        cases hroot
      · rintro rfl
        rw [StoreFile.opened] at ho
        repeat' split at ho
        all_goals cases ho
    | ok root =>
      right
      refine ⟨fun g hg => ?_, _, StoreFile.puts_old h ho, rfl⟩
      rw [hf] at hg
      obtain rfl := Option.some.inj hg
      exact ⟨root, ho⟩

def source (s : ParamFiles) : Option StoreFile :=
  (match s.data with
    | some g => some g
    | none => s.persist).filter (·.readable)

theorem readData_some {f : StoreFile} {e : XmlElement} (out : Nat → Int) (hf : s.data = some f)
    (he : f.lookup sensor.name state = some e) :
    s.readData sensor out state = (0, e.readParams (params sensor.type) out) := by
  rw [StoreFile.lookup] at he
  obtain ⟨root, hroot, hlookup⟩ := Option.bind_eq_some_iff.mp he
  rw [XmlRoot.lookup] at hlookup
  split at hlookup
  · rename_i hname
    rw [readData, hf, Option.bind_some, hroot]
    simp [hname, hlookup]
  · cases hlookup

theorem readData_none {f : StoreFile} (out : Nat → Int) (hf : s.data = some f)
    (he : f.lookup sensor.name state = none) : (s.readData sensor out state).1 = -1 := by
  rw [StoreFile.lookup] at he
  rw [readData, hf, Option.bind_some]
  cases hroot : f.recovered.bind (·.root) with
  | none => rfl
  | some root =>
    rw [hroot, Option.bind_some, XmlRoot.lookup] at he
    split at he
    · rename_i hname
      simp [hname, he]
    · rename_i hname
      simp [hname]

theorem read_eq (s : ParamFiles) (sensor : CalSensor) (h : state = 0 ∨ state = 1)
    (out : Nat → Int) :
    match s.source.bind (·.lookup sensor.name state) with
    | some e => (s.readSensorsParams sensor (some out) state .copied).1 =
        (0, some (e.readParams (params sensor.type) out))
    | none => (s.readSensorsParams sensor (some out) state .copied).1.1 ≠ 0 := by
  have hvalid : ¬(state < calStatic ∨ calDynamic < state) := by
    simp only [calStatic, calDynamic]
    omega
  rw [readSensorsParams, if_neg hvalid]
  have hfinish : ∀ (t : ParamFiles) (f : StoreFile), t.data = some f →
      match f.lookup sensor.name state with
      | some e => ((t.readData sensor out state).1, some (t.readData sensor out state).2) =
          ((0 : Int), some (e.readParams (params sensor.type) out))
      | none => (t.readData sensor out state).1 ≠ 0 := by
    intro t f hf
    cases he : f.lookup sensor.name state with
    | some e => simp only [readData_some out hf he]
    | none =>
      simp only [readData_none out hf he]
      decide
  cases hd : s.data with
  | some g =>
    cases hg : g.readable with
    | true =>
      have hsource : s.source = some g := by simp [source, hd, hg]
      have hreadable : s.dataReadable = true := by simp [dataReadable, hd, hg]
      rw [hsource, Option.bind_some, if_pos hreadable]
      exact hfinish s g hd
    | false =>
      have hsource : s.source = none := by simp [source, hd, hg]
      have hreadable : s.dataReadable = false := by simp [dataReadable, hd, hg]
      rw [hsource, Option.bind_none, hreadable]
      cases hp : s.persist with
      | none => simp
      | some f =>
        cases hf : f.readable with
        | true => simp [configFileCopy, hp, hf, hd, hreadable]
        | false => simp [configFileCopy, hp, hf]
  | none =>
    have hreadable : s.dataReadable = false := by simp [dataReadable, hd]
    rw [hreadable]
    cases hp : s.persist with
    | none =>
      have hsource : s.source = none := by simp [source, hd, hp]
      simp [hsource]
    | some f =>
      cases hf : f.readable with
      | false =>
        have hsource : s.source = none := by simp [source, hd, hp, hf]
        simp [hsource, configFileCopy, hp, hf]
      | true =>
        have hsource : s.source = some f := by simp [source, hd, hp, hf]
        let copy : StoreFile := { f with readable := true, writable := true }
        have hcopy : s.configFileCopy .copied = (0, { s with data := some copy }) := by
          simp [configFileCopy, hp, hf, hd, copy]
        rw [hsource, Option.bind_some, hcopy]
        exact hfinish { s with data := some copy } copy rfl

theorem read_files (s : ParamFiles) (sensor : CalSensor) (calResult : Option (Nat → Int))
    (state : Int) (copying : Copying) :
    (s.readSensorsParams sensor calResult state copying).2 = s ∨
      (∃ errno left, copying = .failed errno left ∧
        (s.readSensorsParams sensor calResult state copying).2 = { s with data := left }) ∨
      ∃ f g, s.data = none ∧ s.persist = some f ∧ f.readable = true ∧ g.readable = true ∧
        (∀ name state, g.lookup name state = f.lookup name state) ∧
        (s.readSensorsParams sensor calResult state copying).2 = { s with data := some g } := by
  rw [readSensorsParams.eq_def]
  split
  · exact Or.inl rfl
  cases calResult with
  | none => exact Or.inl rfl
  | some out =>
    dsimp only
    by_cases hreadable : s.dataReadable = true
    · rw [if_pos hreadable]
      exact Or.inl rfl
    rw [if_neg hreadable]
    rcases Option.eq_none_or_eq_some s.persist with hp | ⟨f, hp⟩
    · rw [if_pos (by simp [hp])]
      exact Or.inl rfl
    rw [if_neg (by simp [hp])]
    have hcopied : (s.configFileCopy copying).2 = s ∨
        (∃ errno left, copying = .failed errno left ∧
          (s.configFileCopy copying).2 = { s with data := left }) ∨
        ∃ g, s.data = none ∧ f.readable = true ∧ g.readable = true ∧
          (∀ name state, g.lookup name state = f.lookup name state) ∧
          (s.configFileCopy copying).2 = { s with data := some g } := by
      simp only [configFileCopy, hp]
      by_cases hf : f.readable = false
      · rw [if_pos hf]
        exact Or.inl rfl
      rw [if_neg hf]
      cases copying with
      | failed errno left => exact Or.inr (Or.inl ⟨errno, left, rfl, rfl⟩)
      | copied =>
        rcases Option.eq_none_or_eq_some s.data with hd | ⟨g, hd⟩
        · let copy : StoreFile := { f with readable := true, writable := true }
          refine Or.inr (Or.inr ⟨copy, hd, by simpa using hf, rfl, fun _ _ => rfl, ?_⟩)
          simp [hd, copy]
        · left
          simp [hd]
    have hfiles : ∀ t : Int × ParamFiles,
        (if t.1 < 0 then ((t.1, some out), t.2)
          else if t.2.dataReadable = true then
            (((t.2.readData sensor out state).1, some (t.2.readData sensor out state).2), t.2)
          else ((-1, some out), t.2)).2 = t.2 := by
      intro t
      split_ifs <;> rfl
    rw [hfiles]
    rcases hcopied with h | h | ⟨g, h⟩
    · exact Or.inl h
    · exact Or.inr (Or.inl h)
    · exact Or.inr (Or.inr ⟨f, g, h.1, hp, h.2⟩)

end ParamFiles

/-- The store, with the values of the last write that succeeded for each name and state and each
list of parameters, in the files that have not been removed since. -/
structure StoreRun where
  files : ParamFiles
  written : String → Int → List String → Option (Nat → Int)

inductive StoreCall
  | write (sensor : CalSensor) (calResult : Option (Nat → Int)) (state : Int) (saving : Saving)
  | read (sensor : CalSensor) (calResult : Option (Nat → Int)) (state : Int) (copying : Copying)
  | remove (removed : Bool)

namespace StoreRun

def init (files : ParamFiles) : StoreRun := ⟨files, fun _ _ _ => none⟩

def step (s : StoreRun) : StoreCall → Option StoreRun
  | .write sensor calResult state saving =>
    let r := s.files.writeSensorsParams sensor calResult state saving
    some ⟨r.2, fun name other ps =>
      if r.1 = 0 ∧ name = sensor.name ∧ other = state ∧ ps = params sensor.type then calResult
      else s.written name other ps⟩
  | .read sensor calResult state copying =>
    some { s with files := (s.files.readSensorsParams sensor calResult state copying).2 }
  | .remove removed =>
    let r := s.files.sensorsRmFile removed
    some ⟨r.2, fun name other ps =>
      if r.1 = 0 ∧ other = calDynamic then none else s.written name other ps⟩

def readBack (sensor : CalSensor) (state : Int) (out : Nat → Int) (s : ParamFiles) :
    Option (Nat → Int) :=
  let r := s.readSensorsParams sensor (some out) state .copied
  if r.1.1 = 0 then r.1.2 else none

def RoundTrip (s : StoreRun) : Prop :=
  ∀ (sensor : CalSensor) (state : Int) (offset : Nat → Int),
    s.written sensor.name state (params sensor.type) = some offset →
    ∀ out, readBack sensor state out s.files =
      some fun j => if j < (params sensor.type).length then offset j else out j

def Frame (s : StoreRun) : StoreCall → Prop
  | .write sensor calResult state saving => ∀ (other : CalSensor) (state' : Int),
    ¬(other.name = sensor.name ∧ state' = state) → ∀ out,
      readBack other state' out (s.files.writeSensorsParams sensor calResult state saving).2 =
        readBack other state' out s.files
  | _ => True

/-- The saving succeeds, or fails with the file as it was; no static values are saved while the
second file is there, and no dynamic ones while it is not and the first one is. A copy that fails
leaves nothing behind. -/
def Direct (s : StoreRun) : StoreCall → Prop
  | .write _ calResult state saving => calResult.isSome → (state = 0 ∨ state = 1) →
    s.files.accepts state →
      (match saving with
        | .saved => True
        | .notSaved left => left = s.files.file state
        | .notOwned => state = calDynamic) ∧
      (state = calStatic → s.files.data = none) ∧
      (state = calDynamic → s.files.data = none → s.files.persist = none)
  | .read _ _ _ copying =>
    match copying with
    | .copied => True
    | .failed _ left => left = s.files.data
  | .remove _ => True

variable {s t : StoreRun} {e : StoreCall}

theorem readBack_eq {sensor : CalSensor} {state : Int} (h : state = 0 ∨ state = 1)
    (out : Nat → Int) (files : ParamFiles) : readBack sensor state out files =
      (files.source.bind (·.lookup sensor.name state)).map (·.readParams (params sensor.type) out) := by
  have hread := files.read_eq sensor h out
  rw [readBack]
  cases he : files.source.bind (·.lookup sensor.name state) with
  | some e =>
    rw [he] at hread
    simp [hread]
  | none =>
    rw [he] at hread
    simp [hread]

variable {calResult : Option (Nat → Int)} {saving : Saving}

theorem write_refused {sensor : CalSensor} {state : Int} (files : ParamFiles)
    (h : calResult = none ∨ ¬(state = 0 ∨ state = 1)) :
    files.writeSensorsParams sensor calResult state saving = (-1, files) := by
  rw [ParamFiles.writeSensorsParams.eq_def]
  by_cases hvalid : state < calStatic ∨ calDynamic < state
  · rw [if_pos hvalid]
  · rw [if_neg hvalid]
    rcases h with rfl | h
    · rfl
    · simp only [calStatic, calDynamic] at hvalid
      omega

theorem Direct.write {sensor : CalSensor} {state : Int}
    (h : s.Direct (.write sensor calResult state saving)) :
    (∃ err, err ≠ 0 ∧ s.files.writeSensorsParams sensor calResult state saving = (err, s.files)) ∨
    ∃ offset f, calResult = some offset ∧ (state = 0 ∨ state = 1) ∧
      StoreFile.Puts sensor state offset (s.files.file state) f ∧
      s.files.writeSensorsParams sensor calResult state saving =
        (0, s.files.setFile state (some f)) ∧
      (state = 0 → s.files.data = none) ∧
      (state = 1 → s.files.data = none → s.files.persist = none) := by
  cases calResult with
  | none => exact Or.inl ⟨-1, by decide, write_refused s.files (Or.inl rfl)⟩
  | some offset =>
    by_cases hstate : state = 0 ∨ state = 1
    · rcases s.files.write_cases sensor offset saving hstate with
        ⟨-, herr, hsame⟩ | ⟨hacc, f, hputs, hwrite⟩
      · exact Or.inl ⟨_, herr, Prod.ext rfl hsame⟩
      · obtain ⟨hsaving, hstatic, hdynamic⟩ := h rfl hstate hacc
        have hset : s.files.setFile state (s.files.file state) = s.files := by
          simp only [ParamFiles.setFile, ParamFiles.file]
          split <;> rfl
        cases saving with
        | saved => exact Or.inr ⟨offset, f, rfl, hstate, hputs, hwrite, hstatic, hdynamic⟩
        | notSaved left =>
          left
          refine ⟨-1, by decide, hwrite.trans ?_⟩
          simp only [ParamFiles.saveDoc]
          rw [show left = s.files.file state from hsaving, hset]
        | notOwned =>
          have hone : state = 1 := hsaving
          refine Or.inr ⟨offset, f, rfl, hstate, hputs, hwrite.trans ?_, hstatic, hdynamic⟩
          simp [ParamFiles.saveDoc, hone]
    · exact Or.inl ⟨-1, by decide, write_refused s.files (Or.inr hstate)⟩

structure Kept (s : StoreRun) : Prop where
  key : ∀ name state ps offset, s.written name state ps = some offset →
    (state = 0 ∨ state = 1) ∧ ∃ type, ps = params type
  persist : ∀ name ps offset, s.written name 0 ps = some offset →
    ∃ f, s.files.persist = some f ∧ f.readable = true ∧ f.Holds name 0 ps offset
  copy : ∀ name ps offset, s.written name 0 ps = some offset →
    ∀ g, s.files.data = some g → g.readable = true ∧ g.Holds name 0 ps offset
  data : ∀ name ps offset, s.written name 1 ps = some offset →
    ∃ g, s.files.data = some g ∧ g.readable = true ∧ g.Holds name 1 ps offset

theorem Kept.write {sensor : CalSensor} {state : Int} (h : s.Kept)
    (hp : s.Direct (.write sensor calResult state saving))
    (ht : s.step (.write sensor calResult state saving) = some t) : t.Kept := by
  obtain rfl := Option.some.inj ht
  rcases hp.write with ⟨err, herr, hwrite⟩ | ⟨offset, f, rfl, hstate, hputs, hwrite, hzero, hone⟩
  · simp only [hwrite, herr, false_and, if_false]
    exact h
  · simp only [hwrite, true_and]
    -- A value is the one just written, or it was there before under another key.
    have hholds : ∀ name other ps values, (if name = sensor.name ∧ other = state ∧
        ps = params sensor.type then some offset else s.written name other ps) = some values →
        (∀ g, s.files.file state = some g → s.written name other ps = some values →
          g.Holds name other ps values) → (s.files.file state = none →
          s.written name other ps ≠ some values) → f.Holds name other ps values := by
      intro name other ps values hw hold hnone
      by_cases hkey : name = sensor.name ∧ other = state ∧ ps = params sensor.type
      · rw [if_pos hkey] at hw
        obtain ⟨rfl, rfl, rfl⟩ := hkey
        obtain rfl := Option.some.inj hw
        obtain ⟨e, he, hshows, -⟩ := hputs.same
        exact ⟨e, he, hshows⟩
      · rw [if_neg hkey] at hw
        obtain ⟨hother, type, rfl⟩ := h.key _ _ _ _ hw
        rcases Option.eq_none_or_eq_some (s.files.file state) with hfile | ⟨g, hfile⟩
        · exact absurd hw (hnone hfile)
        · rw [hfile] at hputs
          exact hputs.holds hother (hold g hfile hw) hkey
    have hkey : ∀ name other ps values, (if name = sensor.name ∧ other = state ∧
        ps = params sensor.type then some offset else s.written name other ps) = some values →
        (other = 0 ∨ other = 1) ∧ ∃ type, ps = params type := by
      intro name other ps values hw
      split at hw
      · rename_i heq
        obtain ⟨-, rfl, rfl⟩ := heq
        exact ⟨hstate, sensor.type, rfl⟩
      · exact h.key _ _ _ _ hw
    have hother : ∀ name other ps values, other ≠ state → (if name = sensor.name ∧ other = state ∧
        ps = params sensor.type then some offset else s.written name other ps) = some values →
        s.written name other ps = some values := by
      intro name other ps values hne hw
      rwa [if_neg fun heq => hne heq.2.1] at hw
    rcases hstate with rfl | rfl
    · have hdata := hzero rfl
      refine ⟨hkey, fun name ps values hw => ⟨f, rfl, hputs.readable, ?_⟩,
        fun name ps values _ g hg => ?_, fun name ps values hw => ?_⟩
      · refine hholds name 0 ps values hw (fun g hg hold => ?_) fun hnone hold => ?_
        · obtain ⟨f', hf', -, hf'holds⟩ := h.persist name ps values hold
          obtain rfl := Option.some.inj (hf'.symm.trans hg)
          exact hf'holds
        · obtain ⟨f', hf', -⟩ := h.persist name ps values hold
          cases hf'.symm.trans hnone
      · cases hdata.symm.trans hg
      · obtain ⟨g, hg, -⟩ := h.data name ps values (hother name 1 ps values (by decide) hw)
        cases hdata.symm.trans hg
    · refine ⟨hkey, fun name ps values hw => ?_, fun name ps values hw g hg => ?_,
        fun name ps values hw => ⟨f, rfl, hputs.readable, ?_⟩⟩
      · exact h.persist name ps values (hother name 0 ps values (by decide) hw)
      · obtain rfl := Option.some.inj hg
        refine ⟨hputs.readable,
          hholds name 0 ps values hw (fun g hg hold => ?_) fun hnone hold => ?_⟩
        · exact (h.copy name ps values hold g hg).2
        · obtain ⟨f', hf', -⟩ := h.persist name ps values hold
          cases hf'.symm.trans (hone rfl hnone)
      · refine hholds name 1 ps values hw (fun g hg hold => ?_) fun hnone hold => ?_
        · obtain ⟨f', hf', -, hf'holds⟩ := h.data name ps values hold
          obtain rfl := Option.some.inj (hf'.symm.trans hg)
          exact hf'holds
        · obtain ⟨f', hf', -⟩ := h.data name ps values hold
          cases hf'.symm.trans hnone

theorem Kept.read {sensor : CalSensor} {state : Int} {copying : Copying} (h : s.Kept)
    (hp : s.Direct (.read sensor calResult state copying))
    (ht : s.step (.read sensor calResult state copying) = some t) : t.Kept := by
  obtain rfl := Option.some.inj ht
  rcases s.files.read_files sensor calResult state copying with
    hsame | ⟨errno, left, rfl, hleft⟩ | ⟨f, g, hdata, hpersist, hf, hg, hlookup, hcopy⟩
  · rw [hsame]
    exact h
  · rw [hleft, show left = s.files.data from hp]
    exact h
  · rw [hcopy]
    refine ⟨h.key, h.persist, fun name ps values hw g' hg' => ?_, fun name ps values hw => ?_⟩
    · obtain rfl := Option.some.inj hg'
      obtain ⟨f', hf', -, e, he, hshows⟩ := h.persist name ps values hw
      obtain rfl := Option.some.inj (hf'.symm.trans hpersist)
      exact ⟨hg, e, (hlookup name 0).trans he, hshows⟩
    · obtain ⟨g', hg', -⟩ := h.data name ps values hw
      cases hdata.symm.trans hg'

theorem Kept.remove {removed : Bool} (h : s.Kept) (ht : s.step (.remove removed) = some t) :
    t.Kept := by
  obtain rfl := Option.some.inj ht
  have hstatic : ∀ files : ParamFiles, files.persist = s.files.persist →
      (∀ g, files.data = some g → s.files.data = some g) →
      Kept ⟨files, fun name other ps => if (0 : Int) = 0 ∧ other = calDynamic then none
        else s.written name other ps⟩ := by
    intro files hpersist hdata
    have hold : ∀ name other ps values, (if (0 : Int) = 0 ∧ other = calDynamic then none
        else s.written name other ps) = some values →
        other ≠ calDynamic ∧ s.written name other ps = some values := by
      intro name other ps values hw
      split at hw
      · cases hw
      · rename_i hne
        exact ⟨fun heq => hne ⟨rfl, heq⟩, hw⟩
    refine ⟨fun name other ps values hw => h.key _ _ _ _ (hold _ _ _ _ hw).2,
      fun name ps values hw => ?_, fun name ps values hw g hg => ?_, fun name ps values hw => ?_⟩
    · rw [hpersist]
      exact h.persist name ps values (hold _ _ _ _ hw).2
    · exact h.copy name ps values (hold _ _ _ _ hw).2 g (hdata g hg)
    · exact absurd rfl (hold name 1 ps values hw).1
  rw [ParamFiles.sensorsRmFile]
  split
  · exact hstatic s.files rfl fun _ hg => hg
  · split
    · exact hstatic { s.files with data := none } rfl fun _ hg => by cases hg
    · simp only [neg_eq_zero, one_ne_zero, false_and, if_false]
      exact h

theorem Kept.step (h : s.Kept) (hp : s.Direct e) (ht : s.step e = some t) : t.Kept := by
  cases e with
  | write sensor calResult state saving => exact h.write hp ht
  | read sensor calResult state copying => exact h.read hp ht
  | remove removed => exact h.remove ht

theorem Kept.roundTrip (h : s.Kept) : s.RoundTrip := by
  intro sensor state offset hw out
  obtain ⟨hstate, -⟩ := h.key _ _ _ _ hw
  have hfound : ∃ f, s.files.source = some f ∧ f.Holds sensor.name state (params sensor.type) offset := by
    rcases hstate with rfl | rfl
    · obtain ⟨f, hf, hreadable, hholds⟩ := h.persist _ _ _ hw
      cases hd : s.files.data with
      | none => exact ⟨f, by simp [ParamFiles.source, hd, hf, hreadable], hholds⟩
      | some g =>
        obtain ⟨hg, hgholds⟩ := h.copy _ _ _ hw g hd
        exact ⟨g, by simp [ParamFiles.source, hd, hg], hgholds⟩
    · obtain ⟨g, hd, hg, hgholds⟩ := h.data _ _ _ hw
      exact ⟨g, by simp [ParamFiles.source, hd, hg], hgholds⟩
  obtain ⟨f, hsource, e, he, hshows⟩ := hfound
  rw [readBack_eq hstate, hsource, Option.bind_some, he, Option.map_some]
  congr 1
  funext j
  rw [XmlElement.readParams]
  split_ifs with hj
  · have hvalue := hshows.value j hj
    rw [List.get_eq_getElem] at hvalue
    rw [List.getElem?_eq_getElem hj, Option.bind_some, hvalue]
    exact atoi_repr (offset j)
  · rw [List.getElem?_eq_none (by omega)]
    rfl

theorem Direct.frame (h : s.Direct e) : s.Frame e := by
  cases e with
  | read | remove => trivial
  | write sensor calResult state saving =>
    intro other state' hne out
    rcases h.write with ⟨err, -, hwrite⟩ | ⟨offset, f, rfl, hstate, hputs, hwrite, hzero, hone⟩
    · rw [hwrite]
    · rw [hwrite]
      by_cases hstate' : state' = 0 ∨ state' = 1
      · rw [readBack_eq hstate', readBack_eq hstate']
        have hafter : (s.files.setFile state (some f)).source = some f := by
          rcases hstate with rfl | rfl
          · simp [ParamFiles.source, ParamFiles.setFile, hzero rfl, hputs.readable]
          · simp [ParamFiles.source, ParamFiles.setFile, hputs.readable]
        have hbefore : s.files.source = s.files.file state := by
          have hread : (s.files.file state).filter (·.readable) = s.files.file state := by
            cases hf : s.files.file state with
            | none => rfl
            | some g => simp [hputs.before g hf]
          rcases hstate with rfl | rfl
          · rw [← hread]
            simp [ParamFiles.source, ParamFiles.file, hzero rfl]
          · rw [← hread]
            cases hd : s.files.data with
            | none => simp [ParamFiles.source, ParamFiles.file, hd, hone rfl hd]
            | some g => simp [ParamFiles.source, ParamFiles.file, hd]
        rw [hafter, hbefore, Option.bind_some, hputs.other other.name state' hstate' hne]
      · have hnone : ∀ files : ParamFiles, readBack other state' out files = none := by
          intro files
          have hinvalid : state' < calStatic ∨ calDynamic < state' := by
            simp only [calStatic, calDynamic]
            omega
          rw [readBack, ParamFiles.readSensorsParams, if_pos hinvalid]
          rfl
        rw [hnone, hnone]

theorem store_round_trip (files : ParamFiles) (es : List StoreCall)
    (hp : Runs.Along step Direct (init files) es) (h : Runs.play step (init files) es = some s) :
    s.RoundTrip ∧ ∀ pre e post, es = pre ++ e :: post →
      ∀ t, Runs.play step (init files) pre = some t → t.Frame e := by
  constructor
  · have hinit : (init files).Kept :=
      ⟨fun _ _ _ _ hw => (by cases hw), fun _ _ _ hw => (by cases hw),
        fun _ _ _ hw => (by cases hw), fun _ _ _ hw => (by cases hw)⟩
    exact (Runs.play_invariant (fun _ _ _ hs hp ht => hs.step hp ht) hinit hp h).roundTrip
  · rintro pre e post rfl t ht
    exact ((hp.append_right ht).head).frame

def accel : CalSensor := ⟨"accelerometer", 1⟩
def gyro : CalSensor := ⟨"gyroscope", 4⟩

def copiedFirst : List StoreCall :=
  [.write accel (some fun j => j + 1) 0 .saved, .read accel (some fun _ => 0) 0 .copied,
    .write gyro (some fun j => -j) 1 .saved]

theorem store_round_trip_copied : ∃ s, Runs.play step (init ⟨none, none⟩) copiedFirst = some s ∧
    s.RoundTrip :=
  ⟨_, rfl, (@store_round_trip _ ⟨none, none⟩ copiedFirst
    ⟨fun _ _ _ => ⟨trivial, fun _ => rfl, fun h => absurd h (by decide)⟩, fun t ht => by
      obtain rfl := Option.some.inj ht
      refine ⟨trivial, fun t ht => ?_⟩
      obtain rfl := Option.some.inj ht
      exact ⟨fun _ _ _ => ⟨trivial, fun h => absurd h (by decide), fun _ h => by cases h⟩,
        fun _ _ => trivial⟩⟩ rfl).1⟩

def dynamicFirst : List StoreCall :=
  [.write accel (some fun j => j + 1) 0 .saved, .write gyro (some fun j => -j) 1 .saved]

theorem dynamic_hides_static : ¬∀ (files : ParamFiles) (es : List StoreCall) (s : StoreRun),
    Runs.play step (init files) es = some s → s.RoundTrip ∧
      ∀ pre e post, es = pre ++ e :: post →
        ∀ t, Runs.play step (init files) pre = some t → t.Frame e := by
  intro h
  have hall := (h ⟨none, none⟩ dynamicFirst _ rfl).1 accel 0 (fun j => j + 1) rfl fun _ => 0
  exact absurd (congrArg Option.isSome hall) (by decide)

end StoreRun

end Wt88047.Sensors
