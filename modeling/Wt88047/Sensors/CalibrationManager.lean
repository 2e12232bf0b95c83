import Wt88047.Sensors.SensorScan

/-! The calibration libraries: the configuration file that names them, the modules that they hold and
the algorithms that these provide. -/

namespace Wt88047.Calibration

open LocCfg (Text cString strtok)
open SensorScan (Sensor typeToName)

abbrev maxCalLibs : Nat := 32

abbrev maxCalCfgLen : Nat := 1024

def defaultCalLib : Text := "libcalmodule_common.so".toList

def algoTag : Int := 0x74616373

/-- A `sensor_cal_algo_t`: `module` says whether its pointer is set, and `methods` whether
`convert` is, if it has any. -/
structure Algo where
  tag : Int
  type : Int
  compatible : Option (List Text)
  module : Bool
  methods : Option Bool
  deriving DecidableEq

/-- A module with its `number` of algorithms; `listed` says whether `get_algo_list` is there and
succeeds. -/
structure Module where
  algos : List Algo
  listed : Bool
  deriving DecidableEq

/-- The configuration file: it does not open, or `read` fails, or it gives what the file holds, as
far as it is asked for. -/
inductive Config
  | unopened
  | unread
  | content (bytes : Text)

/-- What comes of loading a library: `init` says whether that of the module succeeds. -/
inductive Loading
  | missing
  | notLoaded
  | noSymbol
  | found (m : Module) (init : Bool)

def checkAlgo (a : Algo) : Int :=
  if a.tag ≠ algoTag then -1
  else if a.compatible.isNone then -1
  else if a.module = false then -1
  else
    match a.methods with
    | none => -1
    | some convert => if convert then 0 else -1

/-- The names are put into `cal_libs` one after the other, and a NULL after the last; there is no
result when one would go behind the array. -/
def storeLibs : List Text → List Text → Option (List Text)
  | [], calLibs => if calLibs.length < maxCalLibs then some calLibs else none
  | token :: tokens, calLibs =>
    if calLibs.length < maxCalLibs then storeLibs tokens (calLibs ++ [token]) else none

/-- The libraries to be loaded. `len` is unsigned: after a `read` that fails it is the largest
number, and the NUL goes before the buffer, as it goes behind it when the buffer is full. -/
def libraries : Config → Option (List Text)
  | .unopened => some [defaultCalLib]
  | .unread => none
  | .content bytes =>
    let buf := bytes.take maxCalCfgLen
    if buf = [] then some [defaultCalLib]
    else if buf.length < maxCalCfgLen then storeLibs (strtok '\n' (cString buf)) []
    else none

def loaded : Loading → Option Module
  | .found m true => some m
  | _ => none

def modulesOf (load : Nat → Text → Loading) (libs : List Text) : List (Option Module) :=
  libs.mapIdx fun i name => loaded (load i name)

/-- `algo_count`; the modules' lists are in memory, and so it does not overflow. -/
def algoCount (modules : List (Option Module)) : Nat :=
  (modules.map fun m => (m.map fun m => m.algos.length).getD 0).sum

def putAlgos (tmp : Nat) (algos : List Algo) (list : List (Option Algo)) : List (Option Algo) :=
  list.mapIdx fun i a => if tmp ≤ i ∧ i < tmp + algos.length then algos[i - tmp]? else a

def fillAlgos : List (Option Module) → Nat → List (Option Algo) → List (Option Algo)
  | [], _, list => list
  | some m :: modules, tmp, list =>
    if m.listed then fillAlgos modules (tmp + m.algos.length) (putAlgos tmp m.algos list)
    else fillAlgos modules tmp list
  | none :: modules, tmp, list => fillAlgos modules tmp list

/-- `loadCalLibs`: the list of `algo_count` entries, of which some may not be initialised. -/
def loadCalLibs (cfg : Config) (load : Nat → Text → Loading) : Option (List (Option Algo)) :=
  (libraries cfg).map fun libs =>
    let modules := modulesOf load libs
    fillAlgos modules 0 (List.replicate (algoCount modules) none)

def compatLoop (name general : Text) : List Text → Bool → Bool × Bool
  | [], found => (false, found)
  | c :: cs, found =>
    if c = name then (true, found) else compatLoop name general cs (found || c = general)

def generalName (s : Sensor) : Text := (typeToName s.type.toInt).toList

/-- The loop of `getCalAlgo`, with `tmp`; it has no result when it comes to an entry that is not
initialised. -/
def search (s : Sensor) : List (Option Algo) → Option Algo → Option (Option Algo)
  | [], tmp => some tmp
  | none :: _, _ => none
  | some a :: list, tmp =>
    if a.type ≠ s.type.toInt ∨ checkAlgo a ≠ 0 then search s list tmp
    else
      let r := compatLoop s.name (generalName s) (a.compatible.getD []) false
      if r.1 then some (some a) else search s list (if r.2 then some a else tmp)

def getCalAlgo (list : List (Option Algo)) : Option Sensor → Option (Option Algo)
  | none => some none
  | some s => search s list none

def Algo.fits (a : Algo) (s : Sensor) : Prop := a.type = s.type.toInt ∧ checkAlgo a = 0

def Algo.exact (a : Algo) (s : Sensor) : Prop := a.fits s ∧ s.name ∈ a.compatible.getD []

def Algo.general (a : Algo) (s : Sensor) : Prop := a.fits s ∧ generalName s ∈ a.compatible.getD []

def Answers (algos : List Algo) (s : Sensor) (r : Option Algo) : Prop :=
  ((∃ a ∈ algos, a.exact s) → ∃ a ∈ algos, r = some a ∧ a.exact s) ∧
  ((¬∃ a ∈ algos, a.exact s) → (∃ a ∈ algos, a.general s) → ∃ a ∈ algos, r = some a ∧ a.general s) ∧
  ((¬∃ a ∈ algos, a.exact s) → (¬∃ a ∈ algos, a.general s) → r = none)

variable {name general : Text} {s : Sensor}

theorem compatLoop_cons (c : Text) (cs : List Text) (found : Bool) :
    compatLoop name general (c :: cs) found =
      if c = name then (true, found) else compatLoop name general cs (found || c = general) := rfl

theorem compatLoop_exact (cs : List Text) (found : Bool) :
    (compatLoop name general cs found).1 = true ↔ name ∈ cs := by
  induction cs generalizing found with
  | nil => simp [compatLoop]
  | cons c cs ih =>
    rw [compatLoop_cons, List.mem_cons]
    by_cases hc : c = name
    · simp [hc]
    · rw [if_neg hc, ih]
      exact ⟨Or.inr, fun h => h.resolve_left fun he => hc he.symm⟩

theorem compatLoop_general (cs : List Text) (found : Bool) (h : name ∉ cs) :
    (compatLoop name general cs found).2 = true ↔ found = true ∨ general ∈ cs := by
  induction cs generalizing found with
  | nil => simp [compatLoop]
  | cons c cs ih =>
    obtain ⟨hc, hcs⟩ := not_or.mp fun hm => h (List.mem_cons.mpr hm)
    rw [compatLoop_cons, if_neg fun he => hc he.symm, ih _ hcs, List.mem_cons, Bool.or_eq_true,
      decide_eq_true_eq, or_assoc, @eq_comm _ general c]

theorem search_cons (a : Algo) (list : List (Option Algo)) (tmp : Option Algo) :
    search s (some a :: list) tmp =
      if a.type ≠ s.type.toInt ∨ checkAlgo a ≠ 0 then search s list tmp
      else if (compatLoop s.name (generalName s) (a.compatible.getD []) false).1 then some (some a)
      else search s list
        (if (compatLoop s.name (generalName s) (a.compatible.getD []) false).2 then some a else tmp) :=
  rfl

theorem search_turn (a : Algo) (list : List (Option Algo)) (tmp : Option Algo) :
    (a.exact s → search s (some a :: list) tmp = some (some a)) ∧
    (¬a.exact s → a.general s → search s (some a :: list) tmp = search s list (some a)) ∧
    (¬a.exact s → ¬a.general s → search s (some a :: list) tmp = search s list tmp) := by
  rw [search_cons]
  by_cases hfits : a.fits s
  · have hgo : ¬(a.type ≠ s.type.toInt ∨ checkAlgo a ≠ 0) := fun hor => hor.elim (· hfits.1) (· hfits.2)
    rw [if_neg hgo]
    refine ⟨fun h => if_pos ((compatLoop_exact _ _).mpr h.2), fun h hg => ?_, fun h hg => ?_⟩
    · have hname : s.name ∉ a.compatible.getD [] := fun hm => h ⟨hfits, hm⟩
      rw [if_neg (mt (compatLoop_exact _ _).mp hname),
        if_pos ((compatLoop_general _ _ hname).mpr (Or.inr hg.2))]
    · have hname : s.name ∉ a.compatible.getD [] := fun hm => h ⟨hfits, hm⟩
      have hno : ¬(false = true ∨ generalName s ∈ a.compatible.getD []) :=
        fun hor => hor.elim (fun hf => Bool.false_ne_true hf) fun hm => hg ⟨hfits, hm⟩
      rw [if_neg (mt (compatLoop_exact _ _).mp hname),
        if_neg (mt (compatLoop_general _ _ hname).mp hno)]
  · have hskip : a.type ≠ s.type.toInt ∨ checkAlgo a ≠ 0 := by
      by_contra hno
      push Not at hno
      exact hfits hno
    rw [if_pos hskip]
    exact ⟨fun h => absurd h.1 hfits, fun _ h => absurd h.1 hfits, fun _ _ => rfl⟩

theorem search_spec (algos : List Algo) (tmp : Option Algo) : ∃ r,
    search s (algos.map some) tmp = some r ∧
    ((∃ a ∈ algos, a.exact s) → ∃ a ∈ algos, r = some a ∧ a.exact s) ∧
    ((¬∃ a ∈ algos, a.exact s) → (∃ a ∈ algos, a.general s) → ∃ a ∈ algos, r = some a ∧ a.general s) ∧
    ((¬∃ a ∈ algos, a.exact s) → (¬∃ a ∈ algos, a.general s) → r = tmp) := by
  induction algos generalizing tmp with
  | nil =>
    refine ⟨tmp, rfl, ?_, ?_, fun _ _ => rfl⟩
    · rintro ⟨a, ha, -⟩
      cases ha
    · rintro - ⟨a, ha, -⟩
      cases ha
  | cons a algos ih =>
    obtain ⟨hexact, hgeneral, hneither⟩ := search_turn (s := s) a (algos.map some) tmp
    rw [List.map_cons]
    simp only [List.exists_mem_cons_iff]
    by_cases he : a.exact s
    · rw [hexact he]
      exact ⟨some a, rfl, fun _ => Or.inl ⟨rfl, he⟩, fun h => absurd (Or.inl he) h,
        fun h => absurd (Or.inl he) h⟩
    · by_cases hg : a.general s
      · rw [hgeneral he hg]
        obtain ⟨r, hr, h1, h2, h3⟩ := ih (some a)
        refine ⟨r, hr, fun h => Or.inr (h1 (h.resolve_left he)), fun h _ => ?_, fun _ h => absurd (Or.inl hg) h⟩
        have hrest : ¬∃ b ∈ algos, b.exact s := fun hb => h (Or.inr hb)
        by_cases hlater : ∃ b ∈ algos, b.general s
        · exact Or.inr (h2 hrest hlater)
        · exact Or.inl ⟨h3 hrest hlater, hg⟩
      · rw [hneither he hg]
        obtain ⟨r, hr, h1, h2, h3⟩ := ih tmp
        refine ⟨r, hr, fun h => Or.inr (h1 (h.resolve_left he)), fun h h' => ?_, fun h h' => ?_⟩
        · exact Or.inr (h2 (fun hb => h (Or.inr hb)) (h'.resolve_left hg))
        · exact h3 (fun hb => h (Or.inr hb)) fun hb => h' (Or.inr hb)

theorem getElem?_putAlgos (tmp : Nat) (algos : List Algo) (list : List (Option Algo)) (i : Nat) :
    (putAlgos tmp algos list)[i]? =
      list[i]?.map fun a => if tmp ≤ i ∧ i < tmp + algos.length then algos[i - tmp]? else a := by
  rw [putAlgos, List.getElem?_mapIdx]

theorem putAlgos_filled (done algos : List Algo) {k : Nat} (hk : algos.length ≤ k) :
    putAlgos done.length algos (done.map some ++ List.replicate k none) =
      (done ++ algos).map some ++ List.replicate (k - algos.length) none := by
  apply List.ext_getElem?
  intro i
  rw [getElem?_putAlgos]
  rcases Nat.lt_or_ge i done.length with hlt | hge
  · rw [List.getElem?_append_left (by rw [List.length_map]; exact hlt),
      List.getElem?_append_left (by rw [List.length_map, List.length_append]; omega), List.map_append,
      List.getElem?_append_left (by rw [List.length_map]; exact hlt)]
    cases hget : (done.map some)[i]? with
    | none => rfl
    | some a =>
      rw [Option.map_some, if_neg (by omega)]
  · rw [List.getElem?_append_right (by rw [List.length_map]; exact hge), List.length_map,
      List.getElem?_replicate]
    rcases Nat.lt_or_ge i (done.length + algos.length) with hin | hout
    · rw [if_pos (by omega), Option.map_some, if_pos ⟨hge, hin⟩,
        List.getElem?_append_left (by rw [List.length_map, List.length_append]; exact hin), List.map_append,
        List.getElem?_append_right (by rw [List.length_map]; exact hge), List.length_map,
        List.getElem?_map, List.getElem?_eq_getElem (by omega), Option.map_some]
    · rw [List.getElem?_append_right (by rw [List.length_map, List.length_append]; exact hout),
        List.length_map, List.length_append, List.getElem?_replicate]
      by_cases hin : i - done.length < k
      · rw [if_pos hin, Option.map_some, if_neg (by omega), if_pos (by omega)]
      · rw [if_neg hin, if_neg (by omega)]
        rfl

def listedAlgos (modules : List (Option Module)) : List Algo :=
  modules.flatMap fun m => m.elim [] fun m => if m.listed then m.algos else []

theorem listedAlgos_cons (m : Option Module) (modules : List (Option Module)) :
    listedAlgos (m :: modules) =
      (m.elim [] fun m => if m.listed then m.algos else []) ++ listedAlgos modules := List.flatMap_cons

theorem fillAlgos_filled (modules : List (Option Module)) (done : List Algo) {k : Nat}
    (hk : (listedAlgos modules).length ≤ k) :
    fillAlgos modules done.length (done.map some ++ List.replicate k none) =
      (done ++ listedAlgos modules).map some ++ List.replicate (k - (listedAlgos modules).length) none := by
  induction modules generalizing done k with
  | nil => rw [fillAlgos, show listedAlgos [] = [] from rfl, List.append_nil, List.length_nil, Nat.sub_zero]
  | cons m modules ih =>
    rw [listedAlgos_cons] at hk ⊢
    cases m with
    | none => exact ih done hk
    | some m =>
      rw [fillAlgos]
      rw [Option.elim_some] at hk ⊢
      cases hlisted : m.listed with
      | false =>
        rw [hlisted] at hk
        exact ih done hk
      | true =>
        rw [hlisted, if_pos rfl, List.length_append] at hk
        rw [if_pos rfl, if_pos rfl, putAlgos_filled done m.algos (by omega), ← List.length_append,
          ih (done ++ m.algos) (by omega), List.append_assoc, List.length_append, Nat.sub_sub]

theorem algoCount_cons (m : Option Module) (modules : List (Option Module)) :
    algoCount (m :: modules) = (m.map fun m => m.algos.length).getD 0 + algoCount modules := rfl

theorem length_listedAlgos (modules : List (Option Module)) :
    (listedAlgos modules).length ≤ algoCount modules ∧
    (algoCount modules ≤ (listedAlgos modules).length ↔
      ∀ m, some m ∈ modules → m.algos ≠ [] → m.listed = true) := by
  induction modules with
  | nil => exact ⟨le_refl _, fun _ m hm => (nomatch hm), fun _ => le_refl _⟩
  | cons m modules ih =>
    obtain ⟨hle, hiff⟩ := ih
    rw [listedAlgos_cons, List.length_append, algoCount_cons]
    cases m with
    | none =>
      refine ⟨by simpa using hle, ?_⟩
      simp only [Option.elim_none, List.length_nil, Nat.zero_add, Option.map_none, Option.getD_none, hiff,
        List.mem_cons, reduceCtorEq, false_or]
    | some m =>
      simp only [Option.elim_some, Option.map_some, Option.getD_some, List.mem_cons, Option.some.injEq,
        forall_eq_or_imp, ← hiff]
      cases hlisted : m.listed with
      | true =>
        simp only [if_true, implies_true, true_and]
        omega
      | false =>
        simp only [Bool.false_eq_true, if_false, List.length_nil, imp_false, not_not]
        rw [← List.length_eq_zero_iff]
        omega

theorem storeLibs_eq (tokens calLibs : List Text) : storeLibs tokens calLibs =
    if calLibs.length + tokens.length < maxCalLibs then some (calLibs ++ tokens) else none := by
  induction tokens generalizing calLibs with
  | nil => rw [storeLibs, List.length_nil, Nat.add_zero, List.append_nil]
  | cons token tokens ih =>
    rw [storeLibs, ih, List.length_append, List.length_singleton, List.length_cons, List.append_assoc,
      List.singleton_append]
    split_ifs with h1 h2 h3
    all_goals first | rfl | omega

def Config.Fits : Config → Prop
  | .unopened => True
  | .unread => False
  | .content bytes => bytes.length < maxCalCfgLen ∧ (strtok '\n' (cString bytes)).length < maxCalLibs

def Config.names : Config → List Text
  | .content bytes => if bytes = [] then [defaultCalLib] else strtok '\n' (cString bytes)
  | _ => [defaultCalLib]

theorem libraries_eq (cfg : Config) : (cfg.Fits → libraries cfg = some cfg.names) ∧
    (¬cfg.Fits → libraries cfg = none) := by
  cases cfg with
  | unopened => exact ⟨fun _ => rfl, fun h => absurd trivial h⟩
  | unread => exact ⟨fun h => h.elim, fun _ => rfl⟩
  | content bytes =>
    simp only [libraries, Config.Fits, Config.names, storeLibs_eq, List.length_nil, Nat.zero_add,
      List.nil_append]
    by_cases hnil : bytes = []
    · subst hnil
      exact ⟨fun _ => rfl, fun h => absurd (by decide) h⟩
    · rcases Nat.lt_or_ge bytes.length maxCalCfgLen with hlt | hge
      · rw [List.take_of_length_le hlt.le, if_neg hnil, if_pos hlt, if_neg hnil]
        exact ⟨fun h => if_pos h.2, fun h => if_neg fun hn => h ⟨hlt, hn⟩⟩
      · have hfull : (bytes.take maxCalCfgLen).length = maxCalCfgLen := by
          rw [List.length_take]
          omega
        have hne : bytes.take maxCalCfgLen ≠ [] := fun he => by
          rw [he] at hfull
          cases hfull
        rw [if_neg hne, hfull, if_neg (by omega)]
        exact ⟨fun h => by have := h.1; omega, fun _ => rfl⟩

def Loads (cfg : Config) (load : Nat → Text → Loading) : Prop :=
  ∃ libs list, libraries cfg = some libs ∧ loadCalLibs cfg load = some list ∧
    list.length = algoCount (modulesOf load libs) ∧
    (∀ entry ∈ list, ∃ a, entry = some a ∧ ∃ m, some m ∈ modulesOf load libs ∧ a ∈ m.algos) ∧
    getCalAlgo list none = some none ∧
    ∀ s, ∃ r, getCalAlgo list (some s) = some r ∧ Answers (list.filterMap id) s r

/-- The loading does as it should exactly if the file fits, and no module that provides algorithms
fails to list them. -/
theorem loads_iff (cfg : Config) (load : Nat → Text → Loading) : Loads cfg load ↔
    cfg.Fits ∧ ∀ m, some m ∈ modulesOf load cfg.names → m.algos ≠ [] → m.listed = true := by
  obtain ⟨hyes, hno⟩ := libraries_eq cfg
  by_cases hfits : cfg.Fits
  · obtain ⟨hle, hall⟩ := length_listedAlgos (modulesOf load cfg.names)
    have hlist : loadCalLibs cfg load = some ((listedAlgos (modulesOf load cfg.names)).map some ++
        List.replicate (algoCount (modulesOf load cfg.names) -
          (listedAlgos (modulesOf load cfg.names)).length) none) := by
      have hfill := fillAlgos_filled (modulesOf load cfg.names) [] hle
      rw [loadCalLibs, hyes hfits]
      exact congrArg some hfill
    constructor
    · rintro ⟨libs, list, -, hload, -, hentry, -⟩
      rw [hlist] at hload
      obtain rfl := Option.some.inj hload
      refine ⟨hfits, hall.mp (Nat.le_of_not_lt fun hlt => ?_)⟩
      obtain ⟨a, ha, -⟩ := hentry none (List.mem_append_right _
        (List.mem_replicate.mpr ⟨by omega, rfl⟩))
      cases ha
    · rintro ⟨-, hlisted⟩
      have hcount := hall.mpr hlisted
      rw [Nat.sub_eq_zero_of_le hcount, List.replicate_zero, List.append_nil] at hlist
      refine ⟨cfg.names, _, hyes hfits, hlist, ?_, ?_, rfl, fun s => ?_⟩
      · rw [List.length_map]
        omega
      · intro entry hentry
        obtain ⟨a, ha, rfl⟩ := List.mem_map.mp hentry
        obtain ⟨m, hm, ham⟩ := List.mem_flatMap.mp ha
        cases m with
        | none => cases ham
        | some m =>
          refine ⟨a, rfl, m, hm, ?_⟩
          rw [Option.elim_some] at ham
          split at ham
          · exact ham
          · cases ham
      · obtain ⟨r, hr, hanswers⟩ := search_spec (s := s) (listedAlgos (modulesOf load cfg.names)) none
        refine ⟨r, hr, ?_⟩
        rw [List.filterMap_map, show ((id : Option Algo → Option Algo) ∘ some) = some from rfl,
          List.filterMap_some]
        exact hanswers
  · constructor
    · rintro ⟨libs, list, hlibs, -⟩
      rw [hno hfits] at hlibs
      cases hlibs
    · exact fun h => absurd h.1 hfits

def unlisted : Module := { algos := [⟨algoTag, 1, some [[]], true, some true⟩], listed := false }

theorem entry_not_initialised : ¬∀ (cfg : Config) (load : Nat → Text → Loading), Loads cfg load := by
  intro hall
  obtain ⟨libs, list, -, hload, -, hentry, -⟩ := hall .unopened fun _ _ => .found unlisted true
  have hlist : loadCalLibs .unopened (fun _ _ => .found unlisted true) = some [none] := rfl
  rw [hlist] at hload
  obtain rfl := Option.some.inj hload
  obtain ⟨a, ha, -⟩ := hentry none (List.mem_singleton.mpr rfl)
  cases ha

end Wt88047.Calibration
