import Wt88047.Sensors.SensorScan

/-! Which sensors the manager finds, and where their fields come from. -/

namespace Wt88047.SensorScan

open LocCfg (Text Libc atoi cString)
open Sensors (sensorsHandle)

section

variable (lib : Libc) (odd : Int32 → Bool)

def Entry.complete (e : Entry) : Bool := requiredFields.all fun f => (e.text f).isSome

def Entry.int (e : Entry) (f : Field) : Option Int32 := (e.text f).map (atoi lib)

def Entry.accepted (e : Entry) : Bool :=
  !e.isDot && (e.complete && supported odd ((e.int lib .type).getD 0))

def ofNodes (number : Nat) (e : Entry) : Sensor where
  name := (e.text .name).getD []
  vendor := (e.text .vendor).getD []
  version := (e.int lib .version).getD 0
  type := (e.int lib .type).getD 0
  maxRange := ((e.text .maxRange).map lib.atof).getD 0
  resolution := ((e.text .resolution).map lib.atof).getD 0
  power := ((e.text .power).map lib.atof).getD 0
  minDelay := (e.int lib .minDelay).getD 0
  fifoReservedEventCount := (e.int lib .fifoReservedEventCount).getD 0
  fifoMaxEventCount := (e.int lib .fifoMaxEventCount).getD 0
  maxDelay := toMicroseconds ((e.int lib .maxDelay).getD 0)
  flags := (e.int lib .flags).getD 0
  handle := sensorsHandle number
  stringType := (e.int lib .type).getD 0
  enablePath := e.dName

def ownSensors (number : Nat) (es : List Entry) : List Sensor :=
  es.mapIdx fun k e => ofNodes lib (number + k) e

def Sensor.optional (s : Sensor) : Field → Int32
  | .fifoReservedEventCount => s.fifoReservedEventCount
  | .fifoMaxEventCount => s.fifoMaxEventCount
  | .maxDelay => s.maxDelay
  | .flags => s.flags
  | _ => 0

def leftBy (skipped : List Entry) (f : Field) : Int32 :=
  ((skipped.filter Entry.complete).filterMap fun e => e.int lib f).getLast?.getD 0

def settle : Field → Int32 → Int32
  | .maxDelay, n => toMicroseconds n
  | _, n => n

/-- Where an accepted entry lacks an optional node, the entries skipped right before it have left
nothing but the default. -/
def Untouched (skipped : List Entry) : List Entry → Prop
  | [] => True
  | e :: es =>
    if e.accepted lib odd then
      (∀ f ∈ optionalFields, e.text f = none → settle f (leftBy lib skipped f) = settle f 0) ∧
        Untouched [] es
    else if e.isDot then Untouched skipped es
    else Untouched (skipped ++ [e]) es

def Fits (number : Nat) (es : List Entry) : Prop :=
  ∀ pre e post, es = pre ++ e :: post → e.isDot = false →
    number + pre.countP (Entry.accepted lib odd) < maxSensors

def hardware (listing : List Entry) : List Sensor :=
  (ownSensors lib 0 (listing.filter (Entry.accepted lib odd))).map fixUp

def FitsVirtual (getCalAlgo : Sensor → Bool) (number : Nat) (vs : List (Sensor × List Sensor)) : Prop :=
  ∀ pre v post, vs = pre ++ v :: post → number + pre.countP (fun w => getCalAlgo w.1) < maxSensors

def Enumerated (getCalAlgo : Sensor → Bool) (listing : List Entry) : Prop :=
  ∃ number context, getSensorListInner lib odd listing = some (number, context) ∧
    (List.range number).map context = ownSensors lib 0 (listing.filter (Entry.accepted lib odd)) ∧
    ∃ count sensors, getDataInfo lib odd getCalAlgo listing = some (count, sensors) ∧
      count ≤ maxSensors ∧
      ∀ j < count, ∀ k < count, (sensors j).handle = (sensors k).handle → j = k

variable {lib odd} {e : Entry} {s : Sensor}

def fill (lib : Libc) (e : Entry) (s : Sensor) (f : Field) : Sensor :=
  match e.text f with
  | none => s
  | some text => store lib f text s

theorem getNodes_optional (fs : List Field) (s : Sensor) :
    getNodes lib e (fs.map fun f => (f, false)) s = (true, fs.foldl (fill lib e) s) := by
  induction fs generalizing s with
  | nil => rfl
  | cons f fs ih =>
    rw [List.map_cons, List.foldl_cons, ← ih, getNodes, getNode, fill]
    cases e.text f <;> rfl

theorem optional_fill {f g : Field} (hf : f ∈ requiredFields) : (fill lib e s f).optional g = s.optional g := by
  simp only [fill]
  cases e.text f with
  | none => rfl
  | some text =>
    simp only [requiredFields, List.mem_cons, List.not_mem_nil, or_false] at hf
    rcases hf with rfl | rfl | rfl | rfl | rfl | rfl | rfl | rfl <;> cases g <;> rfl

theorem getNodes_required (fs : List Field) (hfs : ∀ f ∈ fs, f ∈ requiredFields)
    (rest : List (Field × Bool)) (s : Sensor) :
    ((∀ f ∈ fs, (e.text f).isSome) →
      getNodes lib e (fs.map (fun f => (f, true)) ++ rest) s =
        getNodes lib e rest (fs.foldl (fill lib e) s)) ∧
    ((¬∀ f ∈ fs, (e.text f).isSome) → ∃ s',
      getNodes lib e (fs.map (fun f => (f, true)) ++ rest) s = (false, s') ∧
        ∀ g, s'.optional g = s.optional g) := by
  induction fs generalizing s with
  | nil => exact ⟨fun _ => rfl, fun h => absurd (fun f hf => nomatch hf) h⟩
  | cons f fs ih =>
    have hrest := ih (fun g hg => hfs g (List.mem_cons_of_mem _ hg)) (fill lib e s f)
    rw [List.map_cons, List.cons_append, List.foldl_cons, getNodes, getNode]
    cases ht : e.text f with
    | none =>
      refine ⟨fun h => ?_, fun _ => ⟨s, rfl, fun _ => rfl⟩⟩
      have hsome := h f (List.mem_cons_self ..)
      rw [ht] at hsome
      cases hsome
    | some text =>
      have hfill : fill lib e s f = store lib f text s := by rw [fill, ht]
      rw [hfill] at hrest
      simp only [List.forall_mem_cons, ht, Option.isSome_some, true_and, ne_eq, not_true_eq_false,
        if_false, hfill]
      refine ⟨hrest.1, fun h => ?_⟩
      obtain ⟨s', hs', hkeep⟩ := hrest.2 h
      refine ⟨s', hs', fun g => (hkeep g).trans ?_⟩
      rw [← hfill]
      exact optional_fill (hfs f (List.mem_cons_self ..))

theorem complete_iff : e.complete = true ↔ ∀ f ∈ requiredFields, (e.text f).isSome := List.all_eq_true

theorem getNodes_complete (h : e.complete = true) (s : Sensor) : getNodes lib e nodeMap s =
    (true, optionalFields.foldl (fill lib e) (requiredFields.foldl (fill lib e) s)) := by
  rw [nodeMap, (getNodes_required requiredFields (fun _ hf => hf) _ s).1 (complete_iff.mp h),
    getNodes_optional]

theorem getNodes_incomplete (h : e.complete ≠ true) (s : Sensor) : ∃ s',
    getNodes lib e nodeMap s = (false, s') ∧ ∀ f, s'.optional f = s.optional f :=
  (getNodes_required requiredFields (fun _ hf => hf) _ s).2 (mt complete_iff.mpr h)

def merged (lib : Libc) (e : Entry) (s : Sensor) : Sensor :=
  { s with
    name := (e.text .name).getD []
    vendor := (e.text .vendor).getD []
    version := (e.int lib .version).getD 0
    type := (e.int lib .type).getD 0
    maxRange := ((e.text .maxRange).map lib.atof).getD 0
    resolution := ((e.text .resolution).map lib.atof).getD 0
    power := ((e.text .power).map lib.atof).getD 0
    minDelay := (e.int lib .minDelay).getD 0
    fifoReservedEventCount := (e.int lib .fifoReservedEventCount).getD s.fifoReservedEventCount
    fifoMaxEventCount := (e.int lib .fifoMaxEventCount).getD s.fifoMaxEventCount
    maxDelay := (e.int lib .maxDelay).getD s.maxDelay
    flags := (e.int lib .flags).getD s.flags }

theorem fill_some {f : Field} {text : Text} (h : e.text f = some text) :
    fill lib e s f = store lib f text s := by rw [fill, h]

theorem fill_optional (s : Sensor) : optionalFields.foldl (fill lib e) s = { s with
    fifoReservedEventCount := (e.int lib .fifoReservedEventCount).getD s.fifoReservedEventCount
    fifoMaxEventCount := (e.int lib .fifoMaxEventCount).getD s.fifoMaxEventCount
    maxDelay := (e.int lib .maxDelay).getD s.maxDelay
    flags := (e.int lib .flags).getD s.flags } := by
  have hone : ∀ (s : Sensor), fill lib e s .fifoReservedEventCount = { s with
      fifoReservedEventCount := (e.int lib .fifoReservedEventCount).getD s.fifoReservedEventCount } := by
    intro s
    rw [fill, Entry.int]
    cases e.text .fifoReservedEventCount <;> rfl
  have htwo : ∀ (s : Sensor), fill lib e s .fifoMaxEventCount = { s with
      fifoMaxEventCount := (e.int lib .fifoMaxEventCount).getD s.fifoMaxEventCount } := by
    intro s
    rw [fill, Entry.int]
    cases e.text .fifoMaxEventCount <;> rfl
  have hthree : ∀ (s : Sensor), fill lib e s .maxDelay =
      { s with maxDelay := (e.int lib .maxDelay).getD s.maxDelay } := by
    intro s
    rw [fill, Entry.int]
    cases e.text .maxDelay <;> rfl
  have hfour : ∀ (s : Sensor), fill lib e s .flags =
      { s with flags := (e.int lib .flags).getD s.flags } := by
    intro s
    rw [fill, Entry.int]
    cases e.text .flags <;> rfl
  rw [optionalFields, List.foldl_cons, hone, List.foldl_cons, htwo, List.foldl_cons, hthree,
    List.foldl_cons, hfour, List.foldl_nil]

theorem getNodes_merged (h : e.complete = true) (s : Sensor) :
    getNodes lib e nodeMap s = (true, merged lib e s) := by
  rw [getNodes_complete h, fill_optional]
  have htext : ∀ f ∈ requiredFields, ∃ text, e.text f = some text :=
    fun f hf => Option.isSome_iff_exists.mp (complete_iff.mp h f hf)
  simp only [requiredFields, List.forall_mem_cons] at htext
  obtain ⟨⟨t1, h1⟩, ⟨t2, h2⟩, ⟨t3, h3⟩, ⟨t4, h4⟩, ⟨t5, h5⟩, ⟨t6, h6⟩, ⟨t7, h7⟩, ⟨t8, h8⟩, -⟩ := htext
  rw [requiredFields, List.foldl_cons, fill_some h1, List.foldl_cons, fill_some h2, List.foldl_cons,
    fill_some h3, List.foldl_cons, fill_some h4, List.foldl_cons, fill_some h5, List.foldl_cons,
    fill_some h6, List.foldl_cons, fill_some h7, List.foldl_cons, fill_some h8, List.foldl_nil]
  simp only [merged, Entry.int, h1, h2, h3, h4, h5, h6, h7, h8]
  rfl

theorem setUp_merged_iff (number : Nat) : setUp number e (merged lib e s) = ofNodes lib number e ↔
    ∀ f ∈ optionalFields, e.text f = none → settle f (s.optional f) = settle f 0 := by
  have hfield : ∀ f (n : Int32), settle f ((e.int lib f).getD n) = settle f ((e.int lib f).getD 0) ↔
      (e.text f = none → settle f n = settle f 0) := by
    intro f n
    rw [Entry.int]
    cases e.text f with
    | none => exact ⟨fun h _ => h, fun h => h rfl⟩
    | some text => exact ⟨fun _ h => (by cases h), fun _ => rfl⟩
  simp only [optionalFields, List.forall_mem_cons, List.not_mem_nil, false_implies, implies_true,
    and_true, ← hfield]
  simp only [setUp, merged, ofNodes, Sensor.mk.injEq, true_and, and_true]
  rfl

theorem leftBy_incomplete (skipped : List Entry) (h : e.complete ≠ true) (f : Field) :
    leftBy lib (skipped ++ [e]) f = leftBy lib skipped f := by
  have hnone : [e].filter Entry.complete = [] := List.filter_eq_nil_iff.mpr fun x hx => by
    rw [List.mem_singleton.mp hx]
    exact h
  rw [leftBy, List.filter_append, hnone, List.append_nil]
  rfl

theorem leftBy_complete (skipped : List Entry) (h : e.complete = true) (f : Field) :
    leftBy lib (skipped ++ [e]) f = (e.int lib f).getD (leftBy lib skipped f) := by
  have hone : [e].filter Entry.complete = [e] := List.filter_eq_self.mpr fun x hx => by
    rw [List.mem_singleton.mp hx]
    exact h
  have hlast : [e].filterMap (fun g : Entry => g.int lib f) = (e.int lib f).toList := by
    rw [List.filterMap_cons]
    cases e.int lib f <;> rfl
  rw [leftBy, List.filter_append, hone, List.filterMap_append, hlast]
  cases e.int lib f with
  | none =>
    rw [Option.toList_none, List.append_nil]
    rfl
  | some n =>
    rw [Option.toList_some, List.getLast?_concat]
    rfl

def Holds (lib : Libc) (skipped : List Entry) (s : Sensor) : Prop :=
  ∀ f ∈ optionalFields, s.optional f = leftBy lib skipped f

theorem Holds.merged {skipped : List Entry} (h : Holds lib skipped s) (hc : e.complete = true) :
    Holds lib (skipped ++ [e]) (merged lib e s) := by
  intro f hf
  rw [leftBy_complete skipped hc, ← h f hf]
  simp only [optionalFields, List.mem_cons, List.not_mem_nil, or_false] at hf
  rcases hf with rfl | rfl | rfl | rfl <;> rfl

theorem type_merged (lib : Libc) (e : Entry) (s : Sensor) :
    (SensorScan.merged lib e s).type = (e.int lib .type).getD 0 := rfl

theorem ownSensors_cons (number : Nat) (e : Entry) (es : List Entry) :
    ownSensors lib number (e :: es) = ofNodes lib number e :: ownSensors lib (number + 1) es := by
  rw [ownSensors, List.mapIdx_cons, ownSensors]
  congr 2
  funext k e
  congr 1
  omega

theorem scan_cons (e : Entry) (es : List Entry) (number : Nat) (context : Nat → Sensor) :
    scan lib odd (e :: es) number context =
      if e.isDot then scan lib odd es number context
      else if maxSensors ≤ number then none
      else if (getNodes lib e nodeMap (context number)).1 &&
          supported odd (getNodes lib e nodeMap (context number)).2.type then
        scan lib odd es (number + 1)
          (Function.update context number (setUp number e (getNodes lib e nodeMap (context number)).2))
      else
        scan lib odd es number
          (Function.update context number (getNodes lib e nodeMap (context number)).2) := rfl

variable {es : List Entry} {number : Nat}

theorem scan_entry (hdot : e.isDot = false) {context : Nat → Sensor} (hroom : number < maxSensors) :
    (e.accepted lib odd = true → scan lib odd (e :: es) number context =
      scan lib odd es (number + 1)
        (Function.update context number (setUp number e (merged lib e (context number))))) ∧
    (e.accepted lib odd = false → ∀ skipped, Holds lib skipped (context number) → ∃ s,
      scan lib odd (e :: es) number context = scan lib odd es number (Function.update context number s) ∧
        Holds lib (skipped ++ [e]) s) := by
  rw [scan_cons, hdot, if_neg Bool.false_ne_true, if_neg (by omega)]
  rw [Entry.accepted, hdot]
  by_cases hc : e.complete = true
  · rw [getNodes_merged hc, hc, type_merged]
    simp only [Bool.not_false, Bool.true_and]
    refine ⟨fun hs => if_pos hs, fun hs skipped hholds => ⟨_, if_neg (by rw [hs]; decide), hholds.merged hc⟩⟩
  · obtain ⟨s, hs, hkeep⟩ := getNodes_incomplete hc (context number)
    have hno : e.complete = false := Bool.eq_false_iff.mpr hc
    rw [hs, hno]
    simp only [Bool.false_and, Bool.and_false]
    refine ⟨fun h => absurd h Bool.false_ne_true, fun _ skipped hholds =>
      ⟨s, if_neg Bool.false_ne_true, fun f hf => ?_⟩⟩
    rw [leftBy_incomplete skipped hc, hkeep, hholds f hf]

theorem accepted_dot (hdot : e.isDot = true) : e.accepted lib odd = false := by
  rw [Entry.accepted, hdot]
  rfl

theorem untouched_cons (lib : Libc) (odd : Int32 → Bool) (skipped : List Entry) (e : Entry)
    (es : List Entry) : Untouched lib odd skipped (e :: es) =
      if e.accepted lib odd then
        (∀ f ∈ optionalFields, e.text f = none → settle f (leftBy lib skipped f) = settle f 0) ∧
          Untouched lib odd [] es
      else if e.isDot then Untouched lib odd skipped es
      else Untouched lib odd (skipped ++ [e]) es := rfl

theorem Fits.head (h : Fits lib odd number (e :: es)) (hdot : e.isDot = false) :
    number < maxSensors := h [] e es rfl hdot

theorem fits_cons (hhead : e.isDot = false → number < maxSensors) :
    Fits lib odd number (e :: es) ↔
      Fits lib odd (number + if e.accepted lib odd = true then 1 else 0) es := by
  constructor
  · intro h pre f post he hf
    have hlt := h (e :: pre) f post (by rw [he]; rfl) hf
    rw [List.countP_cons] at hlt
    omega
  · intro h pre f post he hf
    cases pre with
    | nil =>
      obtain ⟨rfl, rfl⟩ := List.cons.inj he
      exact hhead hf
    | cons g pre =>
      obtain ⟨rfl, rfl⟩ := List.cons.inj he
      have hlt := h pre f post rfl hf
      rw [List.countP_cons]
      omega

theorem scan_spec (es : List Entry) (number : Nat) (context : Nat → Sensor) (skipped : List Entry)
    (hholds : Holds lib skipped (context number)) (hfresh : ∀ k, number < k → context k = {}) :
    (¬Fits lib odd number es → scan lib odd es number context = none) ∧
    (Fits lib odd number es → ∃ context',
      scan lib odd es number context = some (number + es.countP (Entry.accepted lib odd), context') ∧
      (∀ k < number, context' k = context k) ∧
      ((List.range' number (es.countP (Entry.accepted lib odd))).map context' =
        ownSensors lib number (es.filter (Entry.accepted lib odd)) ↔ Untouched lib odd skipped es)) := by
  induction es generalizing number context skipped with
  | nil =>
    refine ⟨fun h => absurd (fun pre e post he => ?_) h, fun _ => ⟨context, rfl, fun _ _ => rfl, ?_⟩⟩
    · exact absurd he.symm (List.append_ne_nil_of_right_ne_nil _ (List.cons_ne_nil _ _))
    · exact ⟨fun _ => trivial, fun _ => rfl⟩
  | cons e es ih =>
    rw [untouched_cons]
    cases hdot : e.isDot with
    | true =>
      rw [scan_cons, if_pos hdot, fits_cons (fun h => by rw [hdot] at h; cases h),
        List.countP_cons, List.filter_cons, accepted_dot hdot]
      exact ih number context skipped hholds hfresh
    | false =>
      by_cases hroom : number < maxSensors
      · rw [fits_cons fun _ => hroom]
        obtain ⟨hyes, hno⟩ := scan_entry hdot hroom
        cases hacc : e.accepted lib odd with
        | true =>
          rw [hyes hacc, List.countP_cons, List.filter_cons, hacc]
          simp only [if_true]
          have hlater : ∀ k, number + 1 < k → Function.update context number
              (setUp number e (merged lib e (context number))) k = {} := by
            intro k hk
            rw [Function.update_of_ne (by omega)]
            exact hfresh k (by omega)
          have hclear : Holds lib [] (Function.update context number
              (setUp number e (merged lib e (context number))) (number + 1)) := by
            rw [Function.update_of_ne (by omega), hfresh _ (by omega)]
            intro f hf
            simp only [optionalFields, List.mem_cons, List.not_mem_nil, or_false] at hf
            rcases hf with rfl | rfl | rfl | rfl <;> rfl
          obtain ⟨hnone, hsome⟩ := ih (number + 1) _ [] hclear hlater
          refine ⟨hnone, fun hfits => ?_⟩
          obtain ⟨context', hscan, hkeep, hown⟩ := hsome hfits
          have hnumber := hkeep number (by omega)
          rw [Function.update_self] at hnumber
          refine ⟨context', by rw [hscan, Nat.add_right_comm, Nat.add_assoc], fun k hk => ?_, ?_⟩
          · rw [hkeep k (by omega), Function.update_of_ne (by omega)]
          · rw [List.range'_succ, List.map_cons, ownSensors_cons, List.cons.injEq, hown,
              hnumber, setUp_merged_iff]
            refine and_congr_left fun _ => forall₂_congr fun f hf => ?_
            rw [hholds f hf]
        | false =>
          obtain ⟨s, hscan, hs⟩ := hno hacc skipped hholds
          rw [hscan, List.countP_cons, List.filter_cons, hacc]
          simp only [Bool.false_eq_true, if_false, Nat.add_zero]
          have hlater : ∀ k, number < k → Function.update context number s k = {} := by
            intro k hk
            rw [Function.update_of_ne (by omega)]
            exact hfresh k hk
          obtain ⟨hnone, hsome⟩ := ih number _ (skipped ++ [e])
            (by rw [Function.update_self]; exact hs) hlater
          refine ⟨hnone, fun hfits => ?_⟩
          obtain ⟨context', hscan', hkeep, hown⟩ := hsome hfits
          refine ⟨context', hscan', fun k hk => ?_, hown⟩
          rw [hkeep k hk, Function.update_of_ne (by omega)]
      · refine ⟨fun _ => ?_, fun h => absurd (h.head hdot) hroom⟩
        rw [scan_cons, if_neg (by rw [hdot]; decide), if_pos (by omega)]

theorem Fits.count_le (h : Fits lib odd number es) (hnumber : number ≤ maxSensors) :
    number + es.countP (Entry.accepted lib odd) ≤ maxSensors := by
  induction es generalizing number with
  | nil => exact hnumber
  | cons e es ih =>
    rw [List.countP_cons, ← Nat.add_assoc, Nat.add_right_comm]
    apply ih
    · exact (fits_cons h.head).mp h
    · split
      · rename_i hacc
        have hdot : e.isDot = false := by
          cases hdot : e.isDot with
          | true => exact absurd (accepted_dot hdot) (by rw [hacc]; decide)
          | false => rfl
        exact h.head hdot
      · exact hnumber

variable {getCalAlgo : Sensor → Bool}

theorem handle_fixUp (s : Sensor) : (fixUp s).handle = s.handle := by
  rw [fixUp]
  split_ifs <;> rfl

theorem handle_addDependency (s dep : Sensor) : (addDependency s dep).handle = s.handle := by
  rw [addDependency]
  split_ifs <;> rfl

theorem handle_foldl_addDependency (deps : List Sensor) (s : Sensor) :
    (deps.foldl addDependency s).handle = s.handle := by
  induction deps generalizing s with
  | nil => rfl
  | cons dep deps ih => rw [List.foldl_cons, ih, handle_addDependency]

theorem handle_virtualSensor (number : Nat) (info : Sensor) (deps : List Sensor) :
    (virtualSensor number info deps).handle = sensorsHandle number :=
  handle_foldl_addDependency deps { info with handle := sensorsHandle number }

theorem FitsVirtual.head {v : Sensor × List Sensor} {vs : List (Sensor × List Sensor)}
    (h : FitsVirtual getCalAlgo number (v :: vs)) : number < maxSensors := h [] v vs rfl

theorem fitsVirtual_cons {v : Sensor × List Sensor} {vs : List (Sensor × List Sensor)}
    (hhead : number < maxSensors) : FitsVirtual getCalAlgo number (v :: vs) ↔
      FitsVirtual getCalAlgo (number + if getCalAlgo v.1 = true then 1 else 0) vs := by
  constructor
  · intro h pre w post he
    have hlt := h (v :: pre) w post (by rw [he]; rfl)
    rw [List.countP_cons] at hlt
    omega
  · intro h pre w post he
    cases pre with
    | nil => exact hhead
    | cons u pre =>
      obtain ⟨rfl, rfl⟩ := List.cons.inj he
      have hlt := h pre w post rfl
      rw [List.countP_cons]
      omega

theorem addVirtual_cons (v : Sensor × List Sensor) (vs : List (Sensor × List Sensor)) (number : Nat)
    (context : Nat → Sensor) : addVirtual getCalAlgo (v :: vs) number context =
      if maxSensors ≤ number then none
      else if getCalAlgo v.1 then
        addVirtual getCalAlgo vs (number + 1)
          (Function.update context number (virtualSensor number v.1 v.2))
      else
        addVirtual getCalAlgo vs number
          (Function.update context number { v.1 with enablePath := (context number).enablePath }) := rfl

theorem addVirtual_spec (vs : List (Sensor × List Sensor)) (number : Nat) (context : Nat → Sensor)
    (hhandle : ∀ k < number, (context k).handle = sensorsHandle k) (hnumber : number ≤ maxSensors) :
    (¬FitsVirtual getCalAlgo number vs → addVirtual getCalAlgo vs number context = none) ∧
    (FitsVirtual getCalAlgo number vs → ∃ count sensors,
      addVirtual getCalAlgo vs number context = some (count, sensors) ∧ count ≤ maxSensors ∧
        ∀ k < count, (sensors k).handle = sensorsHandle k) := by
  induction vs generalizing number context with
  | nil =>
    refine ⟨fun h => absurd (fun pre v post he => ?_) h, fun _ => ⟨number, context, rfl, hnumber, hhandle⟩⟩
    exact absurd he.symm (List.append_ne_nil_of_right_ne_nil _ (List.cons_ne_nil _ _))
  | cons v vs ih =>
    rw [addVirtual_cons]
    by_cases hroom : number < maxSensors
    · rw [if_neg (by omega), fitsVirtual_cons hroom]
      by_cases halgo : getCalAlgo v.1 = true
      · rw [if_pos halgo, if_pos halgo]
        refine ih (number + 1) _ (fun k hk => ?_) hroom
        by_cases he : k = number
        · rw [he, Function.update_self, handle_virtualSensor]
        · rw [Function.update_of_ne he, hhandle k (by omega)]
      · rw [if_neg halgo, if_neg halgo]
        refine ih number _ (fun k hk => ?_) hnumber
        rw [Function.update_of_ne (by omega), hhandle k hk]
    · exact ⟨fun _ => if_pos (by omega), fun h => absurd h.head hroom⟩

theorem sensorsHandle_inj {j k : Nat} (h : sensorsHandle j = sensorsHandle k) : j = k := by
  simp only [sensorsHandle] at h
  omega

/-- The enumeration is as it should be exactly if all sensors have a place when they are looked at,
and no entry that was skipped has left anything where a sensor lacks an optional node. -/
theorem enumerated_iff (lib : Libc) (odd : Int32 → Bool) (getCalAlgo : Sensor → Bool)
    (listing : List Entry) : Enumerated lib odd getCalAlgo listing ↔
      Fits lib odd 0 listing ∧ Untouched lib odd [] listing ∧
        FitsVirtual getCalAlgo (listing.countP (Entry.accepted lib odd))
          (wanted lib (hardware lib odd listing)) := by
  obtain ⟨hnone, hsome⟩ := scan_spec listing 0 (fun _ => {}) []
    (fun f hf => by cases f <;> rfl) (fun _ _ => rfl)
  by_cases hfits : Fits lib odd 0 listing
  · obtain ⟨context, hscan, -, hown⟩ := hsome hfits
    rw [Nat.zero_add] at hscan
    rw [← List.range_eq_range'] at hown
    have hle := hfits.count_le (Nat.zero_le _)
    rw [Nat.zero_add] at hle
    have hinner : getSensorListInner lib odd listing = some (listing.countP (Entry.accepted lib odd), context) :=
      hscan
    -- what the virtual sensors start from, once the hardware sensors have their own fields
    have hstart : Untouched lib odd [] listing → getDataInfo lib odd getCalAlgo listing =
        addVirtual getCalAlgo (wanted lib (hardware lib odd listing))
          (listing.countP (Entry.accepted lib odd))
          (fun k => if k < listing.countP (Entry.accepted lib odd) then fixUp (context k) else context k) ∧
        ∀ k < listing.countP (Entry.accepted lib odd),
          (if k < listing.countP (Entry.accepted lib odd) then fixUp (context k) else context k).handle =
            sensorsHandle k := by
      intro hun
      have hlist := hown.mpr hun
      constructor
      · rw [getDataInfo, hinner, hardware, ← hlist, List.map_map]
        show addVirtual getCalAlgo (wanted lib ((List.range _).map _)) _ _ = _
        congr 2
        apply List.map_congr_left
        intro k hk
        exact if_pos (List.mem_range.mp hk)
      · intro k hk
        rw [if_pos hk, handle_fixUp]
        have hget := congrArg (fun l => l[k]?) hlist
        simp only [List.getElem?_map, List.getElem?_range hk, Option.map_some, ownSensors,
          List.getElem?_mapIdx] at hget
        obtain ⟨e, -, he⟩ := Option.map_eq_some_iff.mp hget.symm
        rw [← he]
        show sensorsHandle (0 + k) = _
        rw [Nat.zero_add]
    constructor
    · rintro ⟨number, context', hrun, hfields, count, sensors, hdata, -, -⟩
      rw [hinner] at hrun
      obtain ⟨rfl, rfl⟩ := Prod.mk.inj (Option.some.inj hrun)
      have hun := hown.mp hfields
      refine ⟨hfits, hun, ?_⟩
      by_contra hno
      obtain ⟨heq, hhandle⟩ := hstart hun
      rw [heq, (addVirtual_spec _ _ _ hhandle hle).1 hno] at hdata
      cases hdata
    · rintro ⟨-, hun, hvirtual⟩
      obtain ⟨heq, hhandle⟩ := hstart hun
      obtain ⟨count, sensors, hdata, hcount, hsensors⟩ := (addVirtual_spec _ _ _ hhandle hle).2 hvirtual
      refine ⟨_, context, hinner, hown.mpr hun, count, sensors, heq.trans hdata, hcount, ?_⟩
      intro j hj k hk hsame
      rw [hsensors j hj, hsensors k hk] at hsame
      exact sensorsHandle_inj hsame
  · constructor
    · rintro ⟨number, context, hrun, -⟩
      rw [getSensorListInner, hnone hfits] at hrun
      cases hrun
    · exact fun h => absurd h.1 hfits

/-- An entry with all required nodes, which give `1` but for the type. -/
def sampleEntry (type maxDelay : Option Text) : Entry where
  dName := ['s']
  read node :=
    if node = "type" then type
    else if node = "max_delay" then maxDelay
    else if node = "flags" ∨ node = "fifo_reserved_event_count" ∨ node = "fifo_max_event_count" then none
    else some ['1', '\n']

/-- A pressure sensor, which is not supported, and an accelerometer without `max_delay`. -/
def pressureFirst : List Entry :=
  [sampleEntry (some ['6', '\n']) (some ['5', '0', '\n']), sampleEntry (some ['1', '\n']) none]

/-- The accelerometer gets the delay of the pressure sensor. -/
theorem delay_of_another : ¬∀ (lib : Libc) (odd : Int32 → Bool) (getCalAlgo : Sensor → Bool)
    (listing : List Entry), Enumerated lib odd getCalAlgo listing := by
  intro hall
  let lib : Libc := ⟨2 ^ 31 - 1, fun _ => 0⟩
  let odd : Int32 → Bool := fun _ => false
  obtain ⟨number, context, hscan, hfields, -⟩ := hall lib odd (fun _ => true) pressureFirst
  have hfound : (getSensorListInner lib odd pressureFirst).map
      (fun r => ((List.range r.1).map r.2).map Sensor.maxDelay) = some [50000] := by decide +kernel
  have hown : (ownSensors lib 0 (pressureFirst.filter (Entry.accepted lib odd))).map Sensor.maxDelay =
      [10000000] := rfl
  rw [hscan, Option.map_some, hfields, hown] at hfound
  exact absurd hfound (by decide)

end

end Wt88047.SensorScan
