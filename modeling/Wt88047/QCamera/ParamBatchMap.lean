import Mathlib.Data.List.Nodup
import Wt88047.Lib.Runs
import Wt88047.Lib.Upsert
import Wt88047.QCamera.ParamBatch

/-! The parameter batch against the map it stands for: from a type to the last value set for it. -/

namespace Wt88047.Params

open Bytes Upsert ParmBuffer

/-- An entry of the map; `value` is the last one set, which a later `get` of the type leaves. -/
structure Rec where
  key : Nat
  size : Nat
  aligned : Nat
  value : Option (List UInt8) := none

def Rec.set (key : Nat) (value : List UInt8) : Rec where
  key := key
  size := value.length
  aligned := align4 (value.length + entrySize)
  value := some value

def Rec.get (parmTypeSize key : Nat) : Rec where
  key := key
  size := parmTypeSize
  aligned := align4 (parmTypeSize + entrySize - 1)

def total (l : List Rec) : Nat := (l.map (·.aligned)).sum

/-- The entry of the type `key`, in the terms of the search. -/
def Rec.Is (key : Nat) (r : Rec) : Bool := r.key = key

structure Tracked where
  batch : Batch := {}
  added : List Rec := []
  flushed : List Rec := []

namespace Tracked

def Overflows (added : List Rec) (r : Rec) : Prop :=
  (∀ x ∈ added, x.key ≠ r.key) ∧ capacity < total added + r.aligned

instance (added : List Rec) (r : Rec) : Decidable (Overflows added r) :=
  inferInstanceAs (Decidable (_ ∧ _))

def addSet (t : Tracked) (paramType : Nat) (paramValue : List UInt8) (setParms : Bool) : Tracked :=
  let r := Rec.set paramType paramValue
  { batch := t.batch.addSetParmEntryToBatch paramType paramValue setParms
    added := upsert (Rec.Is paramType) (fun _ => r) r (if Overflows t.added r then [] else t.added)
    flushed := t.flushed ++ if Overflows t.added r then t.added else [] }

def addGet (parmTypeSize : Nat) (t : Tracked) (paramType : Nat) : Tracked :=
  let r := Rec.get parmTypeSize paramType
  { t with
    batch := (t.batch.addGetParmEntryToBatch parmTypeSize paramType).1
    added := if Overflows t.added r then t.added else
      upsert (Rec.Is paramType) (fun x => { r with value := x.value }) r t.added }

def step (parmTypeSize : Nat) (t : Tracked) : BatchEvent → Option Tracked
  | .init => some { t with batch := { t.batch with buf := initBatchUpdate }, added := [] }
  | .addSet paramType paramValue setParms => some (t.addSet paramType paramValue setParms)
  | .addGet paramType => some (t.addGet parmTypeSize paramType)

end Tracked

/-- A type is an `enum`, and no value is larger than the whole buffer. -/
def BatchEvent.InRange : BatchEvent → Prop
  | .init => True
  | .addSet paramType paramValue _ =>
    paramType < 2 ^ 32 ∧ align4 (paramValue.length + entrySize) ≤ capacity
  | .addGet paramType => paramType < 2 ^ 32

def BatchEvent.Sound (parmTypeSize : Nat) (b : ParmBuffer) : BatchEvent → Prop
  | .init => True
  | .addSet paramType paramValue setParms =>
    match b.search paramType b.numEntry 0 with
    | some cur => readWord b.entry (cur + 8) = align4 (paramValue.length + entrySize)
    | none => b.totRemSize < align4 (paramValue.length + entrySize) → setParms = true
  | .addGet paramType => ∀ cur ∈ b.search paramType b.numEntry 0,
    readWord b.entry (cur + 8) = align4 (parmTypeSize + entrySize - 1)

structure Refines (t : Tracked) : Prop where
  visits : (t.batch.buf.walk.map fun cur => readWord t.batch.buf.entry cur) = t.added.map (·.key)
  once : (t.added.map (·.key)).Nodup
  apart : t.batch.buf.walk.Pairwise fun cur next => t.batch.buf.getNextParam cur ≤ next
  inside : ∀ cur ∈ t.batch.buf.walk,
    cur + dataOffset + readWord t.batch.buf.entry (cur + 4) ≤ t.batch.buf.getNextParam cur ∧
      t.batch.buf.getNextParam cur ≤ capacity
  sum : (t.batch.buf.walk.map fun cur => readWord t.batch.buf.entry (cur + 8)).sum =
    t.batch.buf.currSize
  room : t.batch.buf.currSize + t.batch.buf.totRemSize = capacity
  pointer : ∀ r ∈ t.added, ∀ v ∈ r.value,
    read t.batch.buf.entry (t.batch.buf.pointerOfParam r.key) v.length = v
  sent : ∀ r ∈ t.flushed, ∃ d, (r.key, d) ∈ t.batch.sent ∧
    ∀ v ∈ r.value, r.size = v.length → d = v

structure Holds (m : Mem) (cur : Nat) (r : Rec) : Prop where
  key : readWord m cur = r.key
  size : readWord m (cur + 4) = r.size
  aligned : readWord m (cur + 8) = r.aligned
  value : ∀ v ∈ r.value, read m (cur + dataOffset) v.length = v
  fits : r.size + dataOffset ≤ r.aligned ∧ ∀ v ∈ r.value, v.length + dataOffset ≤ r.aligned

def Laid (m : Mem) : Nat → List Rec → Prop
  | _, [] => True
  | cur, r :: l => Holds m cur r ∧ Laid m (cur + r.aligned) l

def offsets : Nat → List Rec → List Nat
  | _, [] => []
  | cur, r :: l => cur :: offsets (cur + r.aligned) l

variable {m n : Mem} {cur k : Nat} {r r' : Rec} {l pre post : List Rec} {b : ParmBuffer}

theorem total_append (l l' : List Rec) : total (l ++ l') = total l + total l' := by simp [total]

@[simp] theorem total_cons (r : Rec) (l : List Rec) : total (r :: l) = r.aligned + total l := by
  simp [total]

@[simp] theorem total_nil : total [] = 0 := rfl

theorem Holds.congr (h : Holds m cur r) (hm : ∀ i, cur ≤ i → i < cur + r.aligned → n i = m i) :
    Holds n cur r := by
  have hroom : dataOffset ≤ r.aligned := le_trans (Nat.le_add_left ..) h.fits.1
  have hword : ∀ d, d + 4 ≤ dataOffset → readWord n (cur + d) = readWord m (cur + d) :=
    fun d hd => readWord_congr fun i hi hlt => hm i (by omega) (by omega)
  refine ⟨(hword 0 (by decide)).trans h.key, (hword 4 (by decide)).trans h.size,
    (hword 8 (by decide)).trans h.aligned, fun v hv => ?_, h.fits⟩
  have hfit := h.fits.2 v hv
  have hsame : read n (cur + dataOffset) v.length = read m (cur + dataOffset) v.length :=
    read_congr fun i hi hlt => hm i (by omega) (by omega)
  rw [hsame]
  exact h.value v hv

theorem Laid.congr (h : Laid m cur l) (hm : ∀ i, cur ≤ i → i < cur + total l → n i = m i) :
    Laid n cur l := by
  induction l generalizing cur with
  | nil => trivial
  | cons r l ih =>
    rw [total_cons] at hm
    exact ⟨h.1.congr fun i hi hlt => hm i hi (by omega),
      ih h.2 fun i hi hlt => hm i (by omega) (by omega)⟩

theorem laid_append : Laid m cur (l ++ pre) ↔ Laid m cur l ∧ Laid m (cur + total l) pre := by
  induction l generalizing cur with
  | nil => simp [Laid]
  | cons r l ih =>
    rw [List.cons_append, Laid, Laid, ih, total_cons, and_assoc, Nat.add_assoc]

theorem Laid.visits (h : Laid b.entry cur l) : b.visits l.length cur = offsets cur l := by
  induction l generalizing cur with
  | nil => rfl
  | cons r l ih =>
    rw [List.length_cons, ParmBuffer.visits, offsets, getNextParam, h.1.aligned, ih h.2]

theorem Laid.search_none (h : Laid b.entry cur l) (hk : ∀ x ∈ l, ¬Rec.Is k x) :
    b.search k l.length cur = none := by
  induction l generalizing cur with
  | nil => rfl
  | cons r l ih =>
    have hr : r.key ≠ k := by simpa [Rec.Is] using hk r (List.mem_cons_self ..)
    rw [List.length_cons, search, h.1.key, if_neg (Ne.symm hr), getNextParam, h.1.aligned]
    exact ih h.2 fun x hx => hk x (List.mem_cons_of_mem _ hx)

theorem Laid.search_split (h : Laid b.entry cur (pre ++ r :: post)) (hk : ∀ x ∈ pre, ¬Rec.Is k x)
    (hr : r.key = k) : b.search k (pre ++ r :: post).length cur = some (cur + total pre) := by
  induction pre generalizing cur with
  | nil =>
    rw [List.nil_append, List.length_cons, search, h.1.key, if_pos hr.symm]
    rfl
  | cons x pre ih =>
    have hx : x.key ≠ k := by simpa [Rec.Is] using hk x (List.mem_cons_self ..)
    rw [List.cons_append, List.length_cons, search, h.1.key, if_neg (Ne.symm hx), getNextParam,
      h.1.aligned, ih h.2 (fun y hy => hk y (List.mem_cons_of_mem _ hy)), total_cons,
      Nat.add_assoc]

theorem le_align4 (x : Nat) : x ≤ align4 x := by
  unfold align4
  omega

theorem setHeader_apart {s a i : Nat} (h : i < cur ∨ cur + dataOffset ≤ i) :
    (b.setHeader cur k s a).entry i = b.entry i := by
  have hoff : dataOffset = 12 := rfl
  have h8 : i < cur + 8 ∨ cur + 8 + 4 ≤ i := h.imp (by omega) (by omega)
  have h4 : i < cur + 4 ∨ cur + 4 + 4 ≤ i := h.imp (by omega) (by omega)
  have h0 : i < cur ∨ cur + 4 ≤ i := h.imp id (by omega)
  unfold setHeader
  dsimp only
  rw [writeWord_apart h8, writeWord_apart h4, writeWord_apart h0]

theorem setHeader_fields {s a : Nat} (hk : k < 2 ^ 32) (hs : s < 2 ^ 32) (ha : a < 2 ^ 32) :
    readWord (b.setHeader cur k s a).entry cur = k ∧
      readWord (b.setHeader cur k s a).entry (cur + 4) = s ∧
      readWord (b.setHeader cur k s a).entry (cur + 8) = a := by
  unfold setHeader
  refine ⟨?_, ?_, readWord_writeWord ha⟩
  · rw [readWord_writeWord_apart (.inl (by omega)), readWord_writeWord_apart (.inl (by omega)),
      readWord_writeWord hk]
  · rw [readWord_writeWord_apart (.inl (by omega)), readWord_writeWord hs]

theorem setHeader_holds (hkey : r.key < 2 ^ 32) (ha : r.aligned < 2 ^ 32)
    (hfits : r.size + dataOffset ≤ r.aligned ∧ ∀ v ∈ r.value, v.length + dataOffset ≤ r.aligned)
    (hvalue : ∀ v ∈ r.value, read b.entry (cur + dataOffset) v.length = v) :
    Holds (b.setHeader cur r.key r.size r.aligned).entry cur r := by
  have hs : r.size < 2 ^ 32 := by omega
  obtain ⟨h0, h4, h8⟩ := @setHeader_fields cur r.key b r.size r.aligned hkey hs ha
  refine ⟨h0, h4, h8, fun v hv => ?_, hfits⟩
  have hsame : read (b.setHeader cur r.key r.size r.aligned).entry (cur + dataOffset) v.length =
      read b.entry (cur + dataOffset) v.length :=
    read_congr fun i hi _ => setHeader_apart (.inr hi)
  rw [hsame]
  exact hvalue v hv

theorem setData_holds {value : List UInt8} (hkey : k < 2 ^ 32)
    (ha : align4 (value.length + entrySize) < 2 ^ 32) :
    Holds ((b.setHeader cur k value.length (align4 (value.length + entrySize))).setData cur
      value).entry cur (.set k value) := by
  have hfit := le_align4 (value.length + entrySize)
  have hoff : dataOffset = 12 ∧ entrySize = 16 := ⟨rfl, rfl⟩
  have hs : value.length < 2 ^ 32 := by omega
  obtain ⟨h0, h4, h8⟩ := @setHeader_fields cur k b value.length _ hkey hs ha
  unfold setData
  refine ⟨?_, ?_, ?_, fun v hv => ?_, ?_, fun v hv => ?_⟩
  · exact (readWord_write_apart (.inl (by omega))).trans h0
  · exact (readWord_write_apart (.inl (by omega))).trans h4
  · exact (readWord_write_apart (.inl (by omega))).trans h8
  · obtain rfl := Option.some.inj hv
    exact read_write
  · change value.length + dataOffset ≤ align4 (value.length + entrySize)
    omega
  · obtain rfl := Option.some.inj hv
    change value.length + dataOffset ≤ align4 (value.length + entrySize)
    omega

theorem setData_apart {value : List UInt8} {a i : Nat}
    (h : i < cur ∨ cur + dataOffset + value.length ≤ i) :
    ((b.setHeader cur k value.length a).setData cur value).entry i = b.entry i := by
  unfold setData
  dsimp only
  rw [write_apart (h.imp (by omega) id)]
  exact setHeader_apart (h.imp id (by omega))

theorem Laid.replace (h : Laid m 0 (pre ++ r :: post)) (ha : r'.aligned = r.aligned)
    (hholds : Holds n (total pre) r')
    (hm : ∀ i, i < total pre ∨ total pre + r.aligned ≤ i → n i = m i) :
    Laid n 0 (pre ++ r' :: post) := by
  rw [laid_append, Nat.zero_add] at h ⊢
  refine ⟨h.1.congr fun i _ hlt => hm i (.inl (by omega)), hholds, ?_⟩
  rw [ha]
  exact h.2.2.congr fun i hi _ => hm i (.inr hi)

theorem Laid.concat (h : Laid m 0 l) (hholds : Holds n (total l) r)
    (hm : ∀ i, i < total l → n i = m i) : Laid n 0 (l ++ [r]) := by
  rw [laid_append, Nat.zero_add]
  exact ⟨h.congr fun i _ hlt => hm i (by omega), hholds, trivial⟩

structure Held (t : Tracked) : Prop where
  count : t.batch.buf.numEntry = t.added.length
  laid : Laid t.batch.buf.entry 0 t.added
  curr : t.batch.buf.currSize = total t.added
  room : t.batch.buf.currSize + t.batch.buf.totRemSize = capacity
  once : (t.added.map (·.key)).Nodup
  sent : ∀ r ∈ t.flushed, ∃ d, (r.key, d) ∈ t.batch.sent ∧
    ∀ v ∈ r.value, r.size = v.length → d = v

theorem offsets_keys (h : Laid m cur l) :
    ((offsets cur l).map fun c => readWord m c) = l.map (·.key) := by
  induction l generalizing cur with
  | nil => rfl
  | cons r l ih => rw [offsets, List.map_cons, List.map_cons, h.1.key, ih h.2]

theorem offsets_aligned (h : Laid m cur l) :
    ((offsets cur l).map fun c => readWord m (c + 8)) = l.map (·.aligned) := by
  induction l generalizing cur with
  | nil => rfl
  | cons r l ih => rw [offsets, List.map_cons, List.map_cons, h.1.aligned, ih h.2]

theorem le_of_mem_offsets (h : k ∈ offsets cur l) : cur ≤ k := by
  induction l generalizing cur with
  | nil => cases h
  | cons r l ih =>
    rcases List.mem_cons.mp h with rfl | h
    · exact Nat.le_refl k
    · exact le_trans (Nat.le_add_right ..) (ih h)

theorem offsets_apart (h : Laid m cur l) :
    (offsets cur l).Pairwise fun c next => c + readWord m (c + 8) ≤ next := by
  induction l generalizing cur with
  | nil => exact .nil
  | cons r l ih =>
    refine .cons (fun next hn => ?_) (ih h.2)
    rw [h.1.aligned]
    exact le_of_mem_offsets hn

theorem offsets_inside (h : Laid m cur l) : ∀ c ∈ offsets cur l,
    c + dataOffset + readWord m (c + 4) ≤ c + readWord m (c + 8) ∧
      c + readWord m (c + 8) ≤ cur + total l := by
  induction l generalizing cur with
  | nil => exact fun c hc => absurd hc List.not_mem_nil
  | cons r l ih =>
    intro c hc
    rw [total_cons]
    rcases List.mem_cons.mp hc with rfl | hc
    · rw [h.1.size, h.1.aligned]
      have hfits := h.1.fits.1
      omega
    · obtain ⟨hdata, hend⟩ := ih h.2 c hc
      exact ⟨hdata, by omega⟩

theorem split_of_mem (hn : (l.map (·.key)).Nodup) (hr : r ∈ l) :
    ∃ pre post, l = pre ++ r :: post ∧ ∀ x ∈ pre, ¬Rec.Is r.key x := by
  obtain ⟨pre, post, rfl⟩ := List.append_of_mem hr
  refine ⟨pre, post, rfl, fun x hx hkey => ?_⟩
  rw [List.map_append, List.map_cons, List.nodup_append] at hn
  have hne := hn.2.2 x.key (List.mem_map_of_mem hx) r.key (List.mem_cons_self ..)
  exact hne (by simpa [Rec.Is] using hkey)

theorem Held.refines {t : Tracked} (h : Held t) : Refines t := by
  have hwalk : t.batch.buf.walk = offsets 0 t.added := by
    unfold walk
    rw [h.count]
    exact h.laid.visits
  refine ⟨?_, h.once, ?_, fun cur hcur => ?_, ?_, h.room, fun r hr v hv => ?_, h.sent⟩
  · rw [hwalk]
    exact offsets_keys h.laid
  · rw [hwalk]
    exact offsets_apart h.laid
  · rw [hwalk] at hcur
    obtain ⟨hdata, hend⟩ := offsets_inside h.laid cur hcur
    have hcurr := h.curr
    have hroom := h.room
    unfold getNextParam
    exact ⟨hdata, by omega⟩
  · rw [hwalk, offsets_aligned h.laid, h.curr]
    rfl
  · obtain ⟨pre, post, hsplit, hpre⟩ := split_of_mem h.once hr
    have hlaid := h.laid
    rw [hsplit] at hlaid
    have hfound := hlaid.search_split hpre rfl
    rw [← hsplit, ← h.count, Nat.zero_add] at hfound
    unfold pointerOfParam
    rw [hfound]
    rw [laid_append, Nat.zero_add] at hlaid
    exact hlaid.2.1.value v hv

theorem Held.search {t : Tracked} (h : Held t) (key : Nat) :
    (∃ pre r post, t.added = pre ++ r :: post ∧ (∀ x ∈ pre, ¬Rec.Is key x) ∧ r.key = key ∧
      t.batch.buf.search key t.batch.buf.numEntry 0 = some (total pre)) ∨
    (∀ x ∈ t.added, ¬Rec.Is key x) ∧
      t.batch.buf.search key t.batch.buf.numEntry 0 = none := by
  have hlaid := h.laid
  rw [h.count]
  rcases split_or_none (Rec.Is key) t.added with ⟨pre, r, post, hsplit, hpre, hr⟩ | hnone
  · have hkey : r.key = key := by simpa [Rec.Is] using hr
    rw [hsplit] at hlaid ⊢
    have hfound := hlaid.search_split hpre hkey
    rw [Nat.zero_add] at hfound
    exact .inl ⟨pre, r, post, rfl, hpre, hkey, hfound⟩
  · exact .inr ⟨hnone, hlaid.search_none hnone⟩

theorem held_init (sent : List Sent) (flushed : List Rec)
    (hsent : ∀ r ∈ flushed, ∃ d, (r.key, d) ∈ sent ∧ ∀ v ∈ r.value, r.size = v.length → d = v) :
    Held { batch := { buf := initBatchUpdate, sent := sent }, added := [], flushed := flushed } :=
  ⟨rfl, trivial, rfl, Nat.zero_add capacity, .nil, hsent⟩

theorem Held.overwrite {t : Tracked} (h : Held t) (hsplit : t.added = pre ++ r :: post)
    (hkey : r'.key = r.key) (ha : r'.aligned = r.aligned) {buf : ParmBuffer}
    (hnum : buf.numEntry = t.batch.buf.numEntry) (hcurr : buf.currSize = t.batch.buf.currSize)
    (hrem : buf.totRemSize = t.batch.buf.totRemSize) (hholds : Holds buf.entry (total pre) r')
    (hm : ∀ i, i < total pre ∨ total pre + r.aligned ≤ i → buf.entry i = t.batch.buf.entry i) :
    Held { batch := { buf := buf, sent := t.batch.sent }, added := pre ++ r' :: post
           flushed := t.flushed } := by
  have hlaid := h.laid
  have honce := h.once
  rw [hsplit] at hlaid honce
  refine ⟨?_, hlaid.replace ha hholds hm, ?_, ?_, ?_, h.sent⟩
  · change buf.numEntry = _
    rw [hnum, h.count, hsplit]
    simp
  · change buf.currSize = _
    rw [hcurr, h.curr, hsplit, total_append, total_append, total_cons, total_cons, ha]
  · change buf.currSize + buf.totRemSize = capacity
    rw [hcurr, hrem]
    exact h.room
  · simpa [hkey] using honce

theorem Held.concat {t : Tracked} (h : Held t) (hnew : ∀ x ∈ t.added, ¬Rec.Is r.key x)
    (hroom : total t.added + r.aligned ≤ capacity) {buf : ParmBuffer}
    (hnum : buf.numEntry = t.batch.buf.numEntry + 1)
    (hcurr : buf.currSize = t.batch.buf.currSize + r.aligned)
    (hrem : buf.totRemSize = t.batch.buf.totRemSize - r.aligned)
    (hholds : Holds buf.entry (total t.added) r)
    (hm : ∀ i, i < total t.added → buf.entry i = t.batch.buf.entry i) :
    Held { batch := { buf := buf, sent := t.batch.sent }, added := t.added ++ [r]
           flushed := t.flushed } := by
  have hsum := h.curr
  have hrest := h.room
  refine ⟨?_, h.laid.concat hholds hm, ?_, ?_, ?_, h.sent⟩
  · change buf.numEntry = _
    rw [hnum, h.count]
    simp
  · change buf.currSize = _
    rw [hcurr, h.curr, total_append, total_cons, total_nil, Nat.add_zero]
  · change buf.currSize + buf.totRemSize = capacity
    rw [hcurr, hrem]
    omega
  · rw [List.map_append, List.nodup_append]
    refine ⟨h.once, List.nodup_singleton _, fun a hmem b hb => ?_⟩
    obtain ⟨x, hx, rfl⟩ := List.mem_map.mp hmem
    obtain rfl := List.mem_singleton.mp hb
    simpa [Rec.Is] using hnew x hx

theorem contents_held {t : Tracked} (h : Held t) (hr : r ∈ t.added) :
    ∃ d, (r.key, d) ∈ Batch.contents t.batch.buf ∧ ∀ v ∈ r.value, r.size = v.length → d = v := by
  obtain ⟨pre, post, hsplit⟩ := List.append_of_mem hr
  have hwalk : t.batch.buf.walk = offsets 0 t.added := by
    unfold walk
    rw [h.count]
    exact h.laid.visits
  have hmem : ∀ (pre : List Rec) cur, cur + total pre ∈ offsets cur (pre ++ r :: post) := by
    intro pre
    induction pre with
    | nil => exact fun cur => List.mem_cons_self ..
    | cons x pre ih =>
      intro cur
      rw [total_cons, ← Nat.add_assoc]
      exact List.mem_cons_of_mem _ (ih _)
  have hlaid := h.laid
  rw [hsplit, laid_append, Nat.zero_add] at hlaid
  have hholds := hlaid.2.1
  refine ⟨read t.batch.buf.entry (total pre + dataOffset)
    (readWord t.batch.buf.entry (total pre + 4)), ?_, fun v hv hsize => ?_⟩
  · unfold Batch.contents
    rw [hwalk, hsplit]
    have hin := List.mem_map_of_mem (f := fun cur => (readWord t.batch.buf.entry cur,
      read t.batch.buf.entry (cur + dataOffset) (readWord t.batch.buf.entry (cur + 4)))) (hmem pre 0)
    rw [Nat.zero_add, hholds.key] at hin
    exact hin
  · rw [hholds.size, hsize]
    exact hholds.value v hv

variable {t : Tracked} {paramType parmTypeSize : Nat} {value : List UInt8} {setParms : Bool}

theorem not_is_iff {l : List Rec} :
    (∀ x ∈ l, ¬Rec.Is paramType x) ↔ ∀ x ∈ l, x.key ≠ paramType := by
  simp [Rec.Is]

theorem Held.addNew (h : Held t) (hkey : paramType < 2 ^ 32)
    (hnew : ∀ x ∈ t.added, ¬Rec.Is paramType x)
    (hroom : total t.added + align4 (value.length + entrySize) ≤ capacity) :
    Held { batch := { buf := (((t.batch.buf.append (align4 (value.length + entrySize))).1.setHeader
                        t.batch.buf.currSize paramType value.length
                        (align4 (value.length + entrySize))).setData t.batch.buf.currSize value)
                      sent := t.batch.sent }
           added := t.added ++ [Rec.set paramType value], flushed := t.flushed } := by
  have hcap : capacity < 2 ^ 32 := by decide
  have ha : align4 (value.length + entrySize) < 2 ^ 32 := by omega
  rw [h.curr]
  refine @Held.concat (Rec.set paramType value) t h hnew hroom _ rfl rfl rfl
    (setData_holds hkey ha) fun i hi => ?_
  exact setData_apart (.inl hi)

theorem Held.addSet (h : Held t) (hr : BatchEvent.InRange (.addSet paramType value setParms))
    (hs : BatchEvent.Sound parmTypeSize t.batch.buf (.addSet paramType value setParms)) :
    Held (t.addSet paramType value setParms) := by
  obtain ⟨hkey, hfit⟩ := hr
  have hcap : capacity < 2 ^ 32 := by decide
  have hword : align4 (value.length + entrySize) < 2 ^ 32 := by omega
  unfold BatchEvent.Sound at hs
  dsimp only at hs
  unfold Tracked.addSet Batch.addSetParmEntryToBatch
  dsimp only
  rcases h.search paramType with ⟨pre, r, post, hsplit, hpre, hr, hfound⟩ | ⟨hnew, hnone⟩
  · rw [hfound] at hs ⊢
    dsimp only at hs ⊢
    have hlaid := h.laid
    rw [hsplit, laid_append, Nat.zero_add] at hlaid
    have haligned : (Rec.set paramType value).aligned = r.aligned :=
      hs.symm.trans hlaid.2.1.aligned
    have hpresent : ¬Tracked.Overflows t.added (Rec.set paramType value) := by
      rintro ⟨hno, -⟩
      exact hno r (by rw [hsplit]; simp) hr
    rw [if_neg hpresent, if_neg hpresent, List.append_nil, hsplit,
      upsert_split hpre (by simpa [Rec.Is] using hr)]
    refine h.overwrite hsplit hr.symm haligned rfl rfl rfl (setData_holds hkey hword) ?_
    intro i hi
    have hend := le_align4 (value.length + entrySize)
    have hoff : dataOffset = 12 ∧ entrySize = 16 := ⟨rfl, rfl⟩
    have haligned' : align4 (value.length + entrySize) = r.aligned := haligned
    exact setData_apart (hi.imp id (by omega))
  · rw [hnone] at hs ⊢
    dsimp only at hs ⊢
    have hcurr := h.curr
    have hroom := h.room
    have hover : Tracked.Overflows t.added (Rec.set paramType value) ↔
        t.batch.buf.totRemSize < align4 (value.length + entrySize) := by
      have haligned : (Rec.set paramType value).aligned = align4 (value.length + entrySize) := rfl
      constructor
      · rintro ⟨-, hfull⟩
        omega
      · exact fun hfull => ⟨not_is_iff.mp hnew, by omega⟩
    by_cases hfull : t.batch.buf.totRemSize < align4 (value.length + entrySize)
    · rw [if_pos (hover.mpr hfull), if_pos (hover.mpr hfull), if_pos hfull, hs hfull]
      have hsent : ∀ r ∈ t.flushed ++ t.added, ∃ d,
          (r.key, d) ∈ (t.batch.commitSetBatch true).1.sent ∧
            ∀ v ∈ r.value, r.size = v.length → d = v := by
        have hnum : 0 < t.batch.buf.numEntry := by
          by_contra hzero
          have hempty : t.added = [] := List.length_eq_zero_iff.mp (by have := h.count; omega)
          rw [hempty, total_nil] at hcurr
          omega
        unfold Batch.commitSetBatch
        rw [if_pos hnum, if_pos rfl]
        intro r hr
        rcases List.mem_append.mp hr with hr | hr
        · obtain ⟨d, hd, hv⟩ := h.sent r hr
          exact ⟨d, List.mem_append_left _ hd, hv⟩
        · obtain ⟨d, hd, hv⟩ := contents_held h hr
          exact ⟨d, List.mem_append_right _ hd, hv⟩
      exact (held_init _ _ hsent).addNew hkey (fun x hx => absurd hx List.not_mem_nil)
        (by rw [total_nil]; omega)
    · rw [if_neg fun ho => hfull (hover.mp ho), if_neg fun ho => hfull (hover.mp ho), if_neg hfull,
        List.append_nil, upsert_new hnew]
      exact h.addNew hkey hnew (by omega)

theorem Held.addGet (h : Held t) (hkey : paramType < 2 ^ 32)
    (hs : BatchEvent.Sound parmTypeSize t.batch.buf (.addGet paramType)) :
    Held (t.addGet parmTypeSize paramType) := by
  have hcap : capacity < 2 ^ 32 := by decide
  have hoff : dataOffset = 12 ∧ entrySize = 16 := ⟨rfl, rfl⟩
  have hsize := le_align4 (parmTypeSize + entrySize - 1)
  have haligned : (Rec.get parmTypeSize paramType).aligned =
    align4 (parmTypeSize + entrySize - 1) := rfl
  unfold BatchEvent.Sound at hs
  dsimp only at hs
  unfold Tracked.addGet Batch.addGetParmEntryToBatch
  dsimp only
  rcases h.search paramType with ⟨pre, r, post, hsplit, hpre, hr, hfound⟩ | ⟨hnew, hnone⟩
  · have hsame := hs _ hfound
    rw [hfound]
    dsimp only
    have hlaid := h.laid
    have hcurr := h.curr
    have hroom := h.room
    rw [hsplit, total_append, total_cons] at hcurr
    rw [hsplit, laid_append, Nat.zero_add] at hlaid
    have hholds := hlaid.2.1
    have ha : align4 (parmTypeSize + entrySize - 1) = r.aligned := hsame.symm.trans hholds.aligned
    have hpresent : ¬Tracked.Overflows t.added (Rec.get parmTypeSize paramType) := by
      rintro ⟨hno, -⟩
      exact hno r (by rw [hsplit]; simp) hr
    rw [if_neg hpresent, hsplit, upsert_split hpre (by simpa [Rec.Is] using hr)]
    refine h.overwrite hsplit hr.symm ha rfl rfl rfl ?_ ?_
    · refine @setHeader_holds (total pre) { Rec.get parmTypeSize paramType with value := r.value }
        t.batch.buf hkey ?_ ⟨?_, fun v hv => ?_⟩ hholds.value
      · change align4 (parmTypeSize + entrySize - 1) < 2 ^ 32
        omega
      · change parmTypeSize + dataOffset ≤ align4 (parmTypeSize + entrySize - 1)
        omega
      · change v.length + dataOffset ≤ align4 (parmTypeSize + entrySize - 1)
        rw [ha]
        exact hholds.fits.2 v hv
    · intro i hi
      have hfits := hholds.fits.1
      exact setHeader_apart (hi.imp id (by omega))
  · rw [hnone]
    dsimp only
    have hcurr := h.curr
    have hroom := h.room
    have hover : Tracked.Overflows t.added (Rec.get parmTypeSize paramType) ↔
        t.batch.buf.totRemSize < align4 (parmTypeSize + entrySize - 1) := by
      constructor
      · rintro ⟨-, hfull⟩
        omega
      · exact fun hfull => ⟨not_is_iff.mp hnew, by omega⟩
    by_cases hfull : t.batch.buf.totRemSize < align4 (parmTypeSize + entrySize - 1)
    · rw [if_pos hfull, if_pos (hover.mpr hfull)]
      exact h
    · have happend : (t.batch.buf.append (align4 (parmTypeSize + entrySize - 1))).2 =
          total t.added := hcurr
      rw [if_neg hfull, if_neg fun ho => hfull (hover.mp ho), upsert_new hnew, happend]
      refine @Held.concat (Rec.get parmTypeSize paramType) t h hnew (by omega) _ rfl rfl rfl ?_ ?_
      · refine @setHeader_holds (total t.added) (Rec.get parmTypeSize paramType) _ hkey ?_
          ⟨?_, fun v hv => absurd hv (by simp [Rec.get])⟩ fun v hv => absurd hv (by simp [Rec.get])
        · omega
        · change parmTypeSize + dataOffset ≤ align4 (parmTypeSize + entrySize - 1)
          omega
      · exact fun i hi => setHeader_apart (.inl hi)

theorem Held.step {e : BatchEvent} {u : Tracked} (h : Held t) (hr : e.InRange)
    (hs : e.Sound parmTypeSize t.batch.buf) (hstep : t.step parmTypeSize e = some u) : Held u := by
  cases e with
  | init =>
    obtain rfl := Option.some.inj hstep
    exact held_init _ _ h.sent
  | addSet paramType value setParms =>
    obtain rfl := Option.some.inj hstep
    exact h.addSet hr hs
  | addGet paramType =>
    obtain rfl := Option.some.inj hstep
    exact h.addGet hr hs

/-- In a run in which each entry that is put over another has its size, and each early commit
succeeds, the buffer holds the map of the last values, and what an early commit took out of it was
sent. -/
theorem batch_refines_map {es : List BatchEvent}
    (hrange : ∀ e ∈ es, e.InRange)
    (hsound : Runs.Along (Tracked.step parmTypeSize)
      (fun t e => e.Sound parmTypeSize t.batch.buf) {} es)
    (h : Runs.play (Tracked.step parmTypeSize) {} es = some t) : Refines t := by
  have hrange' : Runs.Along (Tracked.step parmTypeSize) (fun _ e => e.InRange) {} es :=
    .of_forall (fun e he _ => hrange e he) _
  have hboth := hrange'.and hsound
  have hinit : Held {} := held_init [] [] fun r hr => absurd hr List.not_mem_nil
  exact (Runs.play_invariant (fun _ _ _ hi hp hstep => hi.step hp.1 hp.2 hstep) hinit hboth h).refines

instance (e : BatchEvent) : Decidable e.InRange :=
  match e with
  | .init => isTrue trivial
  | .addSet .. => inferInstanceAs (Decidable (_ ∧ _))
  | .addGet _ => inferInstanceAs (Decidable (_ < _))

instance (parmTypeSize : Nat) (b : ParmBuffer) (e : BatchEvent) :
    Decidable (e.Sound parmTypeSize b) :=
  match e with
  | .init => isTrue trivial
  | .addSet paramType paramValue setParms =>
    match hs : b.search paramType b.numEntry 0 with
    | some cur => decidable_of_iff
        (readWord b.entry (cur + 8) = align4 (paramValue.length + entrySize))
        (by simp only [BatchEvent.Sound, hs])
    | none => decidable_of_iff
        (b.totRemSize < align4 (paramValue.length + entrySize) → setParms = true)
        (by simp only [BatchEvent.Sound, hs])
  | .addGet paramType => inferInstanceAs (Decidable (∀ cur ∈ b.search paramType b.numEntry 0, _))

/-- A value set again with another of its size. -/
theorem batch_refines_map_again :
    ∃ t, Runs.play (Tracked.step 8) {} [.addSet 5 [1, 2, 3, 4] true, .addGet 9,
        .addSet 5 [7, 8, 9, 6] true] = some t ∧ Refines t :=
  ⟨_, rfl, @batch_refines_map _ 8 [.addSet 5 [1, 2, 3, 4] true, .addGet 9,
    .addSet 5 [7, 8, 9, 6] true] (by decide) (by decide) rfl⟩

/-- A value set again with a longer one. -/
theorem longer_value_breaks_walk :
    ¬∀ (parmTypeSize : Nat) (es : List BatchEvent) (t : Tracked), (∀ e ∈ es, e.InRange) →
      Runs.play (Tracked.step parmTypeSize) {} es = some t → Refines t := by
  intro hall
  have hafter := hall 8 [.addSet 5 [1, 2, 3, 4] true,
    .addSet 5 [1, 2, 3, 4, 5] true] _ (by decide) rfl
  have hsum : 24 = 20 := hafter.sum
  exact absurd hsum (by decide)

end Wt88047.Params
