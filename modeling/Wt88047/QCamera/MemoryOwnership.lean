import Wt88047.Lib.Pool
import Wt88047.Lib.Tally
import Wt88047.QCamera.Memory

/-! Each ION buffer has one place, over every sequence of calls on the memory objects. -/

namespace Wt88047.Memory

def own (w : World) (o : Nat) : List Nat :=
  (List.range (w.bufferCount o)).filterMap fun i => (w.memInfo o i).ion

def placed (objs : List Config) (w : World) : List Nat :=
  (List.range objs.length).flatMap (own w) ++ pooled w

def Owned (objs : List Config) (w : World) : Prop :=
  ∀ b, (placed objs w).count b + w.freed.count b = if b < w.next then 1 else 0

def fails (heapId : Nat) (objs : List Config) (w : World) : Event → Bool
  | .allocate o count size ok mapOk =>
    (objs[o]?.map fun c => !(allocate heapId c o count size ok mapOk w).1).getD false
  | .allocateMore o count size ok mapOk =>
    (objs[o]?.map fun c => !(allocateMore heapId c o count size ok mapOk w).1).getD false
  | _ => false

def LeavesBuffers (w w' : World) : Prop :=
  ∀ o, w'.bufferCount o = w.bufferCount o ∧ ∀ i < w.bufferCount o, w'.memInfo o i = w.memInfo o i

/-- `allocate` comes to an object without buffers, no allocation for an object that has some fails,
and no mapping of a heap memory object does. -/
def Steady (objs : List Config) (w : World) : Event → Prop
  | .allocate o count _ _ mapOk => ∀ c ∈ objs[o]?, w.bufferCount o + count ≤ maxNumFrames →
      w.bufferCount o = 0 ∧ (c.kind = .heap → ∀ i < count, mapOk i = true)
  | .allocateMore o count _ ok mapOk => ∀ c ∈ objs[o]?, w.bufferCount o + count ≤ maxNumFrames →
      (w.bufferCount o = 0 ∨ ∀ i < count, ok (w.bufferCount o + i) = true) ∧
      (c.kind = .heap → ∀ i < count, mapOk (w.bufferCount o + i) = true)
  | _ => True

instance (objs : List Config) (w : World) (e : Event) : Decidable (Steady objs w e) :=
  match e with
  | .allocate o count _ _ mapOk =>
    inferInstanceAs (Decidable (∀ c ∈ objs[o]?, w.bufferCount o + count ≤ maxNumFrames →
      w.bufferCount o = 0 ∧ (c.kind = .heap → ∀ i < count, mapOk i = true)))
  | .allocateMore o count _ ok mapOk =>
    inferInstanceAs (Decidable (∀ c ∈ objs[o]?, w.bufferCount o + count ≤ maxNumFrames →
      (w.bufferCount o = 0 ∨ ∀ i < count, ok (w.bufferCount o + i) = true) ∧
      (c.kind = .heap → ∀ i < count, mapOk (w.bufferCount o + i) = true)))
  | .deallocate _ | .clear => isTrue trivial

def issued (w : World) (b : Nat) : Nat := if b < w.next then 1 else 0

def slice (w : World) (o i n : Nat) : List Nat := (List.range' i n).filterMap fun j => (w.memInfo o j).ion

section

variable {heapId : Nat} {c : Config} {o i size : Nat} {w w' : World}

theorem streamTypes_nodup : streamTypes.Nodup := by decide

theorem mem_streamTypes (t : Superbuf.StreamType) : t ∈ streamTypes := by cases t <;> decide

theorem pooled_setPool (w : World) (t : Superbuf.StreamType) (l : List MemInfo) (b : Nat) :
    (pooled (w.setPool t l)).count b + ((w.pools t).filterMap MemInfo.ion).count b =
      (pooled w).count b + (l.filterMap MemInfo.ion).count b := by
  have h := Tally.count_flatMap_exchange (f := fun s => (w.pools s).filterMap MemInfo.ion)
    (g := fun s => ((w.setPool t l).pools s).filterMap MemInfo.ion) streamTypes_nodup
    (mem_streamTypes t) (fun s _ hs => by simp [World.setPool, hs]) b
  rw [show ((w.setPool t l).pools t) = l from if_pos rfl] at h
  exact h

theorem findBufferLocked_spec {entries rest : List MemInfo} {cached : Bool} {t : Superbuf.StreamType}
    {m : MemInfo} (h : findBufferLocked entries heapId size cached t = some (m, rest)) :
    size ≤ m.size ∧ m.heapId = heapId ∧ m.cached = cached ∧ entries.Perm (m :: rest) := by
  obtain ⟨m', hfind, he⟩ := Option.map_eq_some_iff.mp h
  obtain ⟨rfl, rfl⟩ := Prod.mk.inj he
  have hfits := List.find?_some hfind
  simp only [Bool.and_eq_true, decide_eq_true_eq] at hfits
  obtain ⟨⟨hsize, hheap⟩, hcached⟩ := hfits
  refine ⟨?_, hheap, hcached, ?_⟩
  · split at hsize
    · exact Nat.le_of_eq (of_decide_eq_true hsize).symm
    · exact of_decide_eq_true hsize
  · exact Pool.perm_cons_eraseP_of_find? hfind

theorem count_cons_ion (m : MemInfo) (l : List MemInfo) (b : Nat) :
    ((m :: l).filterMap MemInfo.ion).count b =
      m.ion.toList.count b + (l.filterMap MemInfo.ion).count b := by
  cases hm : m.ion with
  | none => simp [List.filterMap_cons_none hm]
  | some a =>
    rw [List.filterMap_cons_some hm, Option.toList_some, ← List.count_append, List.singleton_append]

structure Fills (o i : Nat) (w w' : World) : Prop where
  other : ∀ p j, ¬(p = o ∧ j = i) → w'.memInfo p j = w.memInfo p j
  count : w'.bufferCount = w.bufferCount

theorem allocBuffer_spec {ok : Bool} (h : allocBuffer heapId c o i size ok w = some w') :
    Fills o i w w' ∧ w'.freed = w.freed ∧ ∀ b, (pooled w').count b +
      (w'.memInfo o i).ion.toList.count b + issued w b = (pooled w).count b + issued w' b := by
  have hfill : ∀ (v : World) (m : MemInfo), v.memInfo = w.memInfo → v.bufferCount = w.bufferCount →
      Fills o i w (v.setInfo o i m) ∧ (v.setInfo o i m).memInfo o i = m := fun v m hv hb => by
    refine ⟨⟨fun p j hpj => ?_, hb⟩, if_pos ⟨rfl, rfl⟩⟩
    rw [← hv]
    exact if_neg hpj
  unfold allocBuffer at h
  split at h
  · rename_i m rest hfind
    obtain rfl := Option.some.inj h
    obtain ⟨hf, hm⟩ := hfill (w.setPool c.streamType rest) m rfl rfl
    refine ⟨hf, rfl, fun b => ?_⟩
    rw [hm]
    have hperm : (w.pools c.streamType).Perm (m :: rest) := by
      split at hfind
      · exact (findBufferLocked_spec hfind).2.2.2
      · cases hfind
    have hcount := (hperm.filterMap MemInfo.ion).count_eq b
    have hset := pooled_setPool w c.streamType rest b
    rw [count_cons_ion] at hcount
    show (pooled (w.setPool c.streamType rest)).count b + m.ion.toList.count b + issued w b =
      (pooled w).count b + issued w b
    omega
  · cases ok with
    | true =>
      obtain rfl := Option.some.inj h
      have hfills := (hfill w (allocOneBuffer w.next heapId size c.cached) rfl rfl).1
      refine ⟨⟨hfills.other, hfills.count⟩, rfl, fun b => ?_⟩
      have hion : (({ w.setInfo o i (allocOneBuffer w.next heapId size c.cached) with
          next := w.next + 1 } : World).memInfo o i).ion = some w.next :=
        congrArg MemInfo.ion (if_pos ⟨rfl, rfl⟩)
      rw [hion, Option.toList_some, List.count_singleton]
      show (pooled w).count b + _ + (if b < w.next then 1 else 0) =
        (pooled w).count b + if b < w.next + 1 then 1 else 0
      by_cases hb : w.next = b
      · simp [hb]
      · have hlt : b < w.next ↔ b < w.next + 1 := by omega
        simp [hb, hlt]
    | false => cases h

theorem giveUp_spec (c : Config) (o i : Nat) (w : World) :
    Fills o i w (giveUp c o w i) ∧ (giveUp c o w i).next = w.next ∧
      ∀ b, (pooled (giveUp c o w i)).count b + (giveUp c o w i).freed.count b =
        (pooled w).count b + w.freed.count b + (w.memInfo o i).ion.toList.count b := by
  unfold giveUp
  cases c.pooled with
  | true =>
    refine ⟨⟨fun _ _ _ => rfl, rfl⟩, rfl, fun b => ?_⟩
    have hset := pooled_setPool w c.streamType (w.pools c.streamType ++ [w.memInfo o i]) b
    have hone := count_cons_ion (w.memInfo o i) [] b
    rw [List.filterMap_append, List.count_append] at hset
    show (pooled (w.setPool c.streamType (w.pools c.streamType ++ [w.memInfo o i]))).count b +
      w.freed.count b = _
    simp only [List.filterMap_nil, List.count_nil] at hone
    omega
  | false =>
    refine ⟨⟨fun p j hpj => if_neg hpj, rfl⟩, rfl, fun b => ?_⟩
    show (pooled w).count b + ((w.memInfo o i).ion.toList ++ w.freed).count b = _
    rw [List.count_append]
    omega

theorem giveUp_all (c : Config) (o : Nat) {js : List Nat} (hjs : js.Nodup) (w : World) :
    (∀ p j, p ≠ o ∨ j ∉ js → (js.foldl (giveUp c o) w).memInfo p j = w.memInfo p j) ∧
      (js.foldl (giveUp c o) w).bufferCount = w.bufferCount ∧
      (js.foldl (giveUp c o) w).next = w.next ∧
      ∀ b, (pooled (js.foldl (giveUp c o) w)).count b + (js.foldl (giveUp c o) w).freed.count b =
        (pooled w).count b + w.freed.count b +
          (js.filterMap fun j => (w.memInfo o j).ion).count b := by
  induction js generalizing w with
  | nil => exact ⟨fun _ _ _ => rfl, rfl, rfl, fun b => rfl⟩
  | cons j js ih =>
    obtain ⟨hj, hjs⟩ := List.nodup_cons.mp hjs
    obtain ⟨hf, hn, hc⟩ := giveUp_spec c o j w
    obtain ⟨h1, h2, h3, h4⟩ := ih hjs (giveUp c o w j)
    refine ⟨fun p k hpk => ?_, h2.trans hf.count, h3.trans hn, fun b => ?_⟩
    · rw [List.foldl_cons, h1 p k (hpk.imp_right fun h hk => h (List.mem_cons_of_mem _ hk))]
      refine hf.other p k fun he => ?_
      rcases hpk with hp | hk
      · exact hp he.1
      · exact hk (he.2 ▸ List.mem_cons_self ..)
    · have hrest : (js.filterMap fun k => ((giveUp c o w j).memInfo o k).ion) =
          js.filterMap fun k => (w.memInfo o k).ion := by
        refine List.filterMap_congr fun k hk => ?_
        rw [hf.other o k fun he => hj (he.2 ▸ hk)]
      have h4b := h4 b
      rw [hrest] at h4b
      have hcb := hc b
      have hhead : ((j :: js).filterMap fun k => (w.memInfo o k).ion).count b =
          (w.memInfo o j).ion.toList.count b + (js.filterMap fun k => (w.memInfo o k).ion).count b := by
        cases hm : (w.memInfo o j).ion with
        | none => simp [hm]
        | some a =>
          rw [List.filterMap_cons_some (by exact hm), Option.toList_some, ← List.count_append,
            List.singleton_append]
      rw [List.foldl_cons, hhead]
      omega

theorem slice_succ (w : World) (o i n : Nat) (b : Nat) : (slice w o i (n + 1)).count b =
    (w.memInfo o i).ion.toList.count b + (slice w o (i + 1) n).count b := by
  unfold slice
  rw [List.range'_succ]
  cases hm : (w.memInfo o i).ion with
  | none => simp [hm]
  | some a =>
    rw [List.filterMap_cons_some (by exact hm), Option.toList_some, ← List.count_append,
      List.singleton_append]

theorem slice_append (w : World) (o i m n : Nat) :
    slice w o i (m + n) = slice w o i m ++ slice w o (i + m) n := by
  unfold slice
  rw [← List.filterMap_append, List.range'_append_1]

theorem slice_congr {v : World} {n : Nat} (h : ∀ j, i ≤ j → j < i + n → v.memInfo o j = w.memInfo o j) :
    slice v o i n = slice w o i n := by
  refine List.filterMap_congr fun j hj => ?_
  obtain ⟨h1, h2⟩ := List.mem_range'_1.mp hj
  rw [h j h1 h2]

theorem own_eq_slice (w : World) (o : Nat) : own w o = slice w o 0 (w.bufferCount o) := by
  unfold own slice
  rw [List.range_eq_range']

theorem allocLoop_true {ok : Nat → Bool} (n : Nat)
    (h : allocLoop heapId c o size ok n i w = (true, w')) :
    (∀ p j, p ≠ o ∨ j < i ∨ i + n ≤ j → w'.memInfo p j = w.memInfo p j) ∧
      w'.bufferCount = w.bufferCount ∧ w'.freed = w.freed ∧ ∀ b, (pooled w').count b +
        (slice w' o i n).count b + issued w b = (pooled w).count b + issued w' b := by
  induction n generalizing i w with
  | zero =>
    obtain rfl := (Prod.mk.inj h).2
    exact ⟨fun _ _ _ => rfl, rfl, rfl, fun b => rfl⟩
  | succ n ih =>
    unfold allocLoop at h
    split at h
    · rename_i v hv
      obtain ⟨hf, hfr, hc⟩ := allocBuffer_spec hv
      obtain ⟨h1, h2, h3, h4⟩ := ih h
      refine ⟨fun p j hpj => ?_, h2.trans hf.count, h3.trans hfr, fun b => ?_⟩
      · rw [h1 p j (by omega)]
        exact hf.other p j (by omega)
      · have hsame : w'.memInfo o i = v.memInfo o i := h1 o i (.inr (.inl (Nat.lt_succ_self i)))
        have hcb := hc b
        have h4b := h4 b
        rw [slice_succ, hsame]
        omega
    · cases (Prod.mk.inj h).1

theorem allocLoop_false {ok : Nat → Bool} (n : Nat)
    (h : allocLoop heapId c o size ok n i w = (false, w')) :
    (∀ p j, p ≠ o → w'.memInfo p j = w.memInfo p j) ∧ w'.bufferCount = w.bufferCount ∧
      ∀ b, (pooled w').count b + w'.freed.count b + issued w b =
        (pooled w).count b + w.freed.count b + (slice w o 0 i).count b + issued w' b := by
  induction n generalizing i w with
  | zero => cases (Prod.mk.inj h).1
  | succ n ih =>
    unfold allocLoop at h
    split at h
    · rename_i v hv
      obtain ⟨hf, hfr, hc⟩ := allocBuffer_spec hv
      obtain ⟨h1, h2, h3⟩ := ih h
      refine ⟨fun p j hp => ?_, h2.trans hf.count, fun b => ?_⟩
      · rw [h1 p j hp]
        exact hf.other p j fun he => hp he.1
      · have hlow : slice v o 0 i = slice w o 0 i :=
          slice_congr fun j _ hj => hf.other o j (by omega)
        have hone := slice_succ v o i 0 b
        have happ := slice_append v o 0 i 1
        have hcb := hc b
        have h3b := h3 b
        rw [happ, List.count_append, hlow, Nat.zero_add, hone, hfr] at h3b
        simp only [slice, List.range'_zero, List.filterMap_nil, List.count_nil] at h3b ⊢
        omega
    · obtain rfl := (Prod.mk.inj h).2
      obtain ⟨h1, h2, h3, h4⟩ := giveUp_all c o (List.nodup_reverse.mpr List.nodup_range) w
      refine ⟨fun p j hp => h1 p j (.inl hp), h2, fun b => ?_⟩
      have h4b := h4 b
      rw [List.filterMap_reverse, List.count_reverse, List.range_eq_range'] at h4b
      have hsame : issued ((List.range i).reverse.foldl (giveUp c o) w) b = issued w b := by
        unfold issued
        rw [h3]
      rw [hsame, List.range_eq_range']
      show _ = _ + ((List.range' 0 i).filterMap fun j => (w.memInfo o j).ion).count b + _
      omega

theorem allocLoop_ok {ok : Nat → Bool} (n : Nat) (hok : ∀ k < n, ok (i + k) = true) :
    (allocLoop heapId c o size ok n i w).1 = true := by
  induction n generalizing i w with
  | zero => rfl
  | succ n ih =>
    unfold allocLoop
    have hi : ok i = true := hok 0 (Nat.succ_pos n)
    rw [hi]
    cases ha : allocBuffer heapId c o i size true w with
    | some v =>
      refine ih fun k hk => ?_
      have := hok (k + 1) (by omega)
      rwa [Nat.add_right_comm, Nat.add_assoc]
    | none =>
      unfold allocBuffer at ha
      split at ha
      · cases ha
      · cases ha

theorem map_ok {start n total : Nat} {mapOk : Nat → Bool}
    (hm : c.kind = .heap → ∀ k < n, mapOk (start + k) = true) :
    ∃ f, map c o start n total mapOk w = (true, (w.setMapped o start n f).setCount o total) := by
  unfold map
  cases hk : c.kind with
  | stream => exact ⟨mapOk, rfl⟩
  | heap =>
    have hnone : (List.range' start n).find? (fun i => !mapOk i) = none := by
      refine List.find?_eq_none.mpr fun j hj => ?_
      obtain ⟨h1, h2⟩ := List.mem_range'_1.mp hj
      have hok := hm hk (j - start) (by omega)
      rw [Nat.add_sub_cancel' h1] at hok
      simp [hok]
    rw [hnone]
    exact ⟨_, rfl⟩

end

section

variable {heapId : Nat} {objs : List Config} {c : Config} {o : Nat} {w w' : World}

theorem Owned.change (ho : Owned objs w) (hlt : o < objs.length) (hother : ∀ p, p ≠ o → own w' p = own w p)
    (hc : ∀ b, (pooled w').count b + (own w' o).count b + w'.freed.count b + issued w b =
      (pooled w).count b + (own w o).count b + w.freed.count b + issued w' b) : Owned objs w' := by
  intro b
  have hex := Tally.count_flatMap_exchange (f := own w) (g := own w') List.nodup_range
    (List.mem_range.mpr hlt) (fun p _ hp => hother p hp) b
  have hob := ho b
  have hcb := hc b
  unfold issued at hcb
  unfold placed at hob ⊢
  rw [List.count_append] at hob ⊢
  omega

theorem own_congr {p : Nat} (hb : w'.bufferCount p = w.bufferCount p)
    (hm : ∀ j, w'.memInfo p j = w.memInfo p j) : own w' p = own w p := by
  unfold own
  rw [hb]
  exact List.filterMap_congr fun j _ => by rw [hm]

theorem Owned.request (ho : Owned objs w) (hobj : objs[o]? = some c) {count size start total : Nat}
    {ok mapOk : Nat → Bool} (hs : w.bufferCount o + count ≤ maxNumFrames →
      start = w.bufferCount o ∧ total = start + count ∧ (start = 0 ∨ ∀ k < count, ok (start + k) = true) ∧
      (c.kind = .heap → ∀ k < count, mapOk (start + k) = true)) {r : Bool × World}
    (hr : (let a := alloc heapId c o count size ok w
      if a.1 then map c o start count total mapOk a.2 else a) = r) :
    Owned objs r.2 ∧ (r.1 = false → LeavesBuffers w r.2) := by
  have hlt : o < objs.length := (List.getElem?_eq_some_iff.mp hobj).1
  unfold alloc at hr
  by_cases hcap : maxNumFrames < w.bufferCount o + count
  · simp only [hcap, if_true, Bool.false_eq_true, if_false] at hr
    subst hr
    exact ⟨ho, fun _ p => ⟨rfl, fun _ _ => rfl⟩⟩
  · obtain ⟨rfl, rfl, hok, hmap⟩ := hs (by omega)
    simp only [hcap, if_false] at hr
    rcases ha : allocLoop heapId c o size ok count (w.bufferCount o) w with ⟨b, v⟩
    rw [ha] at hr
    cases b with
    | true =>
      obtain ⟨f, hm⟩ := @map_ok c o v (w.bufferCount o) count (w.bufferCount o + count) mapOk hmap
      simp only [if_true, hm] at hr
      subst hr
      obtain ⟨h1, h2, h3, h4⟩ := allocLoop_true count ha
      refine ⟨ho.change hlt (fun p hp => ?_) fun b => ?_, nofun⟩
      · refine own_congr ?_ fun j => h1 p j (.inl hp)
        show (if p = o then _ else v.bufferCount p) = _
        rw [if_neg hp, h2]
      · have hcount : (((v.setMapped o (w.bufferCount o) count f).setCount o
            (w.bufferCount o + count)).bufferCount o) = w.bufferCount o + count := if_pos rfl
        rw [own_eq_slice, hcount, slice_append, Nat.zero_add, List.count_append, own_eq_slice w]
        have hlow : slice v o 0 (w.bufferCount o) = slice w o 0 (w.bufferCount o) :=
          slice_congr fun j _ hj => h1 o j (by omega)
        have h4b := h4 b
        show (pooled v).count b + ((slice v o 0 (w.bufferCount o)).count b +
          (slice v o (w.bufferCount o) count).count b) + v.freed.count b + _ =
          _ + _ + _ + issued v b
        rw [hlow, h3]
        omega
    | false =>
      simp only [Bool.false_eq_true, if_false] at hr
      subst hr
      have hzero : w.bufferCount o = 0 := hok.resolve_right fun hall => by
        have := @allocLoop_ok heapId c o (w.bufferCount o) size w ok count hall
        rw [ha] at this
        cases this
      rw [hzero] at ha
      obtain ⟨h1, h2, h3⟩ := allocLoop_false count ha
      have hempty : own w o = [] ∧ own v o = [] := by
        unfold own
        rw [h2, hzero]
        exact ⟨rfl, rfl⟩
      refine ⟨ho.change hlt (fun p hp => own_congr (by rw [h2]) fun j => h1 p j hp) fun b => ?_,
        fun _ p => ⟨by rw [h2], fun j hj => ?_⟩⟩
      · have h3b := h3 b
        rw [hempty.1, hempty.2]
        simp only [slice, List.range'_zero, List.filterMap_nil, List.count_nil] at h3b ⊢
        omega
      · by_cases hp : p = o
        · subst hp
          omega
        · exact h1 p j hp

theorem Owned.deallocate (ho : Owned objs w) (hobj : objs[o]? = some c)
    (h : deallocate c o w = some w') : Owned objs w' := by
  have hlt : o < objs.length := (List.getElem?_eq_some_iff.mp hobj).1
  unfold Memory.deallocate at h
  split at h
  · cases h
  · obtain rfl := Option.some.inj h
    obtain ⟨h1, h2, h3, h4⟩ := giveUp_all c o (List.nodup_range (n := w.bufferCount o))
      (w.setMapped o 0 (w.bufferCount o) fun _ => false)
    refine ho.change hlt (fun p hp => own_congr ?_ fun j => h1 p j (.inl hp)) fun b => ?_
    · show (if p = o then 0 else _) = _
      rw [if_neg hp, h2]
      rfl
    · have h4b := h4 b
      have hcount : ∀ v : World, (v.setCount o 0).bufferCount o = 0 := fun v => if_pos rfl
      have hempty : ∀ v : World, own (v.setCount o 0) o = [] := fun v => by
        unfold own
        rw [hcount]
        rfl
      have hissued : ∀ v : World, v.next = w.next → issued (v.setCount o 0) b = issued w b := fun v hv => by
        unfold issued
        rw [show (v.setCount o 0).next = v.next from rfl, hv]
      rw [hempty, hissued _ h3]
      simp only [List.count_nil]
      change _ = (pooled w).count b + w.freed.count b + (own w o).count b at h4b
      show (pooled (List.foldl _ _ _)).count b + 0 + (List.foldl (giveUp c o) _ _).freed.count b + _ = _
      omega

theorem Owned.clear (ho : Owned objs w) : Owned objs (clear w) := by
  intro b
  have hob := ho b
  have hempty : pooled (Memory.clear w) = [] := List.flatMap_eq_nil_iff.mpr fun t _ => rfl
  have hown : own (Memory.clear w) = own w := rfl
  unfold placed at hob ⊢
  rw [hempty, hown, List.append_nil]
  rw [List.count_append] at hob
  show _ + (pooled w ++ w.freed).count b = _
  rw [List.count_append]
  show _ = if b < w.next then 1 else 0
  omega

theorem Owned.step (ho : Owned objs w) {e : Event} (hs : Steady objs w e)
    (h : step heapId objs w e = some w') :
    Owned objs w' ∧ (fails heapId objs w e = true → LeavesBuffers w w') := by
  cases e with
  | allocate o count size ok mapOk =>
    obtain ⟨c, hobj, rfl⟩ := Option.map_eq_some_iff.mp h
    have hreq := fun hcond => @Owned.request heapId objs c o w ho hobj count size 0 count ok mapOk
      hcond (allocate heapId c o count size ok mapOk w) rfl
    obtain ⟨h1, h2⟩ := hreq fun hcap => by
      obtain ⟨hzero, hmap⟩ := hs c hobj hcap
      exact ⟨hzero.symm, (Nat.zero_add _).symm, .inl rfl, by simpa only [Nat.zero_add] using hmap⟩
    refine ⟨h1, fun hf => h2 ?_⟩
    simpa only [fails, hobj, Option.map_some, Option.getD_some, Bool.not_eq_true'] using hf
  | allocateMore o count size ok mapOk =>
    obtain ⟨c, hobj, rfl⟩ := Option.map_eq_some_iff.mp h
    have hreq := fun hcond => @Owned.request heapId objs c o w ho hobj count size (w.bufferCount o)
      ((w.bufferCount o + count) % 256) ok mapOk hcond (allocateMore heapId c o count size ok mapOk w) rfl
    obtain ⟨h1, h2⟩ := hreq fun hcap => by
      obtain ⟨hok, hmap⟩ := hs c hobj hcap
      have hsmall : w.bufferCount o + count < 256 := Nat.lt_of_le_of_lt hcap (by decide)
      exact ⟨rfl, Nat.mod_eq_of_lt hsmall, hok, hmap⟩
    refine ⟨h1, fun hf => h2 ?_⟩
    simpa only [fails, hobj, Option.map_some, Option.getD_some, Bool.not_eq_true'] using hf
  | deallocate o =>
    obtain ⟨c, hobj, hd⟩ := Option.bind_eq_some_iff.mp h
    exact ⟨ho.deallocate hobj hd, nofun⟩
  | clear =>
    obtain rfl := Option.some.inj h
    exact ⟨ho.clear, nofun⟩

theorem init_owned : Owned objs {} := by
  intro b
  have hempty : placed objs {} = [] := by
    unfold placed
    rw [List.append_eq_nil_iff]
    exact ⟨List.flatMap_eq_nil_iff.mpr fun o _ => rfl, List.flatMap_eq_nil_iff.mpr fun t _ => rfl⟩
  rw [hempty]
  rfl

/-- Over every sequence of calls that meets the condition each buffer has one owner. -/
theorem buffers_owned {es : List Event} (hs : Runs.Along (Memory.step heapId objs) (Steady objs) {} es)
    (h : Runs.play (Memory.step heapId objs) {} es = some w) :
    Owned objs w ∧
    Runs.Along (Memory.step heapId objs) (fun u e => fails heapId objs u e = true →
      ∀ v, Memory.step heapId objs u e = some v → LeavesBuffers u v) {} es ∧
    ∀ entries rest size cached t m, findBufferLocked entries heapId size cached t = some (m, rest) →
      size ≤ m.size ∧ m.heapId = heapId ∧ m.cached = cached := by
  have hstep : ∀ u e v, Owned objs u → Steady objs u e → Memory.step heapId objs u e = some v →
      Owned objs v := fun u e v hu he hv => (hu.step he hv).1
  refine ⟨Runs.play_invariant hstep init_owned hs h,
    Runs.Along.of_invariant hstep (fun u e hu he hf v hv => (hu.step he hv).2 hf) init_owned hs,
    fun entries rest size cached t m hfind => ?_⟩
  obtain ⟨h1, h2, h3, -⟩ := findBufferLocked_spec hfind
  exact ⟨h1, h2, h3⟩

end

def twoStreams : List Config :=
  [{ kind := .stream, cached := true, pooled := true, streamType := .snapshot, heapUnpooled := nofun },
    { kind := .heap, cached := false, pooled := false, streamType := .default,
      heapUnpooled := fun _ => rfl }]

/-- Buffers go to the pool and come back, a second allocation fails for lack of a third one. -/
theorem buffers_owned_reused : ∃ w,
    Runs.play (step 1 twoStreams) {} [.allocate 0 2 100 (fun _ => true) (fun _ => true),
      .allocate 1 1 100 (fun _ => true) (fun _ => true), .deallocate 0,
      .allocate 0 3 50 (fun _ => false) (fun _ => true), .deallocate 1, .clear] = some w ∧
    Owned twoStreams w :=
  ⟨_, rfl, (@buffers_owned 1 twoStreams _ [.allocate 0 2 100 (fun _ => true) (fun _ => true),
    .allocate 1 1 100 (fun _ => true) (fun _ => true), .deallocate 0,
    .allocate 0 3 50 (fun _ => false) (fun _ => true), .deallocate 1, .clear] (by decide) rfl).1⟩

/-- One more buffer cannot be had: the buffer the object has goes to the pool and stays with it. -/
theorem failed_allocateMore_gives_away : ¬∀ (heapId : Nat) (objs : List Config) (es : List Event)
    (w : World), Runs.play (step heapId objs) {} es = some w → Owned objs w := by
  intro h
  have hs := h 1 twoStreams [.allocate 0 1 100 (fun _ => true) (fun _ => true),
    .allocateMore 0 1 100 (fun _ => false) (fun _ => true)] _ rfl
  exact absurd (hs 0) (by decide)

end Wt88047.Memory
