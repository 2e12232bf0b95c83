import Wt88047.QCamera.MemoryGrowth

/-! The metadata and native handles of video memory, and the runs of the growing memory objects. -/

namespace Wt88047.GrowingMemory

open Leases

variable {c : Config} {w : World} {count : Nat} {o : Outcome}

theorem metadata_native_balanced {m i : Nat} {b : Books Slot} (h : Balanced (Stage m i) b) :
    Balanced (Stage m (i + 1)) ((b.obtain (.metadata, i)).obtain (.native, i)) := by
  have hmetadata := h.obtain (k := (Resource.metadata, i)) (Nat.lt_irrefl i)
  have hnative := hmetadata.obtain (k := (Resource.native, i)) (by
    rintro (hlt | he)
    · exact Nat.lt_irrefl i hlt
    · cases he)
  refine hnative.congr fun k => ?_
  obtain ⟨r, j⟩ := k
  cases r <;> simp [Stage, Resource.limit] <;> omega

theorem metadataLoop_succ (c : Config) (o : Outcome) (n i : Nat) (w : World) :
    Video.metadataLoop c o (n + 1) i w =
      let w := { w with books := assign (.metadata, i) (o.metadata i) w.books }
      if !o.metadata i then
        (Stream.deallocate c
          { w with books := w.books.giveBackAll false (slots .metadata (List.range i)) }).map fun w => (w, false)
      else if (w.books.slot (.native, i)).isSome then Video.metadataLoop c o n (i + 1) w
      else
        let w := { w with books := assign (.native, i) (o.native i) w.books }
        if !o.native i then
          some ({ w with books := (List.range i).reverse.foldl (Video.dropHandle i) w.books }, false)
        else Video.metadataLoop c o n (i + 1) w := rfl

theorem metadataLoop_all (n : Nat) {i m : Nat} {w : World} (h : Balanced (Stage m i) w.books)
    (hnull : ∀ j, i ≤ j → w.books.slot (.native, j) = none)
    (hok : ∀ j < n, o.metadata (i + j) = true ∧ o.native (i + j) = true) :
    ∃ b, Video.metadataLoop c o n i w = some ({ w with books := b }, true) ∧
      Balanced (Stage m (i + n)) b ∧ ∀ j, i + n ≤ j → b.slot (.native, j) = none := by
  induction n generalizing i w with
  | zero => exact ⟨w.books, rfl, h, hnull⟩
  | succ n ih =>
    obtain ⟨hmetadata, hnative⟩ : o.metadata i = true ∧ o.native i = true := hok 0 (Nat.succ_pos n)
    have hslot : (w.books.obtain (.metadata, i)).slot (.native, i) = none := by
      rw [Books.obtain_slot_of_ne (by simp)]
      exact hnull i (Nat.le_refl i)
    have hnext := metadata_native_balanced h
    rw [metadataLoop_succ, hmetadata, hnative]
    dsimp only [assign]
    rw [if_pos rfl, if_neg (show ¬(!true) = true by decide), hslot,
      if_neg (show ¬(none : Option Nat).isSome = true by decide), if_pos rfl]
    obtain ⟨b, hb, hbooks, hrest⟩ := ih
      (w := { w with books := (w.books.obtain (.metadata, i)).obtain (.native, i) }) hnext
      (fun j hj => by
        dsimp only
        rw [Books.obtain_slot_of_ne (by simp; omega), Books.obtain_slot_of_ne (by simp)]
        exact hnull j (by omega))
      (fun j hj => by
        rw [show i + 1 + j = i + (j + 1) by omega]
        exact hok (j + 1) (Nat.succ_lt_succ hj))
    rw [show i + (n + 1) = i + 1 + n by omega]
    exact ⟨b, hb, hbooks, hrest⟩

theorem Video.allocate_all (h : Sound c w) (h0 : w.bufferCount = 0) (hm : w.metaBufCount = 0)
    (hroom : ¬maxNumFrames < w.bufferCount + count) (hion : ∀ i < count, o.ion i = true)
    (hcamera : ∀ i < count, o.camera i = true)
    (hmeta : ∀ i < count, o.metadata i = true ∧ o.native i = true) :
    ∃ b, Video.allocate c count o w =
        some ({ w with books := b, bufferCount := count, metaBufCount := count }, true) ∧
      Balanced (Stage count count) b ∧ ∀ i, count ≤ i → b.slot (.native, i) = none := by
  have hbooks := h.books
  rw [h0, hm] at hbooks
  have hgrown := grown_balanced hbooks count
  rw [Nat.zero_add] at hgrown
  have hok : ∀ j < count, o.metadata (0 + j) = true ∧ o.native (0 + j) = true := by
    intro j hj
    rw [Nat.zero_add]
    exact hmeta j hj
  obtain ⟨b, hb, hfull, hnull⟩ := metadataLoop_all (c := c) count
    (w := { w with books := grown 0 count w.books, bufferCount := count }) hgrown
    (fun j _ => by
      dsimp only
      rw [grown_native]
      exact h.handles j (by omega)) hok
  rw [Nat.zero_add] at hfull hnull
  refine ⟨b, ?_, hfull, hnull⟩
  rw [Video.allocate, Stream.allocate_all h0 hroom hion hcamera]
  dsimp only
  rw [hb]
  rfl

theorem Video.allocate_first_fails (h : Sound c w) (h0 : w.bufferCount = 0) (hm : w.metaBufCount = 0)
    (hroom : ¬maxNumFrames < w.bufferCount + count) (hion : ∀ i < count, o.ion i = true)
    (hcamera : ∀ i < count, o.camera i = true) (hpos : 0 < count) (hmeta : o.metadata 0 = false) :
    ∃ b, Video.allocate c count o w = some ({ w with books := b, bufferCount := 0 }, false) ∧
      Balanced (Stage 0 0) b ∧ ∀ i, b.slot (.native, i) = none := by
  obtain ⟨n, rfl⟩ : ∃ n, count = n + 1 := Nat.exists_eq_succ_of_ne_zero (Nat.ne_of_gt hpos)
  have hbooks := h.books
  rw [h0, hm] at hbooks
  have hgrown := grown_balanced hbooks (n + 1)
  rw [Nat.zero_add] at hgrown
  have hdropped := hgrown.drop (k := (Resource.metadata, 0)) (Nat.not_lt_zero 0)
  have hnull : ∀ i, ((grown 0 (n + 1) w.books).drop (.metadata, 0)).slot (.native, i) = none := by
    intro i
    change Function.update (grown 0 (n + 1) w.books).slot (.metadata, 0) none (.native, i) = none
    rw [Function.update_of_ne (by simp), grown_native]
    exact h.handles i (by omega)
  have hloop := Stream.deallocate_eq (c := c)
    (w := { w with books := (grown 0 (n + 1) w.books).drop (.metadata, 0), bufferCount := n + 1 }) hdropped
  refine ⟨_, ?_, deallocate_balanced hdropped c, fun i => (deallocated_native _ i).trans (hnull i)⟩
  rw [Video.allocate, Stream.allocate_all h0 hroom hion hcamera]
  dsimp only
  rw [metadataLoop_succ, hmeta]
  dsimp only [assign]
  rw [if_neg Bool.false_ne_true, if_pos (show (!false) = true by decide)]
  rw [List.range_zero, slots, List.map_nil, Books.giveBackAll_nil, hloop]
  rfl

def handlesOf (n : Nat) : List Slot :=
  (List.range n).flatMap fun i => [(Resource.native, i), (Resource.metadata, i)]

theorem mem_handlesOf {r : Resource} {i n : Nat} :
    (r, i) ∈ handlesOf n ↔ (r = .native ∨ r = .metadata) ∧ i < n := by
  simp only [handlesOf, List.mem_flatMap, List.mem_range, List.mem_cons, Prod.mk.injEq, List.not_mem_nil,
    or_false]
  constructor
  · rintro ⟨j, hj, ⟨rfl, rfl⟩ | ⟨rfl, rfl⟩⟩
    · exact ⟨Or.inl rfl, hj⟩
    · exact ⟨Or.inr rfl, hj⟩
  · rintro ⟨rfl | rfl, hi⟩
    · exact ⟨i, hi, Or.inl ⟨rfl, rfl⟩⟩
    · exact ⟨i, hi, Or.inr ⟨rfl, rfl⟩⟩

theorem nodup_handlesOf (n : Nat) : (handlesOf n).Nodup := by
  rw [handlesOf, List.nodup_flatMap]
  refine ⟨fun i _ => by simp, List.nodup_range.imp ?_⟩
  intro i j hij k hi hj
  simp only [List.mem_cons, List.not_mem_nil, or_false] at hi hj
  rcases hi with rfl | rfl
  · rcases hj with he | he
    · exact hij (congrArg Prod.snd he)
    · exact hij (congrArg Prod.snd he)
  · rcases hj with he | he
    · exact hij (congrArg Prod.snd he)
    · exact hij (congrArg Prod.snd he)

theorem handlesOf_balanced {m n : Nat} {b : Books Slot} (h : Balanced (Stage m n) b) :
    Balanced (Stage m 0) (b.giveBackAll true (handlesOf n)) := by
  have hgone := h.giveBackAll (nodup_handlesOf n) (fun k hk => by
    obtain ⟨r, i⟩ := k
    obtain ⟨hr, hi⟩ := mem_handlesOf.mp hk
    rcases hr with rfl | rfl
    · exact hi
    · exact hi) true
  refine hgone.congr fun k => ?_
  obtain ⟨r, i⟩ := k
  rw [mem_handlesOf]
  cases r <;> simp [Stage, Resource.limit]

theorem Video.deallocate_all (h : Sound c w) :
    ∃ b, Video.deallocate c w = some { w with books := b, bufferCount := 0, metaBufCount := 0 } ∧
      Balanced (Stage 0 0) b ∧ ∀ i, b.slot (.native, i) = none := by
  have hbooks := handlesOf_balanced h.books
  have hset : ∀ i ∈ List.range w.metaBufCount, (w.books.slot (.metadata, i)).isSome = true := by
    intro i hi
    obtain ⟨id, hid, -⟩ := h.books.live (.metadata, i) (List.mem_range.mp hi)
    rw [hid]
    rfl
  have hnull : ∀ i, (w.books.giveBackAll true (handlesOf w.metaBufCount)).slot (.native, i) = none := by
    intro i
    by_cases hi : i < w.metaBufCount
    · exact Books.giveBackAll_slot_of_mem (mem_handlesOf.mpr ⟨Or.inl rfl, hi⟩) w.books
    · exact Books.giveBackAll_slot_none _ true (h.handles i (Nat.le_of_not_lt hi))
  refine ⟨_, ?_, deallocate_balanced hbooks c, fun i => (deallocated_native _ i).trans (hnull i)⟩
  have hrest := Stream.deallocate_eq (c := c)
    (w := { w with books := w.books.giveBackAll true (handlesOf w.metaBufCount) }) hbooks
  rw [Video.deallocate, if_pos hset]
  exact congrArg (Option.map fun w => { w with bufferCount := 0, metaBufCount := 0 }) hrest

def Returns (c : Config) (w : World) (e : Event) : Prop :=
  ∃ w' ok, call c w e = some (w', ok) ∧ Sound c { w' with total := e.total w.total ok }

theorem Sound.with_total {w' : World} (h : Sound c w') (ht : w'.total = w.total) :
    Sound c { w' with total := w.total } := by
  rw [← ht]
  exact h

theorem Sound.no_metadata (h : Sound c w) (h0 : w.bufferCount = 0) : w.metaBufCount = 0 := by
  rw [h.metadata, h0, ite_self]

theorem ion_all {n : Nat} (h : ¬∃ i < n, o.ion i = false) : ∀ i < n, o.ion i = true := by
  intro i hi
  by_contra hne
  exact h ⟨i, hi, Bool.eq_false_iff.mpr hne⟩

theorem allocate_returns (h : Sound c w) (he : (Event.allocate count o).Meets c w) :
    Returns c w (.allocate count o) := by
  by_cases hrefuse : maxNumFrames < w.bufferCount + count ∨ (w.bufferCount = 0 ∧ ∃ i < count, o.ion i = false)
  · obtain ⟨w', halloc, hsound, htotal⟩ := alloc_refused h hrefuse
    exact ⟨w', false, (call_refused halloc).1, hsound.with_total htotal⟩
  obtain ⟨hroom, hion⟩ := not_or.mp hrefuse
  obtain ⟨h0, hrest⟩ := he.resolve_left hroom
  have hfull := ion_all fun hfail => hion ⟨h0, hfail⟩
  obtain ⟨hcamera, hmeta⟩ := hrest.resolve_left fun hfail => hion ⟨h0, hfail⟩
  have hm := h.no_metadata h0
  have hmax : count ≤ maxNumFrames := by omega
  have htotal : count = w.total + count := by
    rw [← h.count, h0, Nat.zero_add]
  by_cases hvideo : c.video = true
  · have hcall : call c w (.allocate count o) = Video.allocate c count o w := if_pos hvideo
    rcases hmeta hvideo with ⟨hpos, hfirst⟩ | hall
    · obtain ⟨b, hb, hbooks, hnull⟩ := Video.allocate_first_fails h h0 hm hroom hfull hcamera hpos hfirst
      refine ⟨_, false, hcall.trans hb, ?_⟩
      refine ⟨Nat.zero_le _, h0.symm.trans h.count, hm.trans (ite_self 0).symm, ?_, fun i _ => hnull i⟩
      dsimp only
      rwa [hm]
    · obtain ⟨b, hb, hbooks, hnull⟩ := Video.allocate_all h h0 hm hroom hfull hcamera hall
      exact ⟨_, true, hcall.trans hb, ⟨hmax, htotal, (if_pos hvideo).symm, hbooks, hnull⟩⟩
  · have hcall : call c w (.allocate count o) = some (Stream.allocate c count o w) := if_neg hvideo
    rw [Stream.allocate_all h0 hroom hfull hcamera] at hcall
    have hbooks := h.books
    rw [h0] at hbooks
    have hgrown := grown_balanced hbooks count
    rw [Nat.zero_add] at hgrown
    refine ⟨_, true, hcall, ⟨hmax, htotal, hm.trans (if_neg hvideo).symm, hgrown, fun i hi => ?_⟩⟩
    exact (grown_native 0 count i w.books).trans (h.handles i hi)

theorem allocateMore_returns (h : Sound c w) (he : (Event.allocateMore count o).Meets c w) :
    Returns c w (.allocateMore count o) := by
  by_cases hrefuse : maxNumFrames < w.bufferCount + count ∨ (w.bufferCount = 0 ∧ ∃ i < count, o.ion i = false)
  · obtain ⟨w', halloc, hsound, htotal⟩ := alloc_refused h hrefuse
    exact ⟨w', false, (call_refused halloc).2, hsound.with_total htotal⟩
  obtain ⟨hroom, hion⟩ := not_or.mp hrefuse
  obtain ⟨hnone, hall⟩ := (he.resolve_left hroom).resolve_left hion
  have hmax : w.bufferCount + count ≤ maxNumFrames := Nat.le_of_not_lt hroom
  have hmore := Stream.allocateMore_all (c := c) hroom (fun i hi => (hall i hi).1) fun i hi => (hall i hi).2
  by_cases hvideo : c.video = true
  · obtain rfl := hnone hvideo
    have hcall : call c w (.allocateMore 0 o) = Video.allocateMore c 0 o w := if_pos hvideo
    have hm : w.metaBufCount = w.bufferCount := h.metadata.trans (if_pos hvideo)
    have hmod : (w.bufferCount + 0 + 0) % 256 = w.bufferCount := by
      have hlt : w.bufferCount ≤ 24 := h.room
      omega
    have hvid : Video.allocateMore c 0 o w = some (w, true) := by
      rw [Video.allocateMore, hmore]
      change some (({ w with
        bufferCount := (w.bufferCount + 0 + 0) % 256
        metaBufCount := (w.bufferCount + 0 + 0) % 256 } : World), true) = _
      rw [hmod]
      congr 3
      exact hm.symm
    exact ⟨w, true, hcall.trans hvid, h⟩
  · have hcall : call c w (.allocateMore count o) = some (Stream.allocateMore c count o w) := if_neg hvideo
    rw [hmore] at hcall
    refine ⟨_, true, hcall, ⟨hmax, ?_, ?_, grown_balanced h.books count, fun i hi => ?_⟩⟩
    · exact congrArg (· + count) h.count
    · exact (h.metadata.trans (if_neg hvideo)).trans (if_neg hvideo).symm
    · exact (grown_native w.bufferCount count i w.books).trans (h.handles i hi)

theorem deallocate_returns (h : Sound c w) :
    ∃ w', step c w .deallocate = some w' ∧ Sound c w' ∧
      ∀ id < w'.books.next, w'.books.released.count id = 1 := by
  have hgone : ∀ {b : Books Slot}, Balanced (Stage 0 0) b → ∀ id < b.next, b.released.count id = 1 := by
    intro b hb
    apply hb.count_released
    rintro ⟨r, i⟩
    cases r <;> exact Nat.not_lt_zero i
  by_cases hvideo : c.video = true
  · obtain ⟨b, hb, hbooks, hnull⟩ := Video.deallocate_all h
    refine ⟨{ bufferCount := 0, metaBufCount := 0, books := b, total := 0 }, ?_, ?_, hgone hbooks⟩
    · rw [step, call, if_pos hvideo, hb]
      rfl
    · exact ⟨Nat.zero_le _, rfl, (ite_self 0).symm, hbooks, fun i _ => hnull i⟩
  · have hm : w.metaBufCount = 0 := h.metadata.trans (if_neg hvideo)
    have hbooks := deallocate_balanced h.books c
    have hempty := hbooks
    rw [hm] at hempty
    refine ⟨{ bufferCount := 0, metaBufCount := w.metaBufCount, books := _, total := 0 }, ?_, ?_, hgone hempty⟩
    · rw [step, call, if_neg hvideo, Stream.deallocate_eq h.books]
      rfl
    · refine ⟨Nat.zero_le _, rfl, hm.trans (ite_self 0).symm, hbooks, fun i hi => ?_⟩
      exact (deallocated_native w.books i).trans (h.handles i hi)

theorem Returns.step {e : Event} (h : Returns c w e) : ∃ w', step c w e = some w' ∧ Sound c w' := by
  obtain ⟨w', ok, hcall, hsound⟩ := h
  refine ⟨_, ?_, hsound⟩
  rw [GrowingMemory.step, hcall]
  rfl

theorem step_sound {e : Event} {w' : World} (h : Sound c w) (he : e.Meets c w) (hstep : step c w e = some w') :
    Sound c w' := by
  have hsome : ∃ v, step c w e = some v ∧ Sound c v := by
    cases e with
    | allocate count o => exact (allocate_returns h he).step
    | allocateMore count o => exact (allocateMore_returns h he).step
    | deallocate =>
      obtain ⟨v, hv, hsound, -⟩ := deallocate_returns h
      exact ⟨v, hv, hsound⟩
  obtain ⟨v, hv, hsound⟩ := hsome
  obtain rfl := Option.some.inj (hv.symm.trans hstep)
  exact hsound

theorem step_kept (e : Event) (h : Sound c w) (he : e.Meets c w) : Kept c w e := by
  cases e with
  | allocate count o =>
    obtain ⟨w', hw', hsound⟩ := (allocate_returns h he).step
    exact ⟨w', hw', hsound.right, fun hd => by cases hd⟩
  | allocateMore count o =>
    obtain ⟨w', hw', hsound⟩ := (allocateMore_returns h he).step
    exact ⟨w', hw', hsound.right, fun hd => by cases hd⟩
  | deallocate =>
    obtain ⟨w', hw', hsound, hgone⟩ := deallocate_returns h
    exact ⟨w', hw', hsound.right, fun _ => hgone⟩

/-- Along a run of such calls, `getCnt` is the sum of the counts, exactly the indices below it have their
memory, and `deallocate` releases everything once. -/
theorem growing_memory_kept (c : Config) (es : List Event)
    (h : Runs.Along (step c) (fun w e => e.Meets c w) {} es) : Runs.Along (step c) (Kept c) {} es :=
  Runs.Along.of_invariant (fun _ _ _ hs he hstep => step_sound hs he hstep)
    (fun _ e hs he => step_kept e hs he) (sound_init c) h

/-- A stream memory that grows, fails to grow beyond its arrays and is released. -/
theorem growing_memory_kept_run : Runs.Along (step ⟨false, false, by decide⟩) (Kept ⟨false, false, by decide⟩) {}
    [.allocate 2 {}, .allocateMore 1 {}, .allocateMore 22 {}, .deallocate] :=
  growing_memory_kept _ _ (by decide)

/-- One buffer more for a video memory with one buffer: `getCnt` is three. -/
theorem video_counts_twice : ¬∀ (c : Config) (es : List Event), Runs.Along (step c) (Kept c) {} es := by
  intro h
  let c : Config := ⟨true, false, by decide⟩
  have hrun := h c ([Event.allocate 1 {}] ++ [Event.allocateMore 1 {}])
  obtain ⟨w', hstep, hright, -⟩ := (hrun.append_right rfl).head
  obtain rfl := Option.some.inj hstep
  exact absurd hright.count (by decide)

end Wt88047.GrowingMemory
