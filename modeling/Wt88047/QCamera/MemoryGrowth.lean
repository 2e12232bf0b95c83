import Wt88047.QCamera.GrowingMemory

/-! What the growing memory objects hold over their runs. -/

namespace Wt88047.GrowingMemory

open Leases

def Resource.limit (m n : Nat) : Resource → Nat
  | .ion => m
  | .camera => m
  | .metadata => n
  | .native => n

def Stage (m n : Nat) (k : Slot) : Prop := k.2 < k.1.limit m n

structure Sound (c : Config) (w : World) : Prop where
  room : w.bufferCount ≤ maxNumFrames
  count : w.bufferCount = w.total
  metadata : w.metaBufCount = if c.video then w.bufferCount else 0
  books : Balanced (Stage w.bufferCount w.metaBufCount) w.books
  handles : ∀ i, w.metaBufCount ≤ i → w.books.slot (.native, i) = none

theorem sound_init (c : Config) : Sound c {} where
  room := Nat.zero_le _
  count := rfl
  metadata := (ite_self 0).symm
  books := balanced_init.congr fun k => by
    obtain ⟨r, i⟩ := k
    cases r <;> exact (iff_false_right (Nat.not_lt_zero i)).mpr not_false
  handles _ _ := rfl

theorem Sound.right {c : Config} {w : World} (h : Sound c w) : w.Right c where
  count := h.count
  below r i hr hi := by
    apply h.books.live
    have hmeta := h.metadata
    cases r with
    | ion => exact hi
    | camera => exact hi
    | metadata =>
      rw [if_pos (show c.video = true from hr)] at hmeta
      exact Nat.lt_of_lt_of_eq hi hmeta.symm
    | native =>
      rw [if_pos (show c.video = true from hr)] at hmeta
      exact Nat.lt_of_lt_of_eq hi hmeta.symm
  above r i hi hlive := by
    have hlt : i < r.limit w.bufferCount w.metaBufCount := h.books.live_iff.mp hlive
    have hle : w.metaBufCount ≤ w.bufferCount := by
      rw [h.metadata]
      split_ifs
      · exact Nat.le_refl _
      · exact Nat.zero_le _
    cases r with
    | ion => exact Nat.not_lt.mpr hi hlt
    | camera => exact Nat.not_lt.mpr hi hlt
    | metadata => exact Nat.not_lt.mpr (Nat.le_trans hle hi) hlt
    | native => exact Nat.not_lt.mpr (Nat.le_trans hle hi) hlt
  once := h.books.once

theorem mem_slots {r s : Resource} {i : Nat} {l : List Nat} : (s, i) ∈ slots r l ↔ s = r ∧ i ∈ l := by
  constructor
  · intro h
    obtain ⟨j, hj, he⟩ := List.mem_map.mp h
    cases he
    exact ⟨rfl, hj⟩
  · rintro ⟨rfl, hi⟩
    exact List.mem_map.mpr ⟨i, hi, rfl⟩

theorem nodup_slots {l : List Nat} (r : Resource) (h : l.Nodup) : (slots r l).Nodup :=
  h.map fun _ _ he => congrArg Prod.snd he

theorem not_mem_slots {r s : Resource} (h : s ≠ r) (i : Nat) (l : List Nat) : (s, i) ∉ slots r l :=
  fun hmem => h (mem_slots.mp hmem).1

variable {ok : Nat → Bool}

section

variable {c : Config} {b : Books Slot} {m n i k : Nat}

theorem allocLoop_succ (c : Config) (ok : Nat → Bool) (n i : Nat) (b : Books Slot) :
    allocLoop c ok (n + 1) i b =
      if ok i then allocLoop c ok n (i + 1) (b.obtain (.ion, i))
      else (giveUp c (List.range i).reverse b, false) := rfl

theorem allocLoop_all (n : Nat) (h : ∀ j < n, ok (i + j) = true) :
    allocLoop c ok n i b = (b.obtainAll (slots .ion (List.range' i n)), true) := by
  induction n generalizing i b with
  | zero => rfl
  | succ n ih =>
    have hfirst : ok i = true := h 0 (Nat.succ_pos n)
    rw [allocLoop_succ, if_pos hfirst]
    apply ih
    intro j hj
    rw [show i + 1 + j = i + (j + 1) by omega]
    exact h (j + 1) (Nat.succ_lt_succ hj)

theorem allocLoop_fails (n : Nat) (h : ∃ j < n, ok (i + j) = false) :
    ∃ k, allocLoop c ok n i b =
      (giveUp c (List.range (i + k)).reverse (b.obtainAll (slots .ion (List.range' i k))), false) := by
  induction n generalizing i b with
  | zero =>
    obtain ⟨j, hj, -⟩ := h
    exact absurd hj (Nat.not_lt_zero j)
  | succ n ih =>
    rw [allocLoop_succ]
    by_cases hi : ok i = true
    · rw [if_pos hi]
      obtain ⟨j, hj, hfalse⟩ := h
      have hrest : ∃ j < n, ok (i + 1 + j) = false := by
        cases j with
        | zero => exact absurd (hi.symm.trans hfalse) (by decide)
        | succ j =>
          refine ⟨j, Nat.lt_of_succ_lt_succ hj, ?_⟩
          rwa [show i + 1 + j = i + (j + 1) by omega]
      obtain ⟨k, hk⟩ := ih (b := b.obtain (.ion, i)) hrest
      refine ⟨k + 1, ?_⟩
      rw [hk, show i + 1 + k = i + (k + 1) by omega]
      rfl
    · rw [if_neg hi]
      exact ⟨0, rfl⟩

theorem mapCamera_all (n : Nat) (h : ∀ j < n, ok (i + j) = true) :
    mapCamera ok i n b = b.obtainAll (slots .camera (List.range' i n)) := by
  induction n generalizing i b with
  | zero => rfl
  | succ n ih =>
    have hassign : assign (.camera, i) (ok i) b = b.obtain (.camera, i) := if_pos (h 0 (Nat.succ_pos n))
    change mapCamera ok (i + 1) n (assign (.camera, i) (ok i) b) = _
    rw [hassign]
    apply ih
    intro j hj
    rw [show i + 1 + j = i + (j + 1) by omega]
    exact h (j + 1) (Nat.succ_lt_succ hj)

def grown (m n : Nat) (b : Books Slot) : Books Slot :=
  (b.obtainAll (slots .ion (List.range' m n))).obtainAll (slots .camera (List.range' m n))

theorem grown_balanced (h : Balanced (Stage m i) b) (n : Nat) : Balanced (Stage (m + n) i) (grown m n b) := by
  have hfree : ∀ r k, k ∈ slots r (List.range' m n) → r = .ion ∨ r = .camera → ¬Stage m i k := by
    rintro r ⟨s, j⟩ hk hr hlt
    obtain ⟨rfl, hj⟩ := mem_slots.mp hk
    have hge := (List.mem_range'_1.mp hj).1
    rcases hr with rfl | rfl
    · exact Nat.not_lt.mpr hge hlt
    · exact Nat.not_lt.mpr hge hlt
  have hion := h.obtainAll (nodup_slots .ion (List.nodup_range' ..)) fun k hk => hfree .ion k hk (Or.inl rfl)
  have hboth := hion.obtainAll (nodup_slots .camera (List.nodup_range' ..)) fun k hk => by
    rintro (hlt | hmem)
    · exact hfree .camera k hk (Or.inr rfl) hlt
    · obtain ⟨s, j⟩ := k
      exact absurd ((mem_slots.mp hk).1.symm.trans (mem_slots.mp hmem).1) (by decide)
  refine hboth.congr fun k => ?_
  obtain ⟨s, j⟩ := k
  rw [mem_slots, mem_slots, List.mem_range'_1]
  cases s <;> simp [Stage, Resource.limit] <;> omega

theorem grown_native (m n i : Nat) (b : Books Slot) :
    (grown m n b).slot (.native, i) = b.slot (.native, i) := by
  rw [grown, Books.obtainAll_slot_of_not_mem (not_mem_slots (show Resource.native ≠ .camera by decide) i _),
    Books.obtainAll_slot_of_not_mem (not_mem_slots (show Resource.native ≠ .ion by decide) i _)]

theorem alloc_fails_balanced (h : Balanced (Stage 0 i) b) (c : Config) (k : Nat) :
    Balanced (Stage 0 i) (giveUp c (List.range (0 + k)).reverse (b.obtainAll (slots .ion (List.range' 0 k)))) := by
  have hion := h.obtainAll (nodup_slots .ion (List.nodup_range' (s := 0) (n := k) ..)) fun j hj hlt => by
    obtain ⟨s, j⟩ := j
    obtain ⟨rfl, -⟩ := mem_slots.mp hj
    exact Nat.not_lt_zero j hlt
  have hgone := hion.giveBackAll (l := slots .ion (List.range (0 + k)).reverse)
    (nodup_slots .ion (List.nodup_reverse.mpr List.nodup_range)) (fun j hj => by
      obtain ⟨s, j⟩ := j
      obtain ⟨rfl, hmem⟩ := mem_slots.mp hj
      rw [List.mem_reverse, List.mem_range] at hmem
      exact Or.inr (mem_slots.mpr ⟨rfl, List.mem_range'_1.mpr ⟨Nat.zero_le j, hmem⟩⟩)) (!c.pooled)
  refine hgone.congr fun j => ?_
  obtain ⟨s, j⟩ := j
  rw [mem_slots, mem_slots, List.mem_range'_1, List.mem_reverse, List.mem_range]
  cases s <;> simp [Stage, Resource.limit]

theorem deallocate_balanced (h : Balanced (Stage m i) b) (c : Config) :
    Balanced (Stage 0 i)
      (giveUp c (List.range m) (b.giveBackAll true (slots .camera (List.range m)))) := by
  have hlive : ∀ r k, k ∈ slots r (List.range m) → r = .ion ∨ r = .camera → Stage m i k := by
    rintro r ⟨s, j⟩ hk hr
    obtain ⟨rfl, hj⟩ := mem_slots.mp hk
    rcases hr with rfl | rfl
    · exact List.mem_range.mp hj
    · exact List.mem_range.mp hj
  have hcamera := h.giveBackAll (nodup_slots .camera List.nodup_range)
    (fun k hk => hlive .camera k hk (Or.inr rfl)) true
  have hion := hcamera.giveBackAll (nodup_slots .ion List.nodup_range) (fun k hk => by
    refine ⟨hlive .ion k hk (Or.inl rfl), fun hmem => ?_⟩
    obtain ⟨s, j⟩ := k
    exact absurd ((mem_slots.mp hk).1.symm.trans (mem_slots.mp hmem).1) (by decide)) (!c.pooled)
  refine hion.congr fun k => ?_
  obtain ⟨s, j⟩ := k
  rw [mem_slots, mem_slots, List.mem_range]
  cases s <;> simp [Stage, Resource.limit]

end

section

variable {c : Config} {w : World} {count : Nat} {o : Outcome}

theorem alloc_refused (h : Sound c w)
    (hcase : maxNumFrames < w.bufferCount + count ∨ (w.bufferCount = 0 ∧ ∃ i < count, ok i = false))
    :
    ∃ w', alloc c count ok w = (w', false) ∧ Sound c w' ∧ w'.total = w.total := by
  by_cases hover : maxNumFrames < w.bufferCount + count
  · exact ⟨w, if_pos hover, h, rfl⟩
  · obtain ⟨h0, j, hj, hfalse⟩ := hcase.resolve_left hover
    have hfail : ∃ j < count, ok (w.bufferCount + j) = false := ⟨j, hj, by rwa [h0, Nat.zero_add]⟩
    obtain ⟨k, hk⟩ := allocLoop_fails (c := c) (b := w.books) count hfail
    rw [h0] at hk
    have halloc : alloc c count ok w = ({ w with
        books := giveUp c (List.range (0 + k)).reverse
          (w.books.obtainAll (slots .ion (List.range' 0 k))) }, false) := by
      rw [alloc, if_neg hover, h0, hk]
    refine ⟨_, halloc, ⟨h.room, h.count, h.metadata, ?_, ?_⟩, rfl⟩
    · have hbooks := h.books
      rw [h0] at hbooks
      dsimp only
      rw [h0]
      exact alloc_fails_balanced hbooks c k
    · intro i hi
      dsimp only
      rw [giveUp, Books.giveBackAll_slot_of_not_mem (not_mem_slots (show Resource.native ≠ .ion by decide) i _),
        Books.obtainAll_slot_of_not_mem (not_mem_slots (show Resource.native ≠ .ion by decide) i _)]
      exact h.handles i hi

theorem call_refused {w' : World} (halloc : alloc c count o.ion w = (w', false)) :
    call c w (.allocate count o) = some (w', false) ∧ call c w (.allocateMore count o) = some (w', false) := by
  have hallocate : Stream.allocate c count o w = (w', false) := by rw [Stream.allocate, halloc]
  have hmore : Stream.allocateMore c count o w = (w', false) := by rw [Stream.allocateMore, halloc]
  constructor
  · change (if c.video then Video.allocate c count o w else some (Stream.allocate c count o w)) = _
    rw [Video.allocate, hallocate, ite_self]
  · change (if c.video then Video.allocateMore c count o w else some (Stream.allocateMore c count o w)) = _
    rw [Video.allocateMore, hmore, ite_self]

theorem alloc_all (hroom : ¬maxNumFrames < w.bufferCount + count)
    (hion : ∀ i < count, ok (w.bufferCount + i) = true) :
    alloc c count ok w =
      ({ w with books := w.books.obtainAll (slots .ion (List.range' w.bufferCount count)) }, true) := by
  rw [alloc, if_neg hroom, allocLoop_all count hion]

theorem Stream.allocate_all (h0 : w.bufferCount = 0) (hroom : ¬maxNumFrames < w.bufferCount + count)
    (hion : ∀ i < count, o.ion i = true) (hcamera : ∀ i < count, o.camera i = true) :
    Stream.allocate c count o w = ({ w with books := grown 0 count w.books, bufferCount := count }, true) := by
  have hall : ∀ i < count, o.ion (w.bufferCount + i) = true := by
    intro i hi
    rw [h0, Nat.zero_add]
    exact hion i hi
  have hmap : ∀ i < count, o.camera (0 + i) = true := by
    intro i hi
    rw [Nat.zero_add]
    exact hcamera i hi
  rw [Stream.allocate, alloc_all hroom hall, h0]
  dsimp only
  rw [mapCamera_all count hmap]
  rfl

theorem Stream.allocateMore_all (hroom : ¬maxNumFrames < w.bufferCount + count)
    (hion : ∀ i < count, o.ion (w.bufferCount + i) = true)
    (hcamera : ∀ i < count, o.camera (w.bufferCount + i) = true) :
    Stream.allocateMore c count o w =
      ({ w with books := grown w.bufferCount count w.books, bufferCount := w.bufferCount + count }, true) := by
  have hmod : (w.bufferCount + count) % 256 = w.bufferCount + count := by
    have hmax : w.bufferCount + count ≤ 24 := Nat.le_of_not_lt hroom
    omega
  rw [Stream.allocateMore, alloc_all hroom hion]
  dsimp only
  rw [mapCamera_all count hcamera, hmod]
  rfl

theorem Stream.deallocate_eq {n : Nat} (h : Balanced (Stage w.bufferCount n) w.books) :
    Stream.deallocate c w = some { w with
      books := giveUp c (List.range w.bufferCount)
        (w.books.giveBackAll true (slots .camera (List.range w.bufferCount)))
      bufferCount := 0 } := by
  apply if_pos
  intro i hi
  obtain ⟨id, hid, -⟩ := h.live (.camera, i) (List.mem_range.mp hi)
  rw [hid]
  rfl

theorem deallocated_native {m : Nat} (b : Books Slot) (i : Nat) :
    (giveUp c (List.range m) (b.giveBackAll true (slots .camera (List.range m)))).slot (.native, i) =
      b.slot (.native, i) := by
  rw [giveUp, Books.giveBackAll_slot_of_not_mem (not_mem_slots (show Resource.native ≠ .ion by decide) i _),
    Books.giveBackAll_slot_of_not_mem (not_mem_slots (show Resource.native ≠ .camera by decide) i _)]

end

end Wt88047.GrowingMemory
