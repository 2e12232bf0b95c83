import Mathlib.Logic.Function.Basic
import Wt88047.MmCamera.PlaneLayout

/-! The buffer definitions that a memory object gives to a stream: the planes of each of its buffers. -/

namespace Wt88047.BufDef

open PlaneLayout (BufPlanes)

abbrev videoMaxPlanes : Nat := 8

/-- What `getBufDef` reads of a memory object: its number of buffers, `mMemInfo` with the descriptors
and the sizes, whose type has 32 bits, and the addresses. -/
structure Memory where
  this : Nat
  bufferCount : Nat
  fd : Nat → Int
  size : Nat → Nat
  ptr : Nat → Nat
  size_lt : ∀ i, size i < 2 ^ 32

structure Plane where
  length : Nat
  userptr : Int
  dataOffset : Nat
  reserved : Nat

structure Definition where
  fd : Int
  frameLen : Nat
  memInfo : Nat
  numPlanes : Int
  buffer : Nat
  bufIdx : Nat
  planes : Nat → Plane

/-- The loop over the planes behind the first; a plane that the array does not have ends the run. -/
def setPlanes (o : Memory) (offset : BufPlanes) : Nat → Nat → (Nat → Plane) → Option (Nat → Plane)
  | 0, _, planes => some planes
  | k + 1, i, planes =>
    if videoMaxPlanes ≤ i then none
    else setPlanes o offset k (i + 1) (Function.update planes i
      { length := (offset.mp i).len
        userptr := o.fd i
        dataOffset := (offset.mp i).offset
        reserved := ((planes (i - 1)).reserved + (planes (i - 1)).length) % 2 ^ 32 })

/-- `getBufDef`; the number of planes becomes an `int8_t`. -/
def getBufDef (o : Memory) (offset : BufPlanes) (bufDef : Definition) (index : Nat) : Option Definition :=
  if o.bufferCount = 0 then some bufDef
  else
    let numPlanes := (offset.numPlanes : Int).bmod 256
    let first : Plane :=
      { length := (offset.mp 0).len, userptr := o.fd index, dataOffset := (offset.mp 0).offset, reserved := 0 }
    (setPlanes o offset (numPlanes.toNat - 1) 1 (Function.update bufDef.planes 0 first)).map fun planes =>
      { fd := o.fd index, frameLen := o.size index, memInfo := o.this, numPlanes, buffer := o.ptr index
        bufIdx := index, planes }

def lengthsBefore (offset : BufPlanes) (i : Nat) : Nat := ((List.range i).map fun j => (offset.mp j).len).sum

structure Describes (o : Memory) (offset : BufPlanes) (index : Nat) (d : Definition) : Prop where
  fd : d.fd = o.fd index
  numPlanes : d.numPlanes = offset.numPlanes
  planeFd : ∀ i < offset.numPlanes, (d.planes i).userptr = o.fd index
  length : ∀ i < offset.numPlanes, (d.planes i).length = (offset.mp i).len
  reserved : ∀ i < offset.numPlanes, (d.planes i).reserved = lengthsBefore offset i
  within : ∀ i, i + 1 = offset.numPlanes → (d.planes i).reserved + (d.planes i).length ≤ d.frameLen

structure Fits (o : Memory) (offset : BufPlanes) (index : Nat) : Prop where
  planes : offset.numPlanes ≤ videoMaxPlanes
  fd : ∀ i, 1 ≤ i → i < offset.numPlanes → o.fd i = o.fd index
  size : lengthsBefore offset offset.numPlanes ≤ o.size index

variable {o : Memory} {offset : BufPlanes}

theorem lengthsBefore_succ (offset : BufPlanes) (i : Nat) :
    lengthsBefore offset (i + 1) = lengthsBefore offset i + (offset.mp i).len := by
  rw [lengthsBefore, List.range_succ, List.map_append, List.sum_append]
  exact congrArg (_ + ·) (Nat.add_zero _)

theorem lengthsBefore_mono {i j : Nat} (h : i ≤ j) : lengthsBefore offset i ≤ lengthsBefore offset j := by
  induction j with
  | zero =>
    obtain rfl := Nat.le_zero.mp h
    exact Nat.le_refl _
  | succ j ih =>
    rcases Nat.lt_or_eq_of_le h with hlt | rfl
    · rw [lengthsBefore_succ]
      exact (ih (Nat.le_of_lt_succ hlt)).trans (Nat.le_add_right ..)
    · exact Nat.le_refl _

def planeAt (o : Memory) (offset : BufPlanes) (i : Nat) : Plane :=
  { length := (offset.mp i).len, userptr := o.fd i, dataOffset := (offset.mp i).offset
    reserved := lengthsBefore offset i % 2 ^ 32 }

theorem setPlanes_succ (k i : Nat) (planes : Nat → Plane) :
    setPlanes o offset (k + 1) i planes =
      if videoMaxPlanes ≤ i then none
      else setPlanes o offset k (i + 1) (Function.update planes i
        { length := (offset.mp i).len
          userptr := o.fd i
          dataOffset := (offset.mp i).offset
          reserved := ((planes (i - 1)).reserved + (planes (i - 1)).length) % 2 ^ 32 }) := rfl

theorem setPlanes_spec (k i : Nat) (planes : Nat → Plane) (hi : 1 ≤ i)
    (hlen : (planes (i - 1)).length = (offset.mp (i - 1)).len)
    (hres : (planes (i - 1)).reserved = lengthsBefore offset (i - 1) % 2 ^ 32) :
    (i + k ≤ videoMaxPlanes → ∃ planes', setPlanes o offset k i planes = some planes' ∧
      ∀ j, planes' j = if i ≤ j ∧ j < i + k then planeAt o offset j else planes j) ∧
    (k ≠ 0 → videoMaxPlanes < i + k → setPlanes o offset k i planes = none) := by
  induction k generalizing i planes with
  | zero =>
    refine ⟨fun _ => ⟨planes, rfl, fun j => ?_⟩, fun h => absurd rfl h⟩
    rw [if_neg (by omega)]
  | succ k ih =>
    rw [setPlanes_succ]
    have hnext : ((planes (i - 1)).reserved + (planes (i - 1)).length) % 2 ^ 32 =
        lengthsBefore offset i % 2 ^ 32 := by
      obtain ⟨m, rfl⟩ : ∃ m, i = m + 1 := ⟨i - 1, by omega⟩
      rw [Nat.add_sub_cancel] at hlen hres
      rw [Nat.add_sub_cancel, hlen, hres, lengthsBefore_succ, Nat.mod_add_mod]
    rw [hnext]
    by_cases hfull : videoMaxPlanes ≤ i
    · rw [if_pos hfull]
      exact ⟨fun h => absurd h (by omega), fun _ _ => rfl⟩
    rw [if_neg hfull]
    have hself : Function.update planes i (planeAt o offset i) (i + 1 - 1) = planeAt o offset i := by
      rw [Nat.add_sub_cancel, Function.update_self]
    obtain ⟨hsome, hnone⟩ := ih (i + 1) (Function.update planes i (planeAt o offset i))
      (by omega) (by rw [hself]; rfl) (by rw [hself]; rfl)
    refine ⟨fun h => ?_, fun _ h => hnone ?_ (by omega)⟩
    · obtain ⟨planes', hp, hcells⟩ := hsome (by omega)
      refine ⟨planes', hp, fun j => ?_⟩
      rw [hcells]
      by_cases hj : j = i
      · rw [if_neg (by omega), if_pos (by omega), hj, Function.update_self]
      · rw [Function.update_of_ne hj]
        by_cases hin : i ≤ j ∧ j < i + (k + 1)
        · rw [if_pos hin, if_pos (by omega)]
        · rw [if_neg hin, if_neg (by omega)]
    · rintro rfl
      exact hfull (Nat.le_of_lt_succ h)

theorem getBufDef_planes {index : Nat} (bufDef : Definition) (hi : index < o.bufferCount)
    (hn : offset.numPlanes < 128) :
    (offset.numPlanes ≤ videoMaxPlanes → ∃ d, getBufDef o offset bufDef index = some d ∧
      d.fd = o.fd index ∧ d.numPlanes = offset.numPlanes ∧ d.frameLen = o.size index ∧
      ∀ i < offset.numPlanes, d.planes i =
        { planeAt o offset i with userptr := if i = 0 then o.fd index else o.fd i }) ∧
    (videoMaxPlanes < offset.numPlanes → getBufDef o offset bufDef index = none) := by
  have hcount : o.bufferCount ≠ 0 := by omega
  have hint : (offset.numPlanes : Int).bmod 256 = offset.numPlanes :=
    Int.bmod_eq_of_le (by omega) (by omega)
  let first : Plane :=
    { length := (offset.mp 0).len, userptr := o.fd index, dataOffset := (offset.mp 0).offset, reserved := 0 }
  have hfirst : Function.update bufDef.planes 0 first (1 - 1) = first := Function.update_self ..
  obtain ⟨hsome, hnone⟩ := setPlanes_spec (o := o) (offset.numPlanes - 1) 1
    (Function.update bufDef.planes 0 first) (Nat.le_refl 1) (by rw [hfirst]) (by rw [hfirst]; rfl)
  unfold getBufDef
  rw [if_neg hcount]
  dsimp only
  rw [hint, Int.toNat_natCast]
  constructor
  · intro hmax
    have hfew : offset.numPlanes ≤ 8 := hmax
    obtain ⟨planes', hp, hcells⟩ := hsome (show 1 + (offset.numPlanes - 1) ≤ 8 by omega)
    rw [hp]
    refine ⟨_, rfl, rfl, rfl, rfl, fun i hlt => ?_⟩
    change planes' i = _
    rw [hcells]
    by_cases hz : i = 0
    · rw [if_neg (by omega), hz, if_pos rfl, Function.update_self]
      rfl
    · rw [if_pos (by omega), if_neg hz]
      rfl
  · intro hmax
    have hmany : (8 : Nat) < offset.numPlanes := hmax
    rw [hnone (by omega) (by omega)]
    rfl

/-- A definition is that of its layout exactly if the entries named by the planes are those of the
buffer itself and the planes fit. Two buffers with definitions of theirs do not share a plane. -/
theorem buf_def_iff (o : Memory) (offset : BufPlanes) (bufDef : Definition) (index : Fin o.bufferCount) :
    ((∃ d ∈ getBufDef o offset bufDef index, Describes o offset index d) ↔ Fits o offset index) ∧
    ∀ other d d', Describes o offset index d → Describes o offset other d' → o.fd index ≠ o.fd other →
      ∀ i < offset.numPlanes, ∀ j < offset.numPlanes, (d.planes i).userptr ≠ (d'.planes j).userptr := by
  refine ⟨⟨?_, fun h => ?_⟩, fun other d d' hd hd' hne i hi j hj he => ?_⟩
  · rintro ⟨d, hd, hdesc⟩
    have hsmall : offset.numPlanes < 128 := by
      have hnum := hdesc.numPlanes
      unfold getBufDef at hd
      rw [if_neg (Nat.ne_of_gt (Nat.zero_lt_of_lt index.isLt))] at hd
      obtain ⟨planes, -, rfl⟩ := Option.map_eq_some_iff.mp hd
      dsimp only at hnum
      have hlt := Int.bmod_lt (x := (offset.numPlanes : Int)) (m := 256) (by decide)
      omega
    obtain ⟨hsome, hnone⟩ := getBufDef_planes bufDef index.isLt hsmall
    have hmax : offset.numPlanes ≤ videoMaxPlanes := by
      by_contra hover
      rw [hnone (Nat.lt_of_not_le hover)] at hd
      cases hd
    obtain ⟨d', hd', -, -, hlen, hplanes⟩ := hsome hmax
    obtain rfl := Option.some.inj (hd'.symm.trans hd)
    refine ⟨hmax, fun i hi hlt => ?_, ?_⟩
    · have hfd := hdesc.planeFd i hlt
      rw [hplanes i hlt] at hfd
      dsimp only at hfd
      rwa [if_neg (by omega)] at hfd
    · cases hn : offset.numPlanes with
      | zero => exact Nat.zero_le _
      | succ m =>
        have hlast := hdesc.within m hn.symm
        rw [hdesc.reserved m (by omega), hdesc.length m (by omega), hlen] at hlast
        rwa [lengthsBefore_succ]
  · obtain ⟨d, hd, hfd, hnum, hlen, hplanes⟩ :=
      (getBufDef_planes bufDef index.isLt (Nat.lt_of_le_of_lt h.planes (by decide))).1 h.planes
    have hres : ∀ i < offset.numPlanes, (d.planes i).reserved = lengthsBefore offset i := by
      intro i hi
      rw [hplanes i hi]
      -- the lengths add up to no more than the size, which has 32 bits
      exact Nat.mod_eq_of_lt ((lengthsBefore_mono hi.le).trans_lt (h.size.trans_lt (o.size_lt index)))
    have hlength : ∀ i < offset.numPlanes, (d.planes i).length = (offset.mp i).len := by
      intro i hi
      rw [hplanes i hi]
      rfl
    refine ⟨d, hd, hfd, hnum, fun i hi => ?_, hlength, hres, fun i hi => ?_⟩
    · rw [hplanes i hi]
      dsimp only
      split_ifs with hz
      · rfl
      · exact h.fd i (by omega) hi
    · rw [hres i (by omega), hlength i (by omega), hlen, ← lengthsBefore_succ, hi]
      exact h.size
  · rw [hd.planeFd i hi, hd'.planeFd j hj] at he
    exact hne he

/-- The second plane of the first of two buffers lies in the second buffer. -/
theorem plane_in_another_buffer :
    let o : Memory :=
      { this := 1, bufferCount := 2, fd := fun i => 10 + i, size := fun _ => 4096, ptr := fun i => 4096 * i
        size_lt := fun _ => by decide }
    let plane : PlaneLayout.PlaneInfo :=
      { len := 64, offset := 0, offsetX := 0, offsetY := 0, stride := 8, scanline := 8, width := 8, height := 8 }
    let offset : BufPlanes := { numPlanes := 2, mp := fun _ => plane, frameLen := 128 }
    let bufDef : Definition :=
      { fd := 0, frameLen := 0, memInfo := 0, numPlanes := 0, buffer := 0, bufIdx := 0
        planes := fun _ => ⟨0, 0, 0, 0⟩ }
    ((getBufDef o offset bufDef 0).map fun d => (d.planes 1).userptr) = some 11 ∧
      ¬∃ d ∈ getBufDef o offset bufDef 0, Describes o offset 0 d := by
  intro o plane offset bufDef
  have hplane : ((getBufDef o offset bufDef 0).map fun d => (d.planes 1).userptr) = some 11 := by
    have hn : offset.numPlanes < 128 := show 2 < 128 by decide
    obtain ⟨d, hd, -, -, -, hplanes⟩ := (getBufDef_planes (o := o) bufDef
      (show 0 < 2 by decide) hn).1 (show 2 ≤ 8 by decide)
    rw [hd, Option.map_some, hplanes 1 (by decide : 1 < 2)]
    rfl
  refine ⟨hplane, ?_⟩
  rintro ⟨d, hd, hdesc⟩
  rw [Option.mem_def.mp hd] at hplane
  have hown : (d.planes 1).userptr = 10 := hdesc.planeFd 1 (show 1 < 2 by decide)
  exact absurd (hown.symm.trans (Option.some.inj hplane)) (by decide)

end Wt88047.BufDef
