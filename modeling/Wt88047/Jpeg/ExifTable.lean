import Wt88047.Jpeg.MakerNote
import Wt88047.Lib.Custody

/-! The memory of the exif table: what `addExifEntry` allocates and what `releaseExifEntry` frees. -/

namespace Jpeg.ExifTable

open Custody
open Exif (ExifTag ExifType Request maxExifTableEntries)

/-- Blocks are numbered as they are allocated; `wild` is any other address. -/
inductive Held
  | block (b : Nat)
  | wild
  deriving DecidableEq

inductive Cell
  | zero
  | pointer (b : Nat)
  | value (bytes : List UInt8)

structure Slot where
  tagId : Option ExifTag := none
  type : Option ExifType := none
  count : Nat := 0
  copy : Nat := 0
  data : Cell := .zero

/-- `exif_info_local` with `numOfEntries`, the bytes of each block, and what was allocated and freed. -/
structure Table where
  slots : Nat → Slot := fun _ => {}
  numOfEntries : Nat := 0
  blocks : Nat → List UInt8 := fun _ => []
  next : Nat := 0
  log : List (Custody.Event Held) := []

/-- The size that `addExifEntry` asks `malloc` for, if it does; a `size_t` has 32 bits. -/
def allocated : ExifType → Nat → Option Nat
  | .byte, count => if count > 1 then some (count % 2 ^ 32) else none
  | .ascii, count => some ((count + 1) % 2 ^ 32)
  | .short, count => if count > 1 then some (count * 2 % 2 ^ 32) else none
  | .long, count => if count > 1 then some (count * 4 % 2 ^ 32) else none
  | .rational, count => if count > 1 then some (count * 8 % 2 ^ 32) else none
  | .undefined, count => some (count % 2 ^ 32)
  | .slong, count => if count > 1 then some (count * 4 % 2 ^ 32) else none
  | .srational, count => if count > 1 then some (count * 8 % 2 ^ 32) else none

/-- A text is followed by the NUL of the `memset`. -/
def copied (r : Request) (size : Nat) : List UInt8 :=
  match r.type with
  | .ascii => r.data.take r.count ++ [0]
  | _ => r.data.take size

def Table.set (i : Nat) (s : Slot) (t : Table) : Table := { t with slots := Function.update t.slots i s }

/-- `alloc` is whether `malloc` succeeds; if not, the union is left as it is. -/
def addExifEntry (alloc : Bool) (r : Request) (t : Table) : Int × Table :=
  if maxExifTableEntries ≤ t.numOfEntries then (-1, t)
  else
    let i := t.numOfEntries
    let s : Slot :=
      { tagId := some r.tagId, type := some r.type, count := r.count, copy := 1, data := (t.slots i).data }
    match allocated r.type r.count with
    | some size =>
      if alloc then
        (0, { t.set i { s with data := .pointer t.next } with
          numOfEntries := i + 1
          blocks := Function.update t.blocks t.next (copied r size)
          next := t.next + 1
          log := t.log ++ [.take (.block t.next)] })
      else (-1, { t.set i s with numOfEntries := i + 1 })
    | none => (0, { t.set i { s with data := .value (r.data.take r.type.size) } with numOfEntries := i + 1 })

def released : ExifType → Nat → Bool
  | .byte, count => decide (count > 1)
  | .ascii, _ => true
  | .short, count => decide (count > 1)
  | .long, count => decide (count > 1)
  | .rational, count => decide (count > 1)
  | .undefined, _ => true
  | .slong, count => decide (count > 1)
  | .srational, count => decide (count > 1)

def releaseExifEntry (i : Nat) (t : Table) : Table :=
  let s := t.slots i
  match s.type with
  | none => t
  | some type =>
    if released type s.count then
      match s.data with
      | .zero => t
      | .pointer b => { t.set i { s with data := .zero } with log := t.log ++ [.give (.block b)] }
      | .value _ => { t.set i { s with data := .zero } with log := t.log ++ [.give .wild] }
    else t

/-- An entry to add, with the memory that its data point to; what an address space holds does not
wrap a `size_t`. -/
structure Call where
  request : Request
  alloc : Bool
  given : request.count * request.type.size ≤ request.data.length
  fits : request.count * request.type.size + 1 < 2 ^ 32

def Call.data (c : Call) : List UInt8 := c.request.data.take (c.request.count * c.request.type.size)

def addAll (calls : List Call) (t : Table) : Table :=
  calls.foldl (fun t c => (addExifEntry c.alloc c.request t).2) t

/-- `mm_jpeg_session_config_common` clears the table. -/
def clear (t : Table) : Table := { t with slots := fun _ => {}, numOfEntries := 0 }

def destroyJob (t : Table) : Table :=
  { (List.range t.numOfEntries).foldl (fun t i => releaseExifEntry i t) t with numOfEntries := 0 }

def job (t : Table) (calls : List Call) : Table := destroyJob (addAll calls (clear t))

def Table.content (t : Table) : Cell → Option (List UInt8)
  | .zero => none
  | .pointer b => some (t.blocks b)
  | .value bytes => some bytes

variable {t : Table} {i : Nat}

theorem released_eq (type : ExifType) (count : Nat) : released type count = (allocated type count).isSome := by
  cases type <;> by_cases h : count > 1 <;> simp [released, allocated, h]

theorem allocated_eq (type : ExifType) (count : Nat) :
    allocated type count =
      if type = .ascii then some ((count + 1) % 2 ^ 32)
      else if type = .undefined ∨ count > 1 then some (count * type.size % 2 ^ 32)
      else none := by
  cases type <;> simp [allocated, ExifType.size]

def Slot.Proper (next : Nat) (s : Slot) : Prop :=
  ∃ type, s.type = some type ∧
    match s.data with
    | .zero => True
    | .pointer b => released type s.count = true ∧ b < next
    | .value _ => released type s.count = false

/-- The counted entries are proper, no two of them point to one block, and exactly the blocks they
point to are allocated. -/
structure Sound (t : Table) : Prop where
  limit : t.numOfEntries ≤ maxExifTableEntries
  proper : ∀ i < t.numOfEntries, (t.slots i).Proper t.next
  unused : ∀ i, t.numOfEntries ≤ i → (t.slots i).data = .zero
  distinct : ∀ i j b, (t.slots i).data = .pointer b → (t.slots j).data = .pointer b → i = j
  out : Out (fun k => ∃ b i, k = .block b ∧ (t.slots i).data = .pointer b) t.log

theorem Table.set_slots_self (i : Nat) (s : Slot) (t : Table) : (t.set i s).slots i = s := Function.update_self ..

theorem Table.set_slots_of_ne {i j : Nat} (h : j ≠ i) (s : Slot) (t : Table) : (t.set i s).slots j = t.slots j :=
  Function.update_of_ne h ..

theorem addExifEntry_cases (alloc : Bool) (r : Request) (t : Table) :
    (maxExifTableEntries ≤ t.numOfEntries ∧ addExifEntry alloc r t = (-1, t)) ∨
    t.numOfEntries < maxExifTableEntries ∧ ∃ s : Slot,
      s.tagId = some r.tagId ∧ s.type = some r.type ∧ s.count = r.count ∧ s.copy = 1 ∧
      ((∃ size, allocated r.type r.count = some size ∧ alloc = true ∧ s.data = .pointer t.next ∧
          addExifEntry alloc r t = (0, { t.set t.numOfEntries s with
            numOfEntries := t.numOfEntries + 1
            blocks := Function.update t.blocks t.next (copied r size)
            next := t.next + 1
            log := t.log ++ [.take (.block t.next)] })) ∨
        ((allocated r.type r.count).isSome = true ∧ alloc = false ∧ s.data = (t.slots t.numOfEntries).data ∧
          addExifEntry alloc r t = (-1, { t.set t.numOfEntries s with numOfEntries := t.numOfEntries + 1 })) ∨
        (allocated r.type r.count = none ∧ s.data = .value (r.data.take r.type.size) ∧
          addExifEntry alloc r t = (0, { t.set t.numOfEntries s with numOfEntries := t.numOfEntries + 1 }))) := by
  unfold addExifEntry
  by_cases hfull : maxExifTableEntries ≤ t.numOfEntries
  · exact Or.inl ⟨hfull, if_pos hfull⟩
  · refine Or.inr ⟨Nat.lt_of_not_le hfull, ?_⟩
    rw [if_neg hfull]
    cases hsize : allocated r.type r.count with
    | none => exact ⟨_, rfl, rfl, rfl, rfl, Or.inr (Or.inr ⟨rfl, rfl, rfl⟩)⟩
    | some size =>
      cases alloc with
      | true => exact ⟨_, rfl, rfl, rfl, rfl, Or.inl ⟨size, rfl, rfl, rfl, rfl⟩⟩
      | false =>
        refine ⟨{ tagId := some r.tagId, type := some r.type, count := r.count, copy := 1,
                  data := (t.slots t.numOfEntries).data }, rfl, rfl, rfl, rfl, Or.inr (Or.inl ?_)⟩
        exact ⟨rfl, rfl, rfl, rfl⟩

theorem Slot.Proper.mono {s : Slot} {n m : Nat} (h : s.Proper n) (hnm : n ≤ m) : s.Proper m := by
  obtain ⟨type, htype, hdata⟩ := h
  refine ⟨type, htype, ?_⟩
  cases hcell : s.data with
  | pointer b =>
    rw [hcell] at hdata
    exact ⟨hdata.1, Nat.lt_of_lt_of_le hdata.2 hnm⟩
  | zero => trivial
  | value bytes =>
    rw [hcell] at hdata
    exact hdata

theorem Sound.pointer_set (h : Sound t) (s : Slot) (i b : Nat) :
    ((t.set t.numOfEntries s).slots i).data = .pointer b ↔
      (i = t.numOfEntries ∧ s.data = .pointer b) ∨ (t.slots i).data = .pointer b := by
  by_cases hi : i = t.numOfEntries
  · subst hi
    rw [Table.set_slots_self, h.unused _ (Nat.le_refl _)]
    simp
  · rw [Table.set_slots_of_ne hi]
    simp [hi]

theorem Sound.known (h : Sound t) {b : Nat} (hi : (t.slots i).data = .pointer b) : b < t.next := by
  have hlt : i < t.numOfEntries := by
    by_contra hle
    rw [h.unused i (Nat.le_of_not_lt hle)] at hi
    cases hi
  obtain ⟨type, -, hdata⟩ := h.proper i hlt
  rw [hi] at hdata
  exact hdata.2

theorem Sound.proper_set (h : Sound t) {s : Slot} {n : Nat} (hs : s.Proper n) (hn : t.next ≤ n) :
    ∀ i < t.numOfEntries + 1, ((t.set t.numOfEntries s).slots i).Proper n := by
  intro i hi
  rcases Nat.lt_succ_iff_lt_or_eq.mp hi with hlt | rfl
  · rw [Table.set_slots_of_ne (Nat.ne_of_lt hlt)]
    exact (h.proper i hlt).mono hn
  · rwa [Table.set_slots_self]

theorem Sound.unused_set (h : Sound t) (s : Slot) :
    ∀ i, t.numOfEntries + 1 ≤ i → ((t.set t.numOfEntries s).slots i).data = .zero := by
  intro i hi
  rw [Table.set_slots_of_ne (Nat.ne_of_gt hi)]
  exact h.unused i (Nat.le_of_succ_le hi)

theorem Sound.extend (h : Sound t) (hroom : t.numOfEntries < maxExifTableEntries) {s : Slot}
    (hs : s.Proper t.next) (hno : ∀ b, s.data ≠ .pointer b) :
    Sound { t.set t.numOfEntries s with numOfEntries := t.numOfEntries + 1 } := by
  have hsame : ∀ i b, ((t.set t.numOfEntries s).slots i).data = .pointer b ↔ (t.slots i).data = .pointer b := by
    intro i b
    rw [h.pointer_set]
    simp [hno b]
  refine ⟨hroom, h.proper_set hs (Nat.le_refl _), h.unused_set s, ?_, ?_⟩
  · intro i j b hi hj
    exact h.distinct i j b ((hsame i b).mp hi) ((hsame j b).mp hj)
  · refine h.out.congr fun k => ?_
    constructor
    · rintro ⟨b, i, rfl, hi⟩
      exact ⟨b, i, rfl, (hsame i b).mpr hi⟩
    · rintro ⟨b, i, rfl, hi⟩
      exact ⟨b, i, rfl, (hsame i b).mp hi⟩

theorem Sound.allocate (h : Sound t) (hroom : t.numOfEntries < maxExifTableEntries) {s : Slot}
    (hs : s.Proper (t.next + 1)) (hdata : s.data = .pointer t.next) (bytes : List UInt8) :
    Sound { t.set t.numOfEntries s with
      numOfEntries := t.numOfEntries + 1
      blocks := Function.update t.blocks t.next bytes
      next := t.next + 1
      log := t.log ++ [.take (.block t.next)] } := by
  have hnew : ∀ i b, ((t.set t.numOfEntries s).slots i).data = .pointer b ↔
      (i = t.numOfEntries ∧ t.next = b) ∨ (t.slots i).data = .pointer b := by
    intro i b
    rw [h.pointer_set, hdata]
    simp
  have hfresh : ∀ i, (t.slots i).data ≠ .pointer t.next := fun i hi => Nat.lt_irrefl _ (h.known hi)
  refine ⟨hroom, h.proper_set hs (Nat.le_succ _), h.unused_set s, ?_, ?_⟩
  · intro i j b hi hj
    rcases (hnew i b).mp hi with ⟨rfl, rfl⟩ | hi
    · rcases (hnew j _).mp hj with ⟨rfl, -⟩ | hj
      · rfl
      · exact absurd hj (hfresh j)
    · rcases (hnew j b).mp hj with ⟨rfl, rfl⟩ | hj
      · exact absurd hi (hfresh i)
      · exact h.distinct i j b hi hj
  · refine (h.out.take (k := Held.block t.next) ?_).congr fun k => ?_
    · rintro ⟨b, i, heq, hi⟩
      obtain rfl := Held.block.inj heq
      exact hfresh i hi
    · constructor
      · rintro (⟨b, i, rfl, hi⟩ | rfl)
        · exact ⟨b, i, rfl, (hnew i b).mpr (Or.inr hi)⟩
        · exact ⟨t.next, t.numOfEntries, rfl, (hnew _ _).mpr (Or.inl ⟨rfl, rfl⟩)⟩
      · rintro ⟨b, i, rfl, hi⟩
        rcases (hnew i b).mp hi with ⟨-, rfl⟩ | hi
        · exact Or.inr rfl
        · exact Or.inl ⟨b, i, rfl, hi⟩

theorem Sound.add (h : Sound t) (alloc : Bool) (r : Request) :
    Sound (addExifEntry alloc r t).2 := by
  rcases addExifEntry_cases alloc r t with ⟨-, heq⟩ | ⟨hroom, s, -, htype, hcount, -, hcase⟩
  · rw [heq]
    exact h
  · rcases hcase with ⟨size, hsize, -, hdata, heq⟩ | ⟨hsome, -, hdata, heq⟩ | ⟨hnone, hdata, heq⟩
    · rw [heq]
      refine h.allocate hroom ⟨r.type, htype, ?_⟩ hdata _
      rw [hdata, hcount, released_eq, hsize]
      exact ⟨rfl, Nat.lt_succ_self _⟩
    · -- the union is still zero
      rw [h.unused _ (Nat.le_refl _)] at hdata
      rw [heq]
      refine h.extend hroom ⟨r.type, htype, ?_⟩ (fun b => ?_)
      · rw [hdata]
        trivial
      · rw [hdata]
        exact Cell.noConfusion
    · rw [heq]
      refine h.extend hroom ⟨r.type, htype, ?_⟩ (fun b => ?_)
      · rw [hdata, hcount, released_eq, hnone]
        rfl
      · rw [hdata]
        exact Cell.noConfusion

theorem Sound.adds (h : Sound t) (calls : List Call) : Sound (addAll calls t) := by
  induction calls generalizing t with
  | nil => exact h
  | cons c calls ih => exact ih (h.add c.alloc c.request)

theorem sound_clear (h : Settled t.log) : Sound (clear t) where
  limit := Nat.zero_le _
  proper _ hi := absurd hi (Nat.not_lt_zero _)
  unused _ _ := rfl
  distinct _ _ _ hi := by cases hi
  out := (settled_iff_out.mp h).congr fun k => by simp [clear]

structure Releasing (n i : Nat) (t : Table) : Prop where
  proper : ∀ j < n, (t.slots j).Proper t.next
  left : ∀ j b, (t.slots j).data = .pointer b → i ≤ j ∧ j < n
  distinct : ∀ j k b, (t.slots j).data = .pointer b → (t.slots k).data = .pointer b → j = k
  out : Out (fun k => ∃ b j, k = .block b ∧ (t.slots j).data = .pointer b) t.log

theorem Releasing.skip {n : Nat} (h : Releasing n i t) (hno : ∀ b, (t.slots i).data ≠ .pointer b) :
    Releasing n (i + 1) t where
  proper := h.proper
  left j b hj := by
    obtain ⟨hle, hlt⟩ := h.left j b hj
    refine ⟨Nat.lt_of_le_of_ne hle ?_, hlt⟩
    rintro rfl
    exact hno b hj
  distinct := h.distinct
  out := h.out

theorem Releasing.free {n b : Nat} (h : Releasing n i t) (hi : (t.slots i).data = .pointer b) :
    Releasing n (i + 1)
      { t.set i { t.slots i with data := .zero } with log := t.log ++ [.give (.block b)] } := by
  have hslot : ∀ j c, ((t.set i { t.slots i with data := .zero }).slots j).data = .pointer c ↔
      j ≠ i ∧ (t.slots j).data = .pointer c := by
    intro j c
    by_cases hj : j = i
    · subst hj
      rw [Table.set_slots_self]
      simp
    · rw [Table.set_slots_of_ne hj]
      simp [hj]
  refine ⟨?_, ?_, ?_, ?_⟩
  · intro j hj
    change ((t.set i _).slots j).Proper t.next
    by_cases hji : j = i
    · subst hji
      rw [Table.set_slots_self]
      obtain ⟨type, htype, -⟩ := h.proper j hj
      exact ⟨type, htype, trivial⟩
    · rw [Table.set_slots_of_ne hji]
      exact h.proper j hj
  · intro j c hj
    obtain ⟨hne, hj⟩ := (hslot j c).mp hj
    obtain ⟨hle, hlt⟩ := h.left j c hj
    exact ⟨Nat.lt_of_le_of_ne hle (Ne.symm hne), hlt⟩
  · intro j k c hj hk
    exact h.distinct j k c ((hslot j c).mp hj).2 ((hslot k c).mp hk).2
  · refine (h.out.give (k := Held.block b) ⟨b, i, rfl, hi⟩).congr fun k => ?_
    constructor
    · rintro ⟨⟨c, j, rfl, hj⟩, hne⟩
      refine ⟨c, j, rfl, (hslot j c).mpr ⟨?_, hj⟩⟩
      rintro rfl
      rw [hi] at hj
      exact hne (congrArg Held.block (Cell.pointer.inj hj).symm)
    · rintro ⟨c, j, rfl, hj⟩
      obtain ⟨hne, hold⟩ := (hslot j c).mp hj
      refine ⟨⟨c, j, rfl, hold⟩, fun heq => ?_⟩
      obtain rfl := Held.block.inj heq
      exact hne (h.distinct j i c hold hi)

theorem Releasing.releaseExifEntry {n : Nat} (h : Releasing n i t) (hi : i < n) :
    Releasing n (i + 1) (releaseExifEntry i t) := by
  obtain ⟨type, htype, hdata⟩ := h.proper i hi
  unfold ExifTable.releaseExifEntry
  dsimp only
  split
  · next hnone => exact absurd (hnone.symm.trans htype) (by simp)
  · next hsome =>
    obtain rfl := Option.some.inj (hsome.symm.trans htype)
    split
    · next hown =>
      split
      · next hcell => exact h.skip (fun b hb => by rw [hcell] at hb; cases hb)
      · next hcell => exact h.free hcell
      · next hcell =>
        rw [hcell] at hdata
        exact absurd (hown.symm.trans hdata) (by simp)
    · next hown =>
      refine h.skip (fun b hb => ?_)
      rw [hb] at hdata
      exact hown hdata.1

theorem releasing_all {n k : Nat} (h : Releasing n i t) (hk : i + k = n) :
    Releasing n n ((List.range' i k).foldl (fun t i => releaseExifEntry i t) t) := by
  induction k generalizing i t with
  | zero =>
    obtain rfl : i = n := hk
    exact h
  | succ k ih =>
    rw [List.range'_succ, List.foldl_cons]
    exact ih (h.releaseExifEntry (by omega)) (by omega)

theorem Sound.settled_destroyJob (h : Sound t) : Settled (destroyJob t).log := by
  have hstart : Releasing t.numOfEntries 0 t := by
    refine ⟨h.proper, fun j b hj => ⟨Nat.zero_le j, ?_⟩, h.distinct, h.out⟩
    by_contra hle
    rw [h.unused j (Nat.le_of_not_lt hle)] at hj
    cases hj
  have hend := releasing_all hstart (Nat.zero_add _)
  rw [← List.range_eq_range'] at hend
  rw [settled_iff_out]
  refine hend.out.congr fun k => ?_
  simp only [iff_false]
  rintro ⟨b, j, -, hj⟩
  obtain ⟨hle, hlt⟩ := hend.left j b hj
  omega

theorem Sound.content_add (h : Sound t) (alloc : Bool) (r : Request) (hi : i < t.numOfEntries) :
    (addExifEntry alloc r t).2.content ((addExifEntry alloc r t).2.slots i).data =
      t.content (t.slots i).data := by
  have hne := Nat.ne_of_lt hi
  rcases addExifEntry_cases alloc r t with ⟨-, heq⟩ | ⟨-, s, -, -, -, -, hcase⟩
  · rw [heq]
  · rcases hcase with ⟨size, -, -, -, heq⟩ | ⟨-, -, -, heq⟩ | ⟨-, -, heq⟩
    · rw [heq]
      change Table.content _ ((t.set _ s).slots i).data = _
      rw [Table.set_slots_of_ne hne]
      cases hcell : (t.slots i).data with
      | pointer b =>
        have hb : b ≠ t.next := Nat.ne_of_lt (h.known hcell)
        exact congrArg some (Function.update_of_ne hb ..)
      | _ => rfl
    · rw [heq]
      change Table.content _ ((t.set _ s).slots i).data = _
      rw [Table.set_slots_of_ne hne]
      rfl
    · rw [heq]
      change Table.content _ ((t.set _ s).slots i).data = _
      rw [Table.set_slots_of_ne hne]
      rfl

theorem numOfEntries_le (alloc : Bool) (r : Request) (t : Table) :
    t.numOfEntries ≤ (addExifEntry alloc r t).2.numOfEntries := by
  rcases addExifEntry_cases alloc r t with ⟨-, heq⟩ | ⟨-, s, -, -, -, -, hcase⟩
  · rw [heq]
  · rcases hcase with ⟨size, -, -, -, heq⟩ | ⟨-, -, -, heq⟩ | ⟨-, -, heq⟩
    · rw [heq]
      exact Nat.le_succ _
    · rw [heq]
      exact Nat.le_succ _
    · rw [heq]
      exact Nat.le_succ _

theorem Sound.content_addAll (h : Sound t) (calls : List Call) (hi : i < t.numOfEntries) :
    (addAll calls t).content ((addAll calls t).slots i).data = t.content (t.slots i).data := by
  induction calls generalizing t with
  | nil => rfl
  | cons c calls ih =>
    have hnext := ih (h.add c.alloc c.request)
      (Nat.lt_of_lt_of_le hi (numOfEntries_le c.alloc c.request t))
    exact hnext.trans (h.content_add c.alloc c.request hi)

theorem copied_take (c : Call) {size : Nat} (hsize : allocated c.request.type c.request.count = some size) :
    (copied c.request size).take (c.request.count * c.request.type.size) = c.data := by
  have hfits := c.fits
  have hgiven := c.given
  unfold copied Call.data
  rw [allocated_eq] at hsize
  split
  · next htext =>
    rw [htext, show ExifType.ascii.size = 1 from rfl, Nat.mul_one] at hgiven ⊢
    have hlength : (c.request.data.take c.request.count).length = c.request.count := List.length_take_of_le hgiven
    rw [List.take_append_of_le_length (Nat.le_of_eq hlength.symm), List.take_take, Nat.min_self]
  · next htext =>
    rw [if_neg htext] at hsize
    split at hsize
    · obtain rfl := Option.some.inj hsize
      rw [Nat.mod_eq_of_lt (Nat.lt_of_succ_lt hfits), List.take_take, Nat.min_self]
    · cases hsize

theorem content_added (c : Call) (hok : (addExifEntry c.alloc c.request t).1 = 0) :
    t.numOfEntries < (addExifEntry c.alloc c.request t).2.numOfEntries ∧
      ∃ bytes, (addExifEntry c.alloc c.request t).2.content
          ((addExifEntry c.alloc c.request t).2.slots t.numOfEntries).data = some bytes ∧
        bytes.take (c.request.count * c.request.type.size) = c.data := by
  rcases addExifEntry_cases c.alloc c.request t with ⟨-, heq⟩ | ⟨-, s, -, -, -, -, hcase⟩
  · rw [heq] at hok
    cases hok
  · rcases hcase with ⟨size, hsize, -, hdata, heq⟩ | ⟨-, -, -, heq⟩ | ⟨hnone, hdata, heq⟩
    · rw [heq]
      refine ⟨Nat.lt_succ_self _, copied c.request size, ?_, copied_take c hsize⟩
      change Table.content _ ((t.set _ s).slots _).data = _
      rw [Table.set_slots_self, hdata]
      exact congrArg some (Function.update_self ..)
    · rw [heq] at hok
      cases hok
    · rw [heq]
      refine ⟨Nat.lt_succ_self _, c.request.data.take c.request.type.size, ?_, ?_⟩
      · change Table.content _ ((t.set _ s).slots _).data = _
        rw [Table.set_slots_self, hdata]
        rfl
      · -- one value, or none
        have hcount : c.request.count ≤ 1 := by
          rw [allocated_eq] at hnone
          split at hnone
          · cases hnone
          · split at hnone
            · cases hnone
            · next hmany => exact Nat.le_of_not_lt fun hlt => hmany (Or.inr hlt)
        rw [List.take_take, Nat.min_eq_left]
        · rfl
        · exact Nat.le_trans (Nat.mul_le_mul_right _ hcount) (Nat.le_of_eq (Nat.one_mul _))

theorem stored_eq (c : Call) (alloc : Bool) :
    c.request.stored alloc =
      match allocated c.request.type c.request.count with
      | some size => if alloc then some (copied c.request size) else none
      | none => some (c.request.data.take c.request.type.size) := by
  obtain ⟨⟨tagId, type, count, data⟩, _, hgiven, hfits⟩ := c
  dsimp only at *
  cases type
  case ascii => rfl
  case undefined =>
    have hsize : count % 2 ^ 32 = count := Nat.mod_eq_of_lt (by simp only [ExifType.size] at hfits; omega)
    simp only [Request.stored, allocated, copied, hsize]
  all_goals
    by_cases hmany : 1 < count
    · simp only [Request.stored, allocated, copied, hmany, if_true, ExifType.size, Nat.mul_one] at hfits ⊢
      rw [Nat.mod_eq_of_lt (by omega)]
    · simp only [Request.stored, allocated, hmany, if_false]

theorem addExifEntry_refines (h : Sound t) (c : Call) {info : List Exif.Entry}
    (hinfo : info.length = t.numOfEntries) :
    (addExifEntry c.alloc c.request t).1 = (Exif.addExifEntry c.alloc info c.request).1 ∧
      (addExifEntry c.alloc c.request t).2.numOfEntries =
        (Exif.addExifEntry c.alloc info c.request).2.length ∧
      (info.length < maxExifTableEntries →
        (addExifEntry c.alloc c.request t).2.content
          ((addExifEntry c.alloc c.request t).2.slots t.numOfEntries).data = c.request.stored c.alloc) := by
  have hstored := stored_eq c c.alloc
  unfold Exif.addExifEntry
  rcases addExifEntry_cases c.alloc c.request t with ⟨hfull, heq⟩ | ⟨hroom, s, -, -, -, -, hcase⟩
  · rw [heq, if_pos (hinfo ▸ hfull)]
    exact ⟨rfl, hinfo.symm, fun hroom => absurd (hinfo ▸ hroom) (Nat.not_lt.mpr hfull)⟩
  · rw [if_neg (Nat.not_le.mpr (hinfo ▸ hroom))]
    rcases hcase with ⟨size, hsize, halloc, hdata, heq⟩ | ⟨hsome, halloc, hdata, heq⟩ | ⟨hnone, hdata, heq⟩
    · rw [hsize, halloc] at hstored
      rw [heq, halloc, hstored]
      refine ⟨rfl, by simp [hinfo], fun _ => ?_⟩
      change Table.content _ ((t.set _ s).slots _).data = _
      rw [Table.set_slots_self, hdata]
      exact congrArg some (Function.update_self ..)
    · obtain ⟨size, hsize⟩ := Option.isSome_iff_exists.mp hsome
      rw [hsize, halloc] at hstored
      rw [h.unused _ (Nat.le_refl _)] at hdata
      rw [heq, halloc, hstored]
      refine ⟨rfl, by simp [hinfo], fun _ => ?_⟩
      change Table.content _ ((t.set _ s).slots _).data = _
      rw [Table.set_slots_self, hdata]
      rfl
    · rw [hnone] at hstored
      rw [heq, hstored]
      refine ⟨rfl, by simp [hinfo], fun _ => ?_⟩
      change Table.content _ ((t.set _ s).slots _).data = _
      rw [Table.set_slots_self, hdata]
      rfl

theorem settled_jobs (jobs : List (List Call)) (h : Settled t.log) : Settled (jobs.foldl job t).log := by
  induction jobs generalizing t with
  | nil => exact h
  | cons calls jobs ih => exact ih ((sound_clear h).adds calls).settled_destroyJob

/-- The counted slots hold in memory what the entries of the plain list hold. -/
def Table.Refines (t : Table) (info : List Exif.Entry) : Prop :=
  info.length = t.numOfEntries ∧ ∀ i e, info[i]? = some e → t.content (t.slots i).data = e.data

theorem Table.Refines.add {info : List Exif.Entry} (hr : t.Refines info) (h : Sound t) (c : Call) :
    (addExifEntry c.alloc c.request t).2.Refines (Exif.addExifEntry c.alloc info c.request).2 := by
  obtain ⟨-, hcount, hadded⟩ := addExifEntry_refines h c hr.1
  refine ⟨hcount.symm, fun i e hi => ?_⟩
  have hold : info[i]? = some e → _ := fun he => (h.content_add c.alloc c.request
    (hr.1 ▸ (List.getElem?_eq_some_iff.mp he).1)).trans (hr.2 i e he)
  rw [Exif.addExifEntry] at hi
  split at hi
  · exact hold hi
  · next hroom =>
    rw [List.getElem?_append] at hi
    split at hi
    · exact hold hi
    · rw [List.getElem?_singleton, Option.ite_none_right_eq_some] at hi
      obtain ⟨hlast, rfl⟩ := hi.imp_right Option.some.inj
      obtain rfl : i = t.numOfEntries := by have := hr.1; omega
      exact hadded (Nat.lt_of_not_le hroom)

theorem Table.Refines.adds {info : List Exif.Entry} (hr : t.Refines info) (h : Sound t) (calls : List Call) :
    (addAll calls t).Refines (calls.foldl (fun info c => (Exif.addExifEntry c.alloc info c.request).2) info) := by
  induction calls generalizing t info with
  | nil => exact hr
  | cons c calls ih => exact ih (hr.add h c) (h.add c.alloc c.request)

/-- After any jobs, the table of the next one refines the list that `Exif.addExifEntry` makes of the same calls. -/
theorem exif_table_refines (jobs : List (List Call)) (calls : List Call) :
    (addAll calls (clear (jobs.foldl job {}))).Refines
      (calls.foldl (fun info c => (Exif.addExifEntry c.alloc info c.request).2) []) :=
  Table.Refines.adds ⟨rfl, fun i e hi => by simp at hi⟩ (sound_clear (settled_jobs jobs settled_nil)) calls

/-- After any jobs, whatever entries the next one adds: the table is not exceeded, each entry that
was added with success holds the data given, and after the release every block was freed once. -/
theorem exif_table_balanced (jobs : List (List Call)) (calls : List Call) :
    (addAll calls (clear (jobs.foldl job {}))).numOfEntries ≤ maxExifTableEntries ∧
      (∀ pre c post, calls = pre ++ c :: post →
        (addExifEntry c.alloc c.request (addAll pre (clear (jobs.foldl job {})))).1 = 0 →
          ∃ bytes, (addAll calls (clear (jobs.foldl job {}))).content
              ((addAll calls (clear (jobs.foldl job {}))).slots
                (addAll pre (clear (jobs.foldl job {}))).numOfEntries).data = some bytes ∧
            bytes.take (c.request.count * c.request.type.size) = c.data) ∧
      Settled (destroyJob (addAll calls (clear (jobs.foldl job {})))).log := by
  have hclear := sound_clear (settled_jobs (t := {}) jobs settled_nil)
  refine ⟨(hclear.adds calls).limit, ?_, (hclear.adds calls).settled_destroyJob⟩
  rintro pre c post rfl hok
  obtain ⟨hlt, bytes, hcontent, htake⟩ := content_added c hok
  refine ⟨bytes, ?_, htake⟩
  have hsplit : addAll (pre ++ c :: post) (clear (jobs.foldl job {})) =
      addAll post (addExifEntry c.alloc c.request (addAll pre (clear (jobs.foldl job {})))).2 := by
    unfold addAll
    rw [List.foldl_append, List.foldl_cons]
  rw [hsplit]
  exact (((hclear.adds pre).add c.alloc c.request).content_addAll post hlt).trans hcontent

end Jpeg.ExifTable
