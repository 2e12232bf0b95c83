import Mathlib.Data.List.TakeWhile
import Mathlib.Logic.Function.Iterate
import Wt88047.Lib.Custody

/-! `QCameraStream`: setting up and releasing the buffers of a stream, allocated when the stream is
started or ahead of that by a deferred job. -/

namespace Wt88047.StreamBuffers

open Custody

/-- `streamBufs` is the memory object; the two arrays go to mm-camera-interface, which frees them;
a mapping is that of one buffer index. -/
inductive Held
  | streamBufs
  | bufDefs
  | regFlags
  | mapping (i : Nat)
  deriving DecidableEq

def mappings (l : List Nat) : List (Event Held) := takes (l.map Held.mapping)

def unmappings (l : List Nat) : List (Event Held) := gives (l.map Held.mapping)

inductive Status
  | noError
  | noMemory
  | invalidOperation
  deriving DecidableEq

/-- Pointers are kept as whether they are non-NULL, `bufAllocPid` as whether it is non-zero. -/
structure Stream where
  defferedAllocation : Bool
  numBufs : Nat
  dynBufAlloc : Bool
  numBufsNeedAlloc : Nat := 0
  streamBufs : Bool := false
  bufDefs : Bool := false
  regFlags : Bool := false
  streamBufsAcquired : Bool := false
  bufAllocPid : Bool := false
  waitForCond : Bool := false
  log : List (Event Held) := []

namespace Stream

def record (events : List (Event Held)) (s : Stream) : Stream := { s with log := s.log ++ events }

def mapped (l : List Nat) (s : Stream) : Stream := s.record (mappings l)

def unmapped (l : List Nat) (s : Stream) : Stream := s.record (unmappings l)

/-- `mStreamBufs->deallocate(); delete mStreamBufs; mStreamBufs = NULL`. -/
def deallocate (s : Stream) : Stream := { s.record [.give .streamBufs] with streamBufs := false }

end Stream

/-- How the calls of a set-up go. `size` is false where `getSize` returns `BAD_INDEX`. -/
structure Setup where
  opsTbl : Bool
  memory : Bool
  size : Nat → Bool
  map : Nat → Bool
  flags : Bool
  defs : Bool
  query : Bool

def Setup.takesIn (o : Setup) (i : Nat) : Bool := o.size i && o.map i

def mapLoop (o : Setup) : List Nat → Stream → Stream × Option Nat
  | [], s => (s, none)
  | i :: rest, s => if o.takesIn i then mapLoop o rest (s.mapped [i]) else (s, some i)

def minAllocatedBuffers : Nat := 3

/-- `numBufAlloc`: with dynamic allocation the other buffers are left to a thread. A successful
allocation leaves the count as it was asked for. -/
def Stream.initialBufs (s : Stream) : Nat :=
  if s.dynBufAlloc then
    if minAllocatedBuffers > s.numBufs then s.numBufs else minAllocatedBuffers
  else s.numBufs

def Stream.split (s : Stream) : Stream :=
  { s with
    dynBufAlloc := s.dynBufAlloc && !decide (minAllocatedBuffers > s.numBufs)
    numBufsNeedAlloc := s.numBufs - s.initialBufs }

def arrays (o : Setup) (n : Nat) (s : Stream) : Stream × Status :=
  if !o.flags then ((s.unmapped (List.range n)).deallocate, .noMemory)
  else
    let s := s.record [.take .regFlags]
    if !o.defs then
      (((s.unmapped (List.range n)).deallocate).record [.give .regFlags], .invalidOperation)
    else
      let s := s.record [.take .bufDefs]
      if !o.query then
        (((s.unmapped (List.range n)).deallocate).record [.give .bufDefs, .give .regFlags],
          .invalidOperation)
      else ({ s with bufDefs := true }, .noError)

def getBufs (o : Setup) (s : Stream) : Stream × Status :=
  if !o.opsTbl then (s, .invalidOperation)
  else
    let n := s.initialBufs
    let s := s.split
    if !o.memory then (s, .noMemory)
    else
      match mapLoop o (List.range n) { s.record [.take .streamBufs] with streamBufs := true } with
      | (s, some i) =>
        if o.size i then ((s.unmapped (List.range i)).deallocate, .invalidOperation)
        else (s, .invalidOperation)
      | (s, none) =>
        match arrays o n s with
        | (s, .noError) =>
          if 0 < s.numBufsNeedAlloc then ({ s with waitForCond := true, bufAllocPid := true }, .noError)
          else (s, .noError)
        | result => result

/-- The clean-up after index `i` unmaps with `i` where its own loop counts `j`. -/
def allocateBuffers (o : Setup) (s : Stream) : Stream × Status :=
  let n := s.numBufs
  if !o.memory then (s, .noMemory)
  else
    match mapLoop o (List.range n) { s.record [.take .streamBufs] with streamBufs := true } with
    | (s, some i) => ((s.unmapped (List.replicate i i)).deallocate, .invalidOperation)
    | (s, none) =>
      match arrays o n s with
      | (s, .noError) => ({ s with regFlags := true }, .noError)
      | (s, rc) => ({ s with regFlags := false }, rc)

structure More where
  memory : Bool
  size : Nat → Bool
  map : Nat → Bool

def More.takesIn (o : More) (i : Nat) : Bool := o.size i && o.map i

def Stream.remaining (s : Stream) : List Nat :=
  List.range' (s.numBufs - s.numBufsNeedAlloc) s.numBufsNeedAlloc

def bufAllocRoutine (o : More) (s : Stream) : Stream :=
  if 0 < s.numBufsNeedAlloc then
    if o.memory then { s.mapped (s.remaining.filter o.takesIn) with numBufsNeedAlloc := 0 } else s
  else s

def condSignal (forceExit : Bool) (s : Stream) : Stream :=
  if s.waitForCond then
    { s with waitForCond := false, numBufsNeedAlloc := if forceExit then 0 else s.numBufsNeedAlloc }
  else s

def joinThread (o : More) (s : Stream) : Stream :=
  if s.bufAllocPid then { bufAllocRoutine o (condSignal true s) with bufAllocPid := false } else s

def putBufs (o : More) (s : Stream) : Stream :=
  let s := joinThread o s
  let s := { s.unmapped (List.range s.numBufs) with bufDefs := false }
  if !s.streamBufsAcquired then s.deallocate else s

def releaseBuffs (o : More) (s : Stream) : Stream :=
  let s := joinThread o s
  let s := if s.bufDefs then { s.unmapped (List.range s.numBufs) with bufDefs := false } else s
  if !s.streamBufsAcquired && s.streamBufs then s.deallocate else s

/-- One set-up of the buffers up to their release. `status` is the allocation that
`mm_stream_init_bufs` makes itself; `signalled` is whether the channel came to start before the
buffers were put back; `starts` is how often the channel of a deferred stream was started. -/
structure Life where
  setup : Setup
  status : Bool
  signalled : Bool
  more : More
  starts : Nat
  deleted : Bool

/-- `mm_stream_init_bufs` and later `mm_stream_deinit_bufs` over `get_bufs` and `put_bufs`. -/
def immediate (l : Life) (s : Stream) : Stream :=
  match getBufs l.setup s with
  | (s, .noError) =>
    if !l.status then (putBufs l.more s).record [.give .bufDefs, .give .regFlags]
    else
      let s := s.record [.give .regFlags]
      let s := if l.signalled then condSignal false s else s
      (putBufs l.more s).record [.give .bufDefs]
  | (s, _) => s

/-- The same over `get_bufs_deffered` and `put_bufs_deffered`, which puts nothing back. -/
def start (s : Stream) : Stream :=
  if s.regFlags && s.bufDefs then s.record [.give .regFlags, .give .bufDefs] else s

/-- The job, the starts, `deleteStream` when the channel is deleted first, and the destructor. -/
def deffered (l : Life) (s : Stream) : Stream :=
  let s := start^[l.starts] (allocateBuffers l.setup s).1
  let s := if l.deleted then releaseBuffs l.more { s with streamBufsAcquired := true } else s
  releaseBuffs l.more { s with streamBufsAcquired := false }

def Stream.live (s : Stream) (l : Life) : Stream :=
  if s.defferedAllocation then deffered l s else immediate l s

def Stream.lives (s : Stream) (run : List Life) : Stream := run.foldl Stream.live s

structure Stream.Clean (s : Stream) : Prop where
  streamBufs : s.streamBufs = false
  bufDefs : s.bufDefs = false
  streamBufsAcquired : s.streamBufsAcquired = false
  bufAllocPid : s.bufAllocPid = false
  waitForCond : s.waitForCond = false

structure Stream.RolledBack (s : Stream) : Prop where
  settled : Settled s.log
  clean : s.Clean

def fresh (defferedAllocation : Bool) (numBufs : Nat) (dynBufAlloc : Bool) : Stream :=
  { defferedAllocation, numBufs, dynBufAlloc }

theorem fresh_rolledBack (d : Bool) (n : Nat) (dyn : Bool) : (fresh d n dyn).RolledBack :=
  ⟨settled_nil, rfl, rfl, rfl, rfl, rfl⟩

def Setup.firstFailure (o : Setup) (n : Nat) : Option Nat :=
  (List.range n).find? fun i => !o.takesIn i

def Setup.completes (o : Setup) : Bool := o.flags && o.defs && o.query

def Life.finishes (l : Life) (s : Stream) : Prop :=
  l.status = true ∧ l.signalled = true ∧ l.more.memory = true ∧
    ∀ i, s.initialBufs ≤ i → i < s.numBufs → l.more.takesIn i = true

def Life.Immediate (l : Life) (s : Stream) : Prop :=
  l.setup.opsTbl = true → l.setup.memory = true →
    match l.setup.firstFailure s.initialBufs with
    | some i => l.setup.size i = true
    | none => l.setup.completes = true → s.initialBufs < s.numBufs → l.finishes s

def Life.Deffered (l : Life) (s : Stream) : Prop :=
  l.setup.memory = true →
    match l.setup.firstFailure s.numBufs with
    | some i => i = 0
    | none => l.setup.completes = true → l.starts = 1

def Life.Fits (l : Life) (s : Stream) : Prop :=
  if s.defferedAllocation then l.Deffered s else l.Immediate s

variable {o : Setup} {l : Life} {s : Stream}

@[simp] theorem story_mappings (i : Nat) {l : List Nat} (hl : l.Nodup) :
    story (.mapping i) (mappings l) = if i ∈ l then [true] else [] := by
  rw [mappings, story_takes _ (hl.map fun _ _ h => Held.mapping.inj h)]
  simp

@[simp] theorem story_unmappings (i : Nat) {l : List Nat} (hl : l.Nodup) :
    story (.mapping i) (unmappings l) = if i ∈ l then [false] else [] := by
  rw [unmappings, story_gives _ (hl.map fun _ _ h => Held.mapping.inj h)]
  simp

theorem story_mappings_other {k : Held} (hk : ∀ i, k ≠ .mapping i) (l : List Nat) :
    story k (mappings l) = [] ∧ story k (unmappings l) = [] := by
  have hnot : k ∉ l.map Held.mapping := by
    intro hmem
    obtain ⟨i, -, rfl⟩ := List.mem_map.mp hmem
    exact hk i rfl
  exact ⟨story_takes_of_not_mem hnot, story_gives_of_not_mem hnot⟩

theorem mapLoop_eq (o : Setup) (l : List Nat) (s : Stream) :
    mapLoop o l s = (s.mapped (l.takeWhile o.takesIn), l.find? fun i => !o.takesIn i) := by
  induction l generalizing s with
  | nil => simp [mapLoop, Stream.mapped, Stream.record, mappings, takes]
  | cons i l ih =>
    rw [mapLoop]
    by_cases h : o.takesIn i = true
    · simp [h, ih, Stream.mapped, Stream.record, mappings, takes]
    · simp [h, Stream.mapped, Stream.record, mappings, takes]

theorem takeWhile_range {p : Nat → Bool} {n i : Nat} (h : (List.range n).find? (fun j => !p j) = some i) :
    (List.range n).takeWhile p = List.range i := by
  obtain ⟨hi, pre, post, hsplit, hpre⟩ := List.find?_eq_some_iff_append.mp h
  have hlength : pre.length = i := by
    have hget : (List.range n)[pre.length]? = some i := by
      rw [hsplit]
      simp
    rw [List.getElem?_eq_some_iff] at hget
    obtain ⟨hlt, heq⟩ := hget
    rwa [List.getElem_range] at heq
  have hrange : pre = List.range i := by
    have htake := congrArg (List.take i) hsplit
    rw [List.take_range, List.take_left' hlength] at htake
    have hle : i ≤ n := by
      have hlen := congrArg List.length hsplit
      simp at hlen
      omega
    rw [← htake, Nat.min_eq_left hle]
  rw [hsplit, ← hrange]
  simp at hi
  rw [List.takeWhile_append_of_pos fun j hj => by simpa using hpre j hj]
  simp [hi]

theorem mapLoop_failed {n i : Nat} (h : o.firstFailure n = some i) (s : Stream) :
    mapLoop o (List.range n) s = (s.mapped (List.range i), some i) := by
  rw [mapLoop_eq, takeWhile_range h]
  exact congrArg _ h

theorem mapLoop_done {n : Nat} (h : o.firstFailure n = none) (s : Stream) :
    mapLoop o (List.range n) s = (s.mapped (List.range n), none) := by
  rw [mapLoop_eq, show (List.range n).find? (fun i => !o.takesIn i) = none from h]
  congr 2
  rw [List.takeWhile_eq_self_iff]
  intro i hi
  simpa using List.find?_eq_none.mp h i hi

theorem initialBufs_le (s : Stream) : s.initialBufs ≤ s.numBufs := by
  unfold Stream.initialBufs
  split
  · split <;> omega
  · exact Nat.le_refl _

theorem Stream.RolledBack.iff_of_log {t : Stream} {e : List (Event Held)} (h : s.RolledBack)
    (he : t.log = s.log ++ e) : t.RolledBack ↔ Settled e ∧ t.Clean := by
  constructor
  · intro ht
    refine ⟨?_, ht.clean⟩
    rw [← h.settled.append_iff, ← he]
    exact ht.settled
  · rintro ⟨hsettled, hclean⟩
    refine ⟨?_, hclean⟩
    rw [he]
    exact h.settled.append_iff.mpr hsettled

def undone (n : Nat) (taken : List Held) : List (Event Held) :=
  .take .streamBufs :: (mappings (List.range n) ++ (takes taken ++
    (unmappings (List.range n) ++ .give .streamBufs :: gives taken.reverse)))

theorem settled_undone (n : Nat) {taken : List Held} (hnodup : taken.Nodup)
    (harrays : ∀ k ∈ taken, k = .regFlags ∨ k = .bufDefs) : Settled (undone n taken) := by
  intro k
  have hother := fun hk => story_mappings_other (k := k) hk (List.range n)
  unfold status undone
  simp only [story_take, story_give, story_append, story_takes k hnodup,
    story_gives k (List.nodup_reverse.mpr hnodup), List.mem_reverse]
  cases k with
  | mapping i =>
    have hnot : Held.mapping i ∉ taken := fun hmem => by simpa using harrays _ hmem
    rw [story_mappings i List.nodup_range, story_unmappings i List.nodup_range]
    by_cases hi : i < n <;> simp [hi, hnot]
  | streamBufs =>
    have hnot : Held.streamBufs ∉ taken := fun hmem => by simpa using harrays _ hmem
    rw [(hother (by simp)).1, (hother (by simp)).2]
    simp [hnot]
  | bufDefs =>
    rw [(hother (by simp)).1, (hother (by simp)).2]
    by_cases hmem : Held.bufDefs ∈ taken <;> simp [hmem]
  | regFlags =>
    rw [(hother (by simp)).1, (hother (by simp)).2]
    by_cases hmem : Held.regFlags ∈ taken <;> simp [hmem]

def released (n total : Nat) (more : List Nat) (early late : List (Event Held)) : List (Event Held) :=
  .take .streamBufs :: (mappings (List.range n) ++ (.take .regFlags :: .take .bufDefs :: (early ++
    (mappings more ++ (unmappings (List.range total) ++ .give .streamBufs :: late)))))

theorem settled_released_iff {n total : Nat} {more : List Nat} (early late : List (Event Held))
    (hn : n ≤ total) (hnodup : more.Nodup) (hmore : ∀ i ∈ more, n ≤ i ∧ i < total)
    (harrays : ∀ k, story k early ++ story k late =
      if k = .regFlags ∨ k = .bufDefs then [false] else []) :
    Settled (released n total more early late) ↔ ∀ i, n ≤ i → i < total → i ∈ more := by
  have hstory : ∀ i, status (.mapping i) (released n total more early late) = some false ↔
      (n ≤ i → i < total → i ∈ more) := by
    intro i
    have hnil := harrays (.mapping i)
    rw [if_neg (by simp), List.append_eq_nil_iff] at hnil
    simp only [status, released, story_take, story_give, story_append, hnil.1, hnil.2,
      story_mappings i hnodup, story_mappings i List.nodup_range, story_unmappings i List.nodup_range]
    by_cases hi : i < n
    · have hnot : i ∉ more := fun hmem => by have := hmore i hmem; omega
      simp [hi, hnot, Nat.lt_of_lt_of_le hi hn]
    · by_cases hmem : i ∈ more
      · simp [hi, hmem, (hmore i hmem).2]
      · by_cases ht : i < total
        · simp [hi, hmem, ht]
        · simp [hi, hmem, ht]
  constructor
  · intro h i
    exact (hstory i).mp (h _)
  · intro h k
    have hother : (∀ i, k ≠ .mapping i) → story k (released n total more early late) =
        story k [.take .streamBufs, .take .regFlags, .take .bufDefs] ++
          (story k early ++ (story k [.give .streamBufs] ++ story k late)) := by
      intro hk
      simp only [released, story_take, story_give, story_append, story_nil,
        (story_mappings_other hk (List.range n)).1, (story_mappings_other hk more).1,
        (story_mappings_other hk (List.range total)).2]
      split_ifs <;> rfl
    have harray := harrays k
    cases k with
    | mapping i => exact (hstory i).mpr (h i)
    | streamBufs =>
      rw [if_neg (by simp), List.append_eq_nil_iff] at harray
      rw [status, hother (by simp), harray.1, harray.2]
      rfl
    | bufDefs =>
      rw [status, hother (by simp), show story Held.bufDefs [.give .streamBufs] = [] from rfl,
        List.nil_append, harray]
      rfl
    | regFlags =>
      rw [status, hother (by simp), show story Held.regFlags [.give .streamBufs] = [] from rfl,
        List.nil_append, harray]
      rfl

end Wt88047.StreamBuffers
