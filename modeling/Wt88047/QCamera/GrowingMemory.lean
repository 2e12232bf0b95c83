import Wt88047.Lib.Leases
import Wt88047.Lib.Runs

/-! The buffers of a stream or video memory object with what is obtained for each: the ION buffer, the
camera memory that maps it and, for video, the metadata with its native handle. -/

namespace Wt88047.GrowingMemory

open Leases

/-- `MM_CAMERA_MAX_NUM_FRAMES`, the length of the arrays. -/
abbrev maxNumFrames : Nat := 24

/-- `mMemInfo`, `mCameraMemory`, `mMetadata` and `mNativeHandle`. -/
inductive Resource where
  | ion
  | camera
  | metadata
  | native
  deriving DecidableEq

abbrev Slot : Type := Resource × Nat

/-- `QCameraStreamMemory`, or `QCameraVideoMemory`, which never has a pool. -/
structure Config where
  video : Bool
  pooled : Bool
  unpooled : video = true → pooled = false

def Config.has (c : Config) : Resource → Bool
  | .ion => true
  | .camera => true
  | .metadata => c.video
  | .native => c.video

/-- `total` is what the calls since the last `deallocate` were to add up to; the code does not read it. -/
structure World where
  bufferCount : Nat := 0
  metaBufCount : Nat := 0
  books : Books Slot := {}
  total : Nat := 0

structure Outcome where
  ion : Nat → Bool := fun _ => true
  camera : Nat → Bool := fun _ => true
  metadata : Nat → Bool := fun _ => true
  native : Nat → Bool := fun _ => true

def slots (r : Resource) (l : List Nat) : List Slot := l.map fun i => (r, i)

def assign (k : Slot) (ok : Bool) (b : Books Slot) : Books Slot := if ok then b.obtain k else b.drop k

/-- `deallocOneBuffer`, or `releaseBuffer` of the pool, which leaves the entry as it is. -/
def giveUp (c : Config) (l : List Nat) (b : Books Slot) : Books Slot :=
  b.giveBackAll (!c.pooled) (slots .ion l)

/-- The loop of `alloc`: `n` buffers are still to come and `i` is the next. When one fails, all before
it are given up, those of earlier calls too. -/
def allocLoop (c : Config) (ok : Nat → Bool) : Nat → Nat → Books Slot → Books Slot × Bool
  | 0, _, b => (b, true)
  | n + 1, i, b =>
    if ok i then allocLoop c ok n (i + 1) (b.obtain (.ion, i))
    else (giveUp c (List.range i).reverse b, false)

def alloc (c : Config) (count : Nat) (ok : Nat → Bool) (w : World) : World × Bool :=
  if maxNumFrames < w.bufferCount + count then (w, false)
  else
    let r := allocLoop c ok count w.bufferCount w.books
    ({ w with books := r.1 }, r.2)

/-- The camera memory for `n` indices from `start` on; nobody looks whether there is any. -/
def mapCamera (ok : Nat → Bool) (start n : Nat) (b : Books Slot) : Books Slot :=
  (List.range' start n).foldl (fun b i => assign (.camera, i) (ok i) b) b

namespace Stream

def allocate (c : Config) (count : Nat) (o : Outcome) (w : World) : World × Bool :=
  match alloc c count o.ion w with
  | (w, false) => (w, false)
  | (w, true) => ({ w with books := mapCamera o.camera 0 count w.books, bufferCount := count }, true)

def allocateMore (c : Config) (count : Nat) (o : Outcome) (w : World) : World × Bool :=
  match alloc c count o.ion w with
  | (w, false) => (w, false)
  | (w, true) =>
    ({ w with
      books := mapCamera o.camera w.bufferCount count w.books
      bufferCount := (w.bufferCount + count) % 256 }, true)

def deallocate (c : Config) (w : World) : Option World :=
  let indices := List.range w.bufferCount
  if ∀ i ∈ indices, (w.books.slot (.camera, i)).isSome = true then
    some { w with
      books := giveUp c indices (w.books.giveBackAll true (slots .camera indices))
      bufferCount := 0 }
  else none

end Stream

namespace Video

def dropHandle (i : Nat) (b : Books Slot) (j : Nat) : Books Slot :=
  ((b.giveBack false (.metadata, i)).giveBack false (.native, j)).giveBack false (.metadata, j)

/-- The loop of `allocate`: `n` indices are still to come and `i` is the next. A native handle that is
there is used again. -/
def metadataLoop (c : Config) (o : Outcome) : Nat → Nat → World → Option (World × Bool)
  | 0, _, w => some (w, true)
  | n + 1, i, w =>
    let w := { w with books := assign (.metadata, i) (o.metadata i) w.books }
    if !o.metadata i then
      (Stream.deallocate c
        { w with books := w.books.giveBackAll false (slots .metadata (List.range i)) }).map fun w => (w, false)
    else if (w.books.slot (.native, i)).isSome then metadataLoop c o n (i + 1) w
    else
      let w := { w with books := assign (.native, i) (o.native i) w.books }
      if !o.native i then some ({ w with books := (List.range i).reverse.foldl (dropHandle i) w.books }, false)
      else metadataLoop c o n (i + 1) w

def allocate (c : Config) (count : Nat) (o : Outcome) (w : World) : Option (World × Bool) :=
  match Stream.allocate c count o w with
  | (w, false) => some (w, false)
  | (w, true) =>
    (metadataLoop c o count 0 w).map fun r =>
      if r.2 then ({ r.1 with bufferCount := count, metaBufCount := count }, true) else r

def undoMore (b : Books Slot) (j : Nat) : Option (Books Slot) :=
  let b := b.giveBack false (.metadata, j)
  if (b.slot (.camera, j)).isSome then some ((b.giveBack true (.camera, j)).giveBack true (.ion, j)) else none

/-- The loop of `allocateMore`, which starts at `start`. An index beyond the arrays has no next state,
nor has a native handle that is NULL. -/
def moreLoop (o : Outcome) (start : Nat) : Nat → Nat → Books Slot → Option (Books Slot × Bool)
  | 0, _, b => some (b, true)
  | n + 1, i, b =>
    if maxNumFrames ≤ i then none
    else
      let b := assign (.metadata, i) (o.metadata i) b
      if !o.metadata i then ((List.range' start (i - start)).foldlM undoMore b).map fun b => (b, false)
      else if !o.native i then none
      else moreLoop o start n (i + 1) (b.obtain (.native, i))

/-- The buffer count that the loop starts from is the one that `Stream.allocateMore` has advanced. -/
def allocateMore (c : Config) (count : Nat) (o : Outcome) (w : World) : Option (World × Bool) :=
  match Stream.allocateMore c count o w with
  | (w, false) => some (w, false)
  | (w, true) =>
    (moreLoop o w.bufferCount count w.bufferCount w.books).map fun r =>
      if r.2 then
        let n := (w.bufferCount + count) % 256
        ({ w with books := r.1, bufferCount := n, metaBufCount := n }, true)
      else ({ w with books := r.1 }, false)

def deallocate (c : Config) (w : World) : Option World :=
  let indices := List.range w.metaBufCount
  if ∀ i ∈ indices, (w.books.slot (.metadata, i)).isSome = true then
    (Stream.deallocate c
      { w with
        books := w.books.giveBackAll true
          (indices.flatMap fun i => [(Resource.native, i), (Resource.metadata, i)]) }).map fun w =>
      { w with bufferCount := 0, metaBufCount := 0 }
  else none

end Video

inductive Event where
  | allocate (count : Nat) (o : Outcome)
  | allocateMore (count : Nat) (o : Outcome)
  | deallocate

def call (c : Config) (w : World) : Event → Option (World × Bool)
  | .allocate count o => if c.video then Video.allocate c count o w else some (Stream.allocate c count o w)
  | .allocateMore count o =>
    if c.video then Video.allocateMore c count o w else some (Stream.allocateMore c count o w)
  | .deallocate => (if c.video then Video.deallocate c w else Stream.deallocate c w).map fun w => (w, true)

def Event.total (n : Nat) (ok : Bool) : Event → Nat
  | .allocate count _ => if ok then n + count else n
  | .allocateMore count _ => if ok then n + count else n
  | .deallocate => 0

def step (c : Config) (w : World) (e : Event) : Option World :=
  (call c w e).map fun r => { r.1 with total := e.total w.total r.2 }

/-- `getCnt` is the sum, and exactly the indices below it have their memory. -/
structure World.Right (c : Config) (w : World) : Prop where
  count : w.bufferCount = w.total
  below : ∀ r i, c.has r = true → i < w.bufferCount → w.books.Live (r, i)
  above : ∀ r i, w.bufferCount ≤ i → ¬w.books.Live (r, i)
  once : w.books.released.Nodup

/-- The call returns, its result is right, and what was obtained is released once `deallocate` is done. -/
def Kept (c : Config) (w : World) (e : Event) : Prop :=
  ∃ w', step c w e = some w' ∧ w'.Right c ∧
    (e = .deallocate → ∀ id < w'.books.next, w'.books.released.count id = 1)

/-- The calls on which the code does that. One with too large a count fails at once. `allocate` is for an
object without buffers; it fails for want of an ION buffer or of the first metadata, or gets everything.
`allocateMore` adds nothing to a video memory; on a stream memory it gets everything, or fails for want
of an ION buffer when there were none before. -/
def Event.Meets (c : Config) (w : World) : Event → Prop
  | .allocate count o => maxNumFrames < w.bufferCount + count ∨
    (w.bufferCount = 0 ∧ ((∃ i < count, o.ion i = false) ∨
      ((∀ i < count, o.camera i = true) ∧ (c.video = true →
        (0 < count ∧ o.metadata 0 = false) ∨ ∀ i < count, o.metadata i = true ∧ o.native i = true))))
  | .allocateMore count o => maxNumFrames < w.bufferCount + count ∨
    (w.bufferCount = 0 ∧ ∃ i < count, o.ion i = false) ∨
    ((c.video = true → count = 0) ∧
      ∀ i < count, o.ion (w.bufferCount + i) = true ∧ o.camera (w.bufferCount + i) = true)
  | .deallocate => True

instance Event.Meets.decidable (c : Config) (w : World) : ∀ e : Event, Decidable (e.Meets c w)
  | .allocate count o => inferInstanceAs (Decidable (maxNumFrames < w.bufferCount + count ∨
    (w.bufferCount = 0 ∧ ((∃ i < count, o.ion i = false) ∨
      ((∀ i < count, o.camera i = true) ∧ (c.video = true →
        (0 < count ∧ o.metadata 0 = false) ∨ ∀ i < count, o.metadata i = true ∧ o.native i = true))))))
  | .allocateMore count o => inferInstanceAs (Decidable (maxNumFrames < w.bufferCount + count ∨
    (w.bufferCount = 0 ∧ ∃ i < count, o.ion i = false) ∨
    ((c.video = true → count = 0) ∧
      ∀ i < count, o.ion (w.bufferCount + i) = true ∧ o.camera (w.bufferCount + i) = true)))
  | .deallocate => inferInstanceAs (Decidable True)

end Wt88047.GrowingMemory
