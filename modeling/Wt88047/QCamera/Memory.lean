import Wt88047.Lib.Runs
import Wt88047.MmCamera.Superbuf

/-! The ION buffers of the memory objects and of the pool they share. -/

namespace Wt88047.Memory

open Superbuf (StreamType)

def maxNumFrames : Nat := 24

/-- A `QCameraMemInfo`. `ion` stands for its descriptors and handle, which name one buffer; they are
zero once it is freed. -/
structure MemInfo where
  ion : Option Nat := none
  size : Nat := 0
  cached : Bool := false
  heapId : Nat := 0
  deriving DecidableEq

/-- `QCameraHeapMemory` and `QCameraStreamMemory`. -/
inductive Kind
  | heap
  | stream
  deriving DecidableEq

/-- What the constructor of a memory object fixes. A heap memory object never has a pool. -/
structure Config where
  kind : Kind
  cached : Bool
  pooled : Bool
  streamType : StreamType
  heapUnpooled : kind = .heap → pooled = false

/-- `mapped` says which entries of `mPtr` or `mCameraMemory` are set. `next` buffers were obtained
from the kernel so far, `freed` are those given back to it. -/
structure World where
  bufferCount : Nat → Nat := fun _ => 0
  memInfo : Nat → Nat → MemInfo := fun _ _ => {}
  mapped : Nat → Nat → Bool := fun _ _ => false
  pools : StreamType → List MemInfo := fun _ => []
  next : Nat := 0
  freed : List Nat := []

namespace World

def setInfo (w : World) (o i : Nat) (m : MemInfo) : World :=
  { w with memInfo := fun p j => if p = o ∧ j = i then m else w.memInfo p j }

def setPool (w : World) (t : StreamType) (l : List MemInfo) : World :=
  { w with pools := fun s => if s = t then l else w.pools s }

def setCount (w : World) (o n : Nat) : World :=
  { w with bufferCount := fun p => if p = o then n else w.bufferCount p }

/-- The mappings of `n` indices from `start` on. -/
def setMapped (w : World) (o start n : Nat) (f : Nat → Bool) : World :=
  { w with mapped := fun p i => if p = o ∧ start ≤ i ∧ i < start + n then f i else w.mapped p i }

end World

/-- `QCameraMemoryPool::findBufferLocked`: the entry found and those that stay. -/
def findBufferLocked (entries : List MemInfo) (heapId size : Nat) (cached : Bool) (t : StreamType) :
    Option (MemInfo × List MemInfo) :=
  let fits (m : MemInfo) : Bool :=
    (if t = .offlineProc then m.size = size else size ≤ m.size) && m.heapId = heapId && m.cached = cached
  (entries.find? fits).map fun m => (m, entries.eraseP fits)

def allocOneBuffer (ion heapId size : Nat) (cached : Bool) : MemInfo :=
  { ion := some ion, size := (size + 4095) / 4096 * 4096, cached, heapId }

def deallocOneBuffer (o : Nat) (w : World) (i : Nat) : World :=
  { w.setInfo o i { w.memInfo o i with ion := none, size := 0 }
    with freed := (w.memInfo o i).ion.toList ++ w.freed }

def releaseBuffer (t : StreamType) (o : Nat) (w : World) (i : Nat) : World :=
  w.setPool t (w.pools t ++ [w.memInfo o i])

def giveUp (c : Config) (o : Nat) (w : World) (i : Nat) : World :=
  if c.pooled then releaseBuffer c.streamType o w i else deallocOneBuffer o w i

section

variable (heapId : Nat)

def allocBuffer (c : Config) (o i size : Nat) (ok : Bool) (w : World) : Option World :=
  match if c.pooled then findBufferLocked (w.pools c.streamType) heapId size c.cached c.streamType
    else none with
  | some (m, rest) => some ((w.setPool c.streamType rest).setInfo o i m)
  | none =>
    if ok then
      some { w.setInfo o i (allocOneBuffer w.next heapId size c.cached) with next := w.next + 1 }
    else none

/-- The loop of `QCameraMemory::alloc`: `n` more buffers from index `i` on. When one fails, all
entries below it are given up, those of earlier calls too. -/
def allocLoop (c : Config) (o size : Nat) (ok : Nat → Bool) : Nat → Nat → World → Bool × World
  | 0, _, w => (true, w)
  | n + 1, i, w =>
    match allocBuffer heapId c o i size (ok i) w with
    | some w' => allocLoop c o size ok n (i + 1) w'
    | none => (false, (List.range i).reverse.foldl (giveUp c o) w)

def alloc (c : Config) (o count size : Nat) (ok : Nat → Bool) (w : World) : Bool × World :=
  if maxNumFrames < w.bufferCount o + count then (false, w)
  else allocLoop heapId c o size ok count (w.bufferCount o) w

/-- What `allocate` and `allocateMore` do after `alloc`: `n` indices from `start` on are mapped and
the buffer count becomes `total`. A heap memory object takes its mappings back when one fails, a
stream memory object does not look. -/
def map (c : Config) (o start n total : Nat) (mapOk : Nat → Bool) (w : World) : Bool × World :=
  match c.kind with
  | .heap =>
    match (List.range' start n).find? fun i => !mapOk i with
    | some i =>
      (false, (List.range' start (i - start)).reverse.foldl (deallocOneBuffer o)
        (w.setMapped o start (i - start) fun _ => false))
    | none => (true, (w.setMapped o start n fun _ => true).setCount o total)
  | .stream => (true, (w.setMapped o start n mapOk).setCount o total)

/-- `allocate` of a heap or stream memory object. -/
def allocate (c : Config) (o count size : Nat) (ok mapOk : Nat → Bool) (w : World) : Bool × World :=
  let r := alloc heapId c o count size ok w
  if r.1 then map c o 0 count count mapOk r.2 else r

/-- `allocateMore` of a heap or stream memory object. -/
def allocateMore (c : Config) (o count size : Nat) (ok mapOk : Nat → Bool) (w : World) : Bool × World :=
  let r := alloc heapId c o count size ok w
  if r.1 then
    map c o (w.bufferCount o) count ((w.bufferCount o + count) % 256) mapOk r.2
  else r

/-- `deallocate`; a stream memory object with a mapping missing has no next state. -/
def deallocate (c : Config) (o : Nat) (w : World) : Option World :=
  if c.kind = .stream ∧ ¬∀ i < w.bufferCount o, w.mapped o i = true then none
  else
    some (((List.range (w.bufferCount o)).foldl (giveUp c o)
      (w.setMapped o 0 (w.bufferCount o) fun _ => false)).setCount o 0)

def streamTypes : List StreamType :=
  [.default, .preview, .postview, .snapshot, .video, .implDefined, .yuv, .metadata, .raw, .offlineProc]

def pooled (w : World) : List Nat := streamTypes.flatMap fun t => (w.pools t).filterMap MemInfo.ion

def clear (w : World) : World := { w with pools := fun _ => [], freed := pooled w ++ w.freed }

inductive Event
  | allocate (o count size : Nat) (ok mapOk : Nat → Bool)
  | allocateMore (o count size : Nat) (ok mapOk : Nat → Bool)
  | deallocate (o : Nat)
  | clear

def step (objs : List Config) (w : World) : Event → Option World
  | .allocate o count size ok mapOk =>
    objs[o]?.map fun c => (allocate heapId c o count size ok mapOk w).2
  | .allocateMore o count size ok mapOk =>
    objs[o]?.map fun c => (allocateMore heapId c o count size ok mapOk w).2
  | .deallocate o => objs[o]?.bind fun c => deallocate c o w
  | .clear => some (clear w)

end

end Wt88047.Memory
