import Mathlib.Logic.Function.Basic
import Wt88047.Lib.Runs

/-! The preview buffers that a memory object takes from the native window, with the ION descriptors it
opens for them, and what becomes of them in the window. -/

namespace Wt88047.Gralloc

/-- `MM_CAMERA_MAX_NUM_FRAMES`, the length of the arrays. -/
abbrev maxNumFrames : Nat := 24

/-- The memory object: `mBufferHandle` with the window's buffers, `mLocalFlag`, the `main_ion_fd` of
`mMemInfo` and whether `mCameraMemory` is set. The last fields are a record of what happened, which the
code does not read: the buffers that were ever dequeued, how often each went back to the window since
its last dequeue, the open ION descriptors, and whether an index at or beyond the buffer count was used. -/
structure World where
  window : Bool := true
  minUndequeuedBuffers : Int := 0
  bufferCount : Nat := 0
  bufferHandle : Nat → Option Nat := fun _ => none
  owned : Nat → Bool := fun _ => false
  mainIonFd : Nat → Option Nat := fun _ => none
  cameraMemory : Nat → Bool := fun _ => false
  dequeued : Nat → Bool := fun _ => false
  returned : Nat → Nat := fun _ => 0
  ionOpen : List Nat := []
  nextFd : Nat := 0
  beyond : Bool := false

namespace World

def dequeue (w : World) (b : Nat) : World :=
  { w with dequeued := Function.update w.dequeued b true, returned := Function.update w.returned b 0 }

/-- `enqueue_buffer` and `cancel_buffer`; the window takes the buffer unless it fails. -/
def giveBack (w : World) (i : Nat) (ok : Bool) : World :=
  match w.bufferHandle i with
  | some b => if ok then { w with returned := Function.update w.returned b (w.returned b + 1) } else w
  | none => w

def setOwned (w : World) (i : Nat) (flag : Bool) : World :=
  { w with owned := Function.update w.owned i flag }

/-- `close(mMemInfo[i].main_ion_fd)`, which also frees the handle imported with it. -/
def closeIon (w : World) (i : Nat) : World :=
  { w with ionOpen := w.ionOpen.filter fun fd => w.mainIonFd i ≠ some fd }

def clearMemInfo (w : World) : World := { w with mainIonFd := fun _ => none }

end World

/-- What happens to one buffer in the loop of `allocate`: the buffer that is dequeued, if any, and
whether the ION device opens, the buffer is imported and the camera memory is obtained. -/
structure Attempt where
  buffer : Option Nat
  ion : Bool := true
  imported : Bool := true
  memory : Bool := true

structure Setup where
  minUndequeued : Option Int
  configured : Bool := true

def rollBack (closing : Bool) (cancels : Nat → Bool) (w : World) (i : Nat) : World :=
  let w := if closing then w.closeIon i else w
  let w := if w.owned i then w.giveBack i (cancels i) else w
  { w.setOwned i false with bufferHandle := Function.update w.bufferHandle i none }

def rollBackAll (closing : Bool) (cancels : Nat → Bool) (cnt : Nat) (w : World) : World :=
  (List.range cnt).foldl (rollBack closing cancels) w

/-- The loop of `allocate`: `n` buffers are still to come and `cnt` is the next. -/
def allocLoop (attempts : Nat → Attempt) (cancels : Nat → Bool) : Nat → Nat → World → Option (World × Bool)
  | 0, _, w => some (w, true)
  | n + 1, cnt, w =>
    if maxNumFrames ≤ cnt then none
    else match (attempts cnt).buffer with
    | none => some ((rollBackAll false cancels cnt (w.setOwned cnt false)).clearMemInfo, false)
    | some b =>
      let w := { (w.dequeue b).setOwned cnt true with
        bufferHandle := Function.update w.bufferHandle cnt (some b) }
      if !(attempts cnt).ion then some ((rollBackAll true cancels cnt w).clearMemInfo, false)
      else
        let w := { w with
          mainIonFd := Function.update w.mainIonFd cnt (some w.nextFd)
          ionOpen := w.nextFd :: w.ionOpen
          nextFd := w.nextFd + 1 }
        if !(attempts cnt).imported then
          some (((rollBackAll true cancels cnt w).closeIon cnt).clearMemInfo, false)
        else allocLoop attempts cancels n (cnt + 1)
          { w with cameraMemory := Function.update w.cameraMemory cnt (attempts cnt).memory }

def cancelMin (cancels : Nat → Bool) : Nat → Nat → World → Option World
  | 0, _, w => some w
  | n + 1, i, w =>
    if maxNumFrames ≤ i then none
    else cancelMin cancels n (i + 1)
      { (w.giveBack i (cancels i)).setOwned i false with beyond := w.beyond || decide (w.bufferCount ≤ i) }

/-- `allocate` and whether it returns `NO_ERROR`. -/
def allocate (count : Nat) (setup : Setup) (attempts : Nat → Attempt) (cancels : Nat → Bool) (w : World) :
    Option (World × Bool) :=
  if !w.window then some (w, false)
  else match setup.minUndequeued with
  | none => some (w, false)
  | some k =>
    let w := { w with minUndequeuedBuffers := k }
    if !setup.configured then some (w, false)
    else match allocLoop attempts cancels count 0 w with
    | none => none
    | some (w, false) => some (w, false)
    | some (w, true) =>
      (cancelMin cancels k.toNat 0 { w with bufferCount := count }).map fun w => (w, true)

/-- `displayBuffer`, given whether the window takes the buffer and which one it gives back. -/
def displayBuffer (index : Nat) (enqueued : Bool) (dequeued : Option Nat) (w : World) : Option World :=
  if maxNumFrames ≤ index then none
  else
    let w := { w with beyond := w.beyond || decide (w.bufferCount ≤ index) }
    if !w.owned index then some w
    else if !w.window then none
    else
      let w := if enqueued then (w.giveBack index true).setOwned index false else w
      match dequeued with
      | none => some w
      | some b =>
        let w := w.dequeue b
        match (List.range w.bufferCount).find? fun i => w.bufferHandle i = some b with
        | some i => some (w.setOwned i true)
        | none => some w

/-- The loop of `deallocate`; a buffer without camera memory makes it follow a NULL pointer. -/
def deallocLoop (cancels : Nat → Bool) : Nat → Nat → World → Option World
  | 0, _, w => some w
  | n + 1, cnt, w =>
    if !w.cameraMemory cnt then none
    else
      let w := w.closeIon cnt
      let w := if w.owned cnt && w.window then w.giveBack cnt (cancels cnt) else w
      deallocLoop cancels n (cnt + 1) (w.setOwned cnt false)

def deallocate (cancels : Nat → Bool) (w : World) : Option World :=
  (deallocLoop cancels w.bufferCount 0 w).map fun w => { w with bufferCount := 0 }

inductive Event where
  | allocate (count : Nat) (setup : Setup) (attempts : Nat → Attempt) (cancels : Nat → Bool)
  | displayBuffer (index : Nat) (enqueued : Bool) (dequeued : Option Nat)
  | deallocate (cancels : Nat → Bool)

def step (w : World) : Event → Option World
  | .allocate count setup attempts cancels => (allocate count setup attempts cancels w).map Prod.fst
  | .displayBuffer index enqueued dequeued => displayBuffer index enqueued dequeued w
  | .deallocate cancels => deallocate cancels w

def World.Holds (w : World) (b : Nat) : Prop := ∃ i, w.owned i = true ∧ w.bufferHandle i = some b

def World.Settled (w : World) : Prop :=
  ∀ b, w.dequeued b = true → (w.Holds b ∧ w.returned b = 0) ∨ (¬w.Holds b ∧ w.returned b = 1)

def World.Empty (w : World) : Prop := (∀ i, w.owned i = false) ∧ w.ionOpen = []

structure Kept (w : World) (e : Event) (w' : World) : Prop where
  settled : w'.Settled
  empty : ∀ count setup attempts cancels, e = .allocate count setup attempts cancels →
    allocate count setup attempts cancels w = some (w', false) → w'.Empty
  within : w'.beyond = false

/-- The window does not give out a buffer again that it has not got back. -/
def Event.Faithful : Event → Prop
  | .allocate count _ attempts _ =>
    ∀ i < count, ∀ j < i, ∀ b ∈ (attempts i).buffer, b ∉ (attempts j).buffer
  | _ => True

/-- The steps on which the code does what it should: an `allocate` of an object without buffers fails
at most before the first buffer is there, and otherwise gets all of them, no fewer than the window's
minimum, and cancels that many; a buffer that comes back from the display is one of them; and those
that are owned can be cancelled at the end. -/
def Event.Meets (w : World) : Event → Prop
  | .allocate count setup attempts cancels => w.bufferCount = 0 ∧
    (w.window = true → ∀ k ∈ setup.minUndequeued, setup.configured = true →
      (0 < count ∧ (attempts 0).buffer = none) ∨
        (count ≤ maxNumFrames ∧ k ≤ count ∧ (∀ i : Nat, i < k → cancels i = true) ∧
          ∀ i < count, (attempts i).buffer ≠ none ∧ (attempts i).ion = true ∧
            (attempts i).imported = true ∧ (attempts i).memory = true))
  | .displayBuffer index _ dequeued => index < w.bufferCount ∧
    (w.owned index = true → ∀ b ∈ dequeued, ∃ i < w.bufferCount, w.bufferHandle i = some b)
  | .deallocate cancels => ∀ i < w.bufferCount, w.owned i = true → cancels i = true

end Wt88047.Gralloc
