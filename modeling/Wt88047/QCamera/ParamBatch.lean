import Wt88047.Lib.Bytes

/-! The buffer in which `QCameraParameters` collects the entries of one `set_parms` or `get_parms`
call, laid out as on a machine with 32-bit words. -/

namespace Wt88047.Params

open Bytes

abbrev oneMbOfParams : Nat := 1048576

/-- `sizeof(parm_entry_type_new_t)`, of which `data` begins at 12. -/
abbrev entrySize : Nat := 16

abbrev dataOffset : Nat := 12

/-- `sizeof(parm_buffer_new_t)`. -/
abbrev bufferSize : Nat := 16

/-- What `tot_rem_size` begins with. -/
abbrev capacity : Nat := oneMbOfParams - bufferSize

/-- `(x + 3U) & (~3U)`. -/
def align4 (x : Nat) : Nat := (x + 3) / 4 * 4

/-- `parm_buffer_new_t`; an offset counts from `entry[0]`. -/
structure ParmBuffer where
  numEntry : Nat := 0
  totRemSize : Nat := 0
  currSize : Nat := 0
  entry : Mem := fun _ => 0

namespace ParmBuffer

def getNextParam (b : ParmBuffer) (cur : Nat) : Nat := cur + readWord b.entry (cur + 8)

/-- The search of both functions, with `k` entries left from `cur` on. -/
def search (b : ParmBuffer) (paramType : Nat) : Nat → Nat → Option Nat
  | 0, _ => none
  | k + 1, cur =>
    if paramType = readWord b.entry cur then some cur
    else b.search paramType k (b.getNextParam cur)

def visits (b : ParmBuffer) : Nat → Nat → List Nat
  | 0, _ => []
  | k + 1, cur => cur :: b.visits k (b.getNextParam cur)

def walk (b : ParmBuffer) : List Nat := b.visits b.numEntry 0

/-- `POINTER_OF_PARAM`, which falls back on the first entry. -/
def pointerOfParam (b : ParmBuffer) (paramId : Nat) : Nat :=
  (b.search paramId b.numEntry 0).getD 0 + dataOffset

def initBatchUpdate : ParmBuffer := { totRemSize := capacity }

def append (b : ParmBuffer) (alignedSizeReq : Nat) : ParmBuffer × Nat :=
  ({ b with
    currSize := b.currSize + alignedSizeReq
    totRemSize := b.totRemSize - alignedSizeReq
    numEntry := b.numEntry + 1 }, b.currSize)

def setHeader (b : ParmBuffer) (cur paramType size alignedSize : Nat) : ParmBuffer :=
  { b with entry :=
      writeWord (writeWord (writeWord b.entry cur paramType) (cur + 4) size) (cur + 8) alignedSize }

def setData (b : ParmBuffer) (cur : Nat) (value : List UInt8) : ParmBuffer :=
  { b with entry := write b.entry (cur + dataOffset) value }

end ParmBuffer

abbrev Sent := Nat × List UInt8

structure Batch where
  buf : ParmBuffer := .initBatchUpdate
  sent : List Sent := []

namespace Batch

def contents (b : ParmBuffer) : List Sent :=
  b.walk.map fun cur => (readWord b.entry cur, read b.entry (cur + dataOffset)
    (readWord b.entry (cur + 4)))

/-- `commitSetBatch`; `setParms` is whether `set_parms` returns 0. -/
def commitSetBatch (b : Batch) (setParms : Bool) : Batch × Bool :=
  if 0 < b.buf.numEntry then
    if setParms then ({ b with sent := b.sent ++ contents b.buf }, true) else (b, false)
  else (b, true)

/-- `AddSetParmEntryToBatch`, which returns `NO_ERROR` on every path. -/
def addSetParmEntryToBatch (b : Batch) (paramType : Nat) (paramValue : List UInt8)
    (setParms : Bool) : Batch :=
  let alignedSizeReq := align4 (paramValue.length + entrySize)
  let fill (b : Batch) (cur : Nat) : Batch :=
    { b with buf :=
        (b.buf.setHeader cur paramType paramValue.length alignedSizeReq).setData cur paramValue }
  match b.buf.search paramType b.buf.numEntry 0 with
  | some cur => fill b cur
  | none =>
    let b := if b.buf.totRemSize < alignedSizeReq then
        { (b.commitSetBatch setParms).1 with buf := .initBatchUpdate }
      else b
    let r := b.buf.append alignedSizeReq
    fill { b with buf := r.1 } r.2

/-- `AddGetParmEntryToBatch`, with `sizeof(parm_type_t)`; the result is whether there was room. -/
def addGetParmEntryToBatch (parmTypeSize : Nat) (b : Batch) (paramType : Nat) : Batch × Bool :=
  let alignedSizeReq := align4 (parmTypeSize + entrySize - 1)
  match b.buf.search paramType b.buf.numEntry 0 with
  | some cur => ({ b with buf := b.buf.setHeader cur paramType parmTypeSize alignedSizeReq }, true)
  | none =>
    if b.buf.totRemSize < alignedSizeReq then (b, false)
    else
      let r := b.buf.append alignedSizeReq
      ({ b with buf := r.1.setHeader r.2 paramType parmTypeSize alignedSizeReq }, true)

end Batch

inductive BatchEvent where
  | init
  | addSet (paramType : Nat) (paramValue : List UInt8) (setParms : Bool)
  | addGet (paramType : Nat)

end Wt88047.Params
