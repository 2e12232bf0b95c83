import Wt88047.Lib.PriorityQueue

/-! The heap of the location utilities: it is ordered from parent to child only, and balanced by
pushing into the smaller subtree. -/

namespace Wt88047.Loc

class LocRankable (α : Type) where
  ranks : α → α → Int

open LocRankable

inductive LocHeapNode (α : Type)
  | null
  | node (mSize : Int) (mLeft : LocHeapNode α) (mData : α) (mRight : LocHeapNode α)
  deriving DecidableEq

variable {α : Type} [LocRankable α]

def outRanks (a b : α) : Bool := ranks a b > 0

namespace LocHeapNode

omit [LocRankable α] in
def mSize : LocHeapNode α → Int
  | null => 0
  | node size .. => size

omit [LocRankable α] in
def mData : LocHeapNode α → Option α
  | null => none
  | node _ _ data _ => some data

omit [LocRankable α] in
def make (data : α) : LocHeapNode α := node 1 null data null

/-- Into a missing subtree, too. A higher ranking `data` changes places with the one it meets. -/
def push (data : α) : LocHeapNode α → LocHeapNode α
  | null => make data
  | node size left top right =>
    let high := if outRanks data top then data else top
    let low := if outRanks data top then top else data
    match left, right with
    | null, right => node (size + 1) (make low) high right
    | left, null => node (size + 1) left high (make low)
    | left, right =>
      if left.mSize ≤ right.mSize then node (size + 1) (push low left) high right
      else node (size + 1) left high (push low right)

def subTop : LocHeapNode α → LocHeapNode α → Option (Bool × α)
  | null, null => none
  | null, node _ _ b _ => some (false, b)
  | node _ _ a _, null => some (true, a)
  | node _ _ a _, node _ _ b _ => if outRanks a b then some (true, a) else some (false, b)

/-- The recursion of `pop`, where `data` is what the swaps have put on top. -/
def popNode (data : α) : LocHeapNode α → α × LocHeapNode α
  | null => (data, null)
  | node size left _ right =>
    match subTop left right with
    | some (true, top) =>
      let popped := popNode data left
      (popped.1, node (size - 1) popped.2 top right)
    | some (false, top) =>
      let popped := popNode data right
      (popped.1, node (size - 1) left top popped.2)
    | none => (data, null)

def pop : LocHeapNode α → Option α × LocHeapNode α
  | null => (none, null)
  | node size left top right =>
    let popped := popNode top (node size left top right)
    (some popped.1, popped.2)

/-- A missing subtree is not searched, and the right one only when the left one failed. -/
def remove [DecidableEq α] (data : α) : LocHeapNode α → Option α × LocHeapNode α
  | null => (none, null)
  | node size left top right =>
    if data = top then pop (node size left top right)
    else if !outRanks data top then
      let fromLeft := remove data left
      let fromRight := if fromLeft.1.isNone then remove data right else (none, right)
      let removed := fromLeft.1.or fromRight.1
      (removed, node (if removed.isSome then size - 1 else size) fromLeft.2 top fromRight.2)
    else (none, node size left top right)

def checkNodes : LocHeapNode α → Bool
  | null => true
  | node size left top right =>
    (left.mData.all fun a => !outRanks a top) && checkNodes left &&
      (right.mData.all fun b => !outRanks b top) && checkNodes right &&
      size - left.mSize - right.mSize == 1

end LocHeapNode

structure LocHeap (α : Type) where
  mTree : LocHeapNode α
  deriving DecidableEq

namespace LocHeap

def empty : LocHeap α := ⟨.null⟩

def push (data : α) (heap : LocHeap α) : LocHeap α := ⟨heap.mTree.push data⟩

def peek (heap : LocHeap α) : Option α := heap.mTree.mData

def pop (heap : LocHeap α) : Option α × LocHeap α :=
  (heap.mTree.pop.1, ⟨heap.mTree.pop.2⟩)

def remove [DecidableEq α] (data : α) (heap : LocHeap α) : Option α × LocHeap α :=
  ((heap.mTree.remove data).1, ⟨(heap.mTree.remove data).2⟩)

def checkTree (heap : LocHeap α) : Bool := heap.mTree.checkNodes

def getTreeSize (heap : LocHeap α) : Int := heap.mTree.mSize

end LocHeap

end Wt88047.Loc
