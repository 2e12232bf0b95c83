import Mathlib.Data.List.Basic
import Mathlib.Logic.Function.Basic

/-! The adapters of a location API, in an array that is kept without holes. -/

namespace Wt88047.LocApiBase

abbrev maxAdapters : Nat := 10

variable {α : Type} [DecidableEq α]

/-- `mLocAdapters`; none is NULL. -/
abbrev Adapters (α : Type) := Nat → Option α

inductive Event
  | locOpenMsg (mask : UInt32)
  | close
  deriving DecidableEq

/-- The adapters before the first NULL, from index `i` on: where they end. -/
def endFrom (adapters : Adapters α) : Nat → Nat → Nat
  | 0, i => i
  | rounds + 1, i => if i < maxAdapters ∧ adapters i ≠ none then endFrom adapters rounds (i + 1) else i

section

variable (evtMask : α → UInt32) (excludedMask : UInt32)

def getEvtMask (adapters : Adapters α) : UInt32 :=
  (List.range (endFrom adapters maxAdapters 0)).foldl
    (fun mask i => mask ||| ((adapters i).map evtMask).getD 0) 0 &&& ~~~excludedMask

/-- The loop of `addAdapter`. The index grows in each round, so `maxAdapters` of them are enough. -/
def addFrom (adapter : α) : Nat → Nat → Adapters α → Adapters α × List Event
  | 0, _, adapters => (adapters, [])
  | rounds + 1, i, adapters =>
    if i < maxAdapters ∧ adapters i ≠ some adapter then
      if adapters i = none then
        (Function.update adapters i (some adapter), [.locOpenMsg (evtMask adapter)])
      else addFrom adapter rounds (i + 1) adapters
    else (adapters, [])

def addAdapter (adapter : α) (adapters : Adapters α) : Adapters α × List Event :=
  addFrom evtMask adapter maxAdapters 0 adapters

/-- The loop of `removeAdapter`. It goes on behind the entry that it moved. -/
def removeFrom (adapter : α) : Nat → Nat → Adapters α → Adapters α × List Event
  | 0, _, adapters => (adapters, [])
  | rounds + 1, i, adapters =>
    if i < maxAdapters ∧ adapters i ≠ none then
      if adapters i = some adapter then
        let adapters := Function.update adapters i none
        let last := endFrom adapters maxAdapters (i + 1) - 1
        let adapters := Function.update adapters i (adapters last)
        let adapters := Function.update adapters last none
        let event : Event :=
          if last = 0 then .close else .locOpenMsg (getEvtMask evtMask excludedMask adapters)
        let q := removeFrom adapter rounds (last + 1) adapters
        (q.1, event :: q.2)
      else removeFrom adapter rounds (i + 1) adapters
    else (adapters, [])

def removeAdapter (adapter : α) (adapters : Adapters α) : Adapters α × List Event :=
  removeFrom evtMask excludedMask adapter maxAdapters 0 adapters

inductive Call (α : Type)
  | addAdapter (adapter : α)
  | removeAdapter (adapter : α)

def step (adapters : Adapters α) : Call α → Adapters α × List Event
  | .addAdapter adapter => addAdapter evtMask adapter adapters
  | .removeAdapter adapter => removeAdapter evtMask excludedMask adapter adapters

def run (calls : List (Call α)) : Adapters α :=
  calls.foldl (fun adapters call => (step evtMask excludedMask adapters call).1) fun _ => none

end

end Wt88047.LocApiBase
