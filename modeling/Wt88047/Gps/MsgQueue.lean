import Wt88047.Lib.LinkedRing
import Wt88047.Lib.Runs

/-! The linked list of the GPS utilities, in the memory that its elements are allocated in, and the message queue made
of it. -/

namespace Wt88047.MsgQueue

open LinkedRing

abbrev Addr := Nat

inductive LinkedListErr
  | success
  | failureGeneral
  | invalidParameter
  | invalidHandle
  | unavailableResource
  | insufficientBuffer
  deriving DecidableEq

/-- `list_state` with the elements that are allocated, and what is in them; of the function that frees data only
whether there is one. -/
structure ListState (α : Type) where
  pHead : Option Addr
  pTail : Option Addr
  live : List Addr
  next : Addr → Option Addr
  prev : Addr → Option Addr
  dataPtr : Addr → α
  deallocFunc : Addr → Bool

variable {α : Type}

namespace ListState

def readNext (s : ListState α) (p : Addr) : Option (Option Addr) := if p ∈ s.live then some (s.next p) else none

def readPrev (s : ListState α) (p : Addr) : Option (Option Addr) := if p ∈ s.live then some (s.prev p) else none

def readData (s : ListState α) (p : Addr) : Option α := if p ∈ s.live then some (s.dataPtr p) else none

def readDealloc (s : ListState α) (p : Addr) : Option Bool := if p ∈ s.live then some (s.deallocFunc p) else none

def setNext (s : ListState α) (p : Addr) (v : Option Addr) : ListState α :=
  { s with next := fun n => if n = p then v else s.next n }

def setPrev (s : ListState α) (p : Addr) (v : Option Addr) : ListState α :=
  { s with prev := fun n => if n = p then v else s.prev n }

def writeNext (s : ListState α) (p : Addr) (v : Option Addr) : Option (ListState α) :=
  if p ∈ s.live then some (s.setNext p v) else none

def writePrev (s : ListState α) (p : Addr) (v : Option Addr) : Option (ListState α) :=
  if p ∈ s.live then some (s.setPrev p v) else none

def alloc (s : ListState α) (p : Addr) (data : α) (dealloc : Bool) : ListState α :=
  { s with
    live := p :: s.live
    next := fun n => if n = p then none else s.next n
    prev := fun n => if n = p then none else s.prev n
    dataPtr := fun n => if n = p then data else s.dataPtr n
    deallocFunc := fun n => if n = p then dealloc else s.deallocFunc n }

def free (s : ListState α) (p : Addr) : Option (ListState α) :=
  if p ∈ s.live then some { s with live := s.live.erase p } else none

end ListState

/-- `mem` is what `malloc` gives. -/
def linkedListAdd (s : ListState α) (dataObj : Option α) (dealloc : Bool) (mem : Option Addr) :
    Option (ListState α × LinkedListErr) :=
  match dataObj with
  | none => some (s, .invalidParameter)
  | some data =>
    match mem with
    | none => some (s, .failureGeneral)
    | some elem => do
      let s := s.alloc elem data dealloc
      let tmp := s.pHead
      let s := { s with pHead := some elem }
      let s ← s.writeNext elem tmp
      let s ← match tmp with
        | some tmp => s.writePrev tmp s.pHead
        | none => some { s with pTail := s.pHead }
      some (s, .success)

/-- `wanted` is whether there is a place for the data. -/
def linkedListRemove (s : ListState α) (wanted : Bool) : Option (ListState α × LinkedListErr × Option α) :=
  if !wanted then some (s, .invalidParameter, none)
  else
    match s.pTail with
    | none => some (s, .unavailableResource, none)
    | some tmp => do
      let prev ← s.readPrev tmp
      let s := { s with pTail := prev }
      let s ← match prev with
        | some tail => s.writeNext tail none
        | none => some { s with pHead := s.pTail }
      let data ← s.readData tmp
      let s ← s.free tmp
      some (s, .success, some data)

def relinkNext (s : ListState α) (prev next : Option Addr) : Option (ListState α) :=
  match prev with
  | none => some { s with pHead := next }
  | some prev => s.writeNext prev next

def relinkPrev (s : ListState α) (prev next : Option Addr) : Option (ListState α) :=
  match next with
  | none => some { s with pTail := prev }
  | some next => s.writePrev next prev

def unlinkElement (s : ListState α) (tmp : Addr) : Option (ListState α) := do
  let s ← relinkNext s (← s.readPrev tmp) (← s.readNext tmp)
  let s ← relinkPrev s (← s.readPrev tmp) (← s.readNext tmp)
  let s ← s.writeNext tmp none
  s.writePrev tmp none

/-- The loop, for so many passes. `wanted` is whether the caller wants the data, which is freed otherwise; the last
component is what is freed. -/
def searchFrom (equal : α → Bool) (wanted rmIfFound : Bool) :
    Nat → Option Addr → ListState α → Option (ListState α × Option α × List α)
  | 0, _, _ => none
  | _ + 1, none, s => some (s, none, [])
  | n + 1, some tmp, s => do
    let data ← s.readData tmp
    if equal data then
      if rmIfFound then do
        let s ← unlinkElement s tmp
        let dealloc ← s.readDealloc tmp
        let s ← s.free tmp
        some (s, if wanted then some data else none, if !wanted && dealloc then [data] else [])
      else some (s, if wanted then some data else none, [])
    else do
      let next ← s.readNext tmp
      searchFrom equal wanted rmIfFound n next s

def linkedListSearch (s : ListState α) (equal : Option (α → Bool)) (wanted rmIfFound : Bool) :
    Option (ListState α × LinkedListErr × Option α × List α) :=
  match equal with
  | none => some (s, .invalidHandle, none, [])
  | some equal =>
    match s.pTail with
    | none => some (s, .unavailableResource, none, [])
    | some _ => (searchFrom equal wanted rmIfFound (s.live.length + 1) s.pHead s).map fun r => (r.1, .success, r.2)

def flushFrom : Nat → ListState α → List α → Option (ListState α × List α)
  | 0, _, _ => none
  | n + 1, s, freed =>
    match s.pHead with
    | none => some ({ s with pTail := none }, freed)
    | some elem => do
      let tmp ← s.readNext elem
      let dealloc ← s.readDealloc elem
      let data ← s.readData elem
      let s ← s.free elem
      flushFrom n { s with pHead := tmp } (freed ++ if dealloc then [data] else [])

def linkedListFlush (s : ListState α) : Option (ListState α × List α) := flushFrom (s.live.length + 1) s []

def linkedListEmpty (s : ListState α) : Bool := s.pHead.isNone

/-- The list when there is nothing in it; `data` is what memory holds that was not given out. -/
def linkedListInit (data : α) : ListState α :=
  ⟨none, none, [], fun _ => none, fun _ => none, fun _ => data, fun _ => false⟩

inductive ListEvent (α : Type)
  | add (dataObj : Option α) (dealloc : Bool) (mem : Option Addr)
  | remove (wanted : Bool)
  | search (equal : Option (α → Bool)) (wanted rmIfFound : Bool)
  | flush

structure Answer (α : Type) where
  rv : LinkedListErr
  data : Option α
  freed : List α
  deriving DecidableEq

def serveList (s : ListState α) : ListEvent α → Option (ListState α × Answer α)
  | .add dataObj dealloc mem => (linkedListAdd s dataObj dealloc mem).map fun r => (r.1, ⟨r.2, none, []⟩)
  | .remove wanted => (linkedListRemove s wanted).map fun r => (r.1, ⟨r.2.1, r.2.2, []⟩)
  | .search equal wanted rmIfFound =>
    (linkedListSearch s equal wanted rmIfFound).map fun r => (r.1, ⟨r.2.1, r.2.2.1, r.2.2.2⟩)
  | .flush => (linkedListFlush s).map fun r => (r.1, ⟨.success, none, r.2⟩)

abbrev Item (α : Type) := α × Bool

def searched (equal : α → Bool) (wanted rmIfFound : Bool) (xs : List (Item α)) :
    List (Item α) × Option α × List α :=
  let found := xs.find? fun x => equal x.1
  (if rmIfFound then xs.eraseP fun x => equal x.1 else xs, if wanted then found.map (·.1) else none,
    if rmIfFound && !wanted then (found.toList.filter (·.2)).map (·.1) else [])

def applyList (xs : List (Item α)) : ListEvent α → List (Item α) × Answer α
  | .add none _ _ => (xs, ⟨.invalidParameter, none, []⟩)
  | .add (some _) _ none => (xs, ⟨.failureGeneral, none, []⟩)
  | .add (some data) dealloc (some _) => ((data, dealloc) :: xs, ⟨.success, none, []⟩)
  | .remove false => (xs, ⟨.invalidParameter, none, []⟩)
  | .remove true =>
    match xs.getLast? with
    | none => (xs, ⟨.unavailableResource, none, []⟩)
    | some x => (xs.dropLast, ⟨.success, some x.1, []⟩)
  | .search none _ _ => (xs, ⟨.invalidHandle, none, []⟩)
  | .search (some equal) wanted rmIfFound =>
    if xs = [] then (xs, ⟨.unavailableResource, none, []⟩)
    else
      let r := searched equal wanted rmIfFound xs
      (r.1, ⟨.success, r.2.1, r.2.2⟩)
  | .flush => ([], ⟨.success, none, (xs.filter (·.2)).map (·.1)⟩)

def ListState.ring (s : ListState α) : Links (Option Addr) where
  next := fun n => n.elim s.pHead s.next
  prev := fun n => n.elim s.pTail s.prev

def ListState.setNextAt (s : ListState α) : Option Addr → Option Addr → ListState α
  | none, v => { s with pHead := v }
  | some p, v => s.setNext p v

def ListState.setPrevAt (s : ListState α) : Option Addr → Option Addr → ListState α
  | none, v => { s with pTail := v }
  | some p, v => s.setPrev p v

structure Holds (s : ListState α) (nodes : List Addr) : Prop where
  ring : Around s.ring none (nodes.map some)
  live : ∀ n ∈ nodes, n ∈ s.live
  nodup : s.live.Nodup

def ListState.item (s : ListState α) (p : Addr) : Item α := (s.dataPtr p, s.deallocFunc p)

def Represents (s : ListState α) (xs : List (Item α)) : Prop := ∃ nodes, Holds s nodes ∧ nodes.map s.item = xs

namespace ListState

@[simp] theorem setNextAt_live (s : ListState α) (q v : Option Addr) : (s.setNextAt q v).live = s.live := by
  cases q <;> rfl

@[simp] theorem setPrevAt_live (s : ListState α) (q v : Option Addr) : (s.setPrevAt q v).live = s.live := by
  cases q <;> rfl

@[simp] theorem setNextAt_item (s : ListState α) (q v : Option Addr) : (s.setNextAt q v).item = s.item := by
  cases q <;> rfl

@[simp] theorem setPrevAt_item (s : ListState α) (q v : Option Addr) : (s.setPrevAt q v).item = s.item := by
  cases q <;> rfl

@[simp] theorem setNextAt_ring (s : ListState α) (q v : Option Addr) : (s.setNextAt q v).ring = s.ring.setNext q v := by
  rw [ring, ring, Links.setNext, Links.mk.injEq]
  refine ⟨funext fun n => ?_, ?_⟩
  · cases q <;> cases n <;> simp [setNextAt, setNext]
  · cases q <;> rfl

@[simp] theorem setPrevAt_ring (s : ListState α) (q v : Option Addr) : (s.setPrevAt q v).ring = s.ring.setPrev q v := by
  rw [ring, ring, Links.setPrev, Links.mk.injEq]
  refine ⟨?_, funext fun n => ?_⟩
  · cases q <;> rfl
  · cases q <;> cases n <;> simp [setPrevAt, setPrev]

theorem relinkNext_eq {s : ListState α} {prev next : Option Addr} (h : ∀ p, prev = some p → p ∈ s.live) :
    relinkNext s prev next = some (s.setNextAt prev next) := by
  cases prev with
  | none => rfl
  | some p => exact if_pos (h p rfl)

theorem relinkPrev_eq {s : ListState α} {prev next : Option Addr} (h : ∀ p, next = some p → p ∈ s.live) :
    relinkPrev s prev next = some (s.setPrevAt next prev) := by
  cases next with
  | none => rfl
  | some p => exact if_pos (h p rfl)

end ListState

namespace Holds

variable {s : ListState α} {nodes xs ys : List Addr} {p : Addr}

theorem pHead_eq (h : Holds s nodes) : s.pHead = nodes.head? := by
  have hfirst : s.pHead = (nodes.map some).headD none := h.ring.next_head
  cases nodes <;> exact hfirst

theorem pTail_eq (h : Holds s nodes) : s.pTail = nodes.getLast? := by
  have hlast : s.pTail = (nodes.map some).getLastD none := h.ring.prev_head
  rw [hlast, List.getLastD_eq_getLast?, List.getLast?_map]
  cases nodes.getLast? <;> rfl

theorem next_eq (h : Holds s (xs ++ p :: ys)) : s.next p = ys.head? := by
  have hring := h.ring
  rw [List.map_append, List.map_cons] at hring
  have hnext : s.next p = (ys.map some).headD none := hring.next_mem
  cases ys <;> exact hnext

theorem prev_eq (h : Holds s (xs ++ p :: ys)) : s.prev p = xs.getLast? := by
  have hring := h.ring
  rw [List.map_append, List.map_cons] at hring
  have hprev : s.prev p = (xs.map some).getLastD none := hring.prev_mem
  rw [hprev, List.getLastD_eq_getLast?, List.getLast?_map]
  cases xs.getLast? <;> rfl

theorem nodup_nodes (h : Holds s nodes) : nodes.Nodup :=
  (List.nodup_cons.mp h.ring.nodup).2.of_map some

theorem length_le (h : Holds s nodes) : nodes.length ≤ s.live.length :=
  List.Nodup.length_le_of_subset h.nodup_nodes h.live

theorem live_mem (h : Holds s (xs ++ p :: ys)) : p ∈ s.live := h.live p (List.mem_append_right xs List.mem_cons_self)

theorem ne_of_neighbour (h : Holds s (xs ++ p :: ys)) {n : Addr} (hn : n ∈ xs ∨ n ∈ ys) : n ≠ p := by
  have hnd := h.nodup_nodes
  rw [List.nodup_append] at hnd
  rcases hn with hn | hn
  · exact hnd.2.2 n hn p List.mem_cons_self
  · exact fun heq => (List.nodup_cons.mp hnd.2.1).1 (heq ▸ hn)

theorem freed (h : Holds s (xs ++ p :: ys)) {s' : ListState α} (hlive : s'.live = s.live)
    (hring : Around s'.ring none ((xs ++ ys).map some)) :
    s'.free p = some { s' with live := s.live.erase p } ∧ Holds { s' with live := s.live.erase p } (xs ++ ys) := by
  refine ⟨(if_pos (hlive ▸ h.live_mem)).trans (by rw [hlive]), hring, fun n hn => ?_, h.nodup.erase p⟩
  rw [h.nodup.mem_erase_iff]
  refine ⟨h.ne_of_neighbour (List.mem_append.mp hn), h.live n ?_⟩
  rcases List.mem_append.mp hn with hn | hn
  · exact List.mem_append_left _ hn
  · exact List.mem_append_right _ (List.mem_cons_of_mem p hn)

theorem cut_last (h : Holds s (xs ++ [p])) {tail : Addr} (hprev : s.prev p = some tail) :
    Around ({ s with pTail := some tail }.setNext tail none).ring none ((xs ++ []).map some) := by
  have hring := h.ring
  have hnext : s.next p = none := h.next_eq
  rw [List.map_append] at hring ⊢
  refine hring.unlink (fun n hn => ?_) fun n hn => ?_
  · rcases n with _ | n
    · simp [ListState.ring, ListState.setNext, hprev]
    · simp [ListState.ring, ListState.setNext, hprev, hnext]
  · cases n <;> simp [ListState.ring, ListState.setNext, hprev, hnext]

end Holds

section Calls

variable {s : ListState α} {xs : List (Item α)}

theorem represents_push (h : Represents s xs) {s' : ListState α} (data : α) (dealloc : Bool) {elem : Addr}
    (hfresh : elem ∉ s.live) (hlive : s'.live = elem :: s.live) (hitem : s'.item = (s.alloc elem data dealloc).item)
    (hnext : ∀ n, s'.ring.next n = if n = some elem then s.pHead else if n = none then some elem else s.ring.next n)
    (hprev : ∀ n, s'.ring.prev n = if n = some elem then none else if n = s.pHead then some elem else s.ring.prev n) :
    Represents s' ((data, dealloc) :: xs) := by
  obtain ⟨nodes, hholds, rfl⟩ := h
  have hnot : elem ∉ nodes := fun hmem => hfresh (hholds.live elem hmem)
  have hsame : nodes.map s'.item = nodes.map s.item := by
    refine List.map_congr_left fun n hn => ?_
    have hne : n ≠ elem := fun heq => hnot (heq ▸ hn)
    rw [hitem]
    simp [ListState.item, ListState.alloc, hne]
  refine ⟨elem :: nodes, ⟨hholds.ring.push (by simpa using hnot) (fun n _ => hnext n) (fun n _ => hprev n), ?_, ?_⟩, ?_⟩
  · intro n hn
    rw [hlive]
    exact (List.mem_cons.mp hn).elim (fun heq => heq ▸ List.mem_cons_self)
      fun hmem => List.mem_cons_of_mem elem (hholds.live n hmem)
  · rw [hlive, List.nodup_cons]
    exact ⟨hfresh, hholds.nodup⟩
  · rw [List.map_cons, hsame, hitem]
    simp [ListState.item, ListState.alloc]

theorem linkedListAdd_eq (h : Represents s xs) (data : α) (dealloc : Bool) {elem : Addr} (hfresh : elem ∉ s.live) :
    ∃ s', linkedListAdd s (some data) dealloc (some elem) = some (s', .success) ∧
      Represents s' ((data, dealloc) :: xs) := by
  obtain ⟨nodes, hholds, -⟩ := id h
  have hhead := hholds.pHead_eq
  cases nodes with
  | nil =>
    have hnone : s.pHead = none := hhead
    refine ⟨{ { s.alloc elem data dealloc with pHead := some elem }.setNext elem none with pTail := some elem }, ?_,
      represents_push h data dealloc hfresh rfl rfl (fun n => ?_) fun n => ?_⟩
    · simp [linkedListAdd, ListState.writeNext, ListState.alloc, ListState.setNext, hnone]
    · rcases n with _ | n
      · simp [ListState.ring, ListState.setNext]
      · by_cases hn : n = elem <;> simp [ListState.ring, ListState.alloc, ListState.setNext, hnone, hn]
    · cases n <;> simp [ListState.ring, ListState.alloc, ListState.setNext, hnone]
  | cons tmp nodes =>
    have hsome : s.pHead = some tmp := hhead
    have hmem := hholds.live tmp List.mem_cons_self
    have hne : tmp ≠ elem := fun heq => hfresh (heq ▸ hmem)
    refine ⟨({ s.alloc elem data dealloc with pHead := some elem }.setNext elem (some tmp)).setPrev tmp (some elem), ?_,
      represents_push h data dealloc hfresh rfl rfl (fun n => ?_) fun n => ?_⟩
    · simp [linkedListAdd, ListState.writeNext, ListState.writePrev, ListState.alloc, ListState.setNext, hsome, hmem]
    · rcases n with _ | n
      · simp [ListState.ring, ListState.setNext, ListState.setPrev]
      · by_cases hn : n = elem <;>
          simp [ListState.ring, ListState.alloc, ListState.setNext, ListState.setPrev, hsome, hn]
    · rcases n with _ | n
      · simp [ListState.ring, ListState.alloc, ListState.setNext, ListState.setPrev, hsome]
      · by_cases hn : n = tmp <;>
          simp [ListState.ring, ListState.alloc, ListState.setNext, ListState.setPrev, hsome, hn, hne]

theorem linkedListRemove_eq (h : Represents s xs) :
    xs = [] ∧ linkedListRemove s true = some (s, .unavailableResource, none) ∨
      ∃ rest x s', xs = rest ++ [x] ∧ linkedListRemove s true = some (s', .success, some x.1) ∧ Represents s' rest := by
  obtain ⟨nodes, hholds, rfl⟩ := h
  have htail := hholds.pTail_eq
  rcases List.eq_nil_or_concat nodes with rfl | ⟨nodes, tmp, rfl⟩
  · have hnone : s.pTail = none := htail
    exact .inl ⟨rfl, by simp [linkedListRemove, hnone]⟩
  · rw [List.concat_eq_append] at *
    have hsome : s.pTail = some tmp := htail.trans (by simp)
    have hmem := hholds.live_mem
    have hprev := hholds.prev_eq
    rcases List.eq_nil_or_concat nodes with rfl | ⟨nodes, tail, rfl⟩
    · have hprev : s.prev tmp = none := hprev
      obtain ⟨hfree, hholds'⟩ := @Holds.freed _ s [] [] tmp hholds { s with pTail := none, pHead := none } rfl
        (around_nil rfl rfl)
      refine .inr ⟨[], s.item tmp, _, rfl, ?_, [], hholds', rfl⟩
      simp [linkedListRemove, hsome, ListState.readPrev, ListState.readData, hmem, hprev, hfree, ListState.item]
    · rw [List.concat_eq_append] at *
      have hprev : s.prev tmp = some tail := hprev.trans (by simp)
      have hlive : tail ∈ s.live := hholds.live tail (by simp)
      obtain ⟨hfree, hholds'⟩ := @Holds.freed _ s (nodes ++ [tail]) [] tmp hholds
        ({ s with pTail := some tail }.setNext tail none) rfl (hholds.cut_last hprev)
      rw [List.append_nil] at hholds'
      refine .inr ⟨(nodes ++ [tail]).map s.item, s.item tmp, _, by simp, ?_, nodes ++ [tail], hholds', rfl⟩
      have hread : s.readPrev tmp = some (some tail) := (if_pos hmem).trans (congrArg some hprev)
      have hwrite : { s with pTail := some tail }.writeNext tail none =
          some ({ s with pTail := some tail }.setNext tail none) := if_pos hlive
      have hdata : ({ s with pTail := some tail }.setNext tail none).readData tmp = some (s.dataPtr tmp) := if_pos hmem
      rw [linkedListRemove, hsome]
      dsimp only [bind, Option.bind]
      rw [hread]
      dsimp only
      rw [hwrite]
      dsimp only
      rw [hdata]
      dsimp only
      rw [hfree]
      rfl

theorem unlinkElement_eq {s : ListState α} {xs ys : List Addr} {p : Addr} (h : Holds s (xs ++ p :: ys)) :
    ∃ s', unlinkElement s p = some s' ∧ s'.live = s.live ∧ s'.item = s.item ∧
      Around s'.ring none ((xs ++ ys).map some) := by
  have hmem := h.live_mem
  have hprev : ∀ q, s.prev p = some q → q ∈ s.live ∧ q ≠ p := by
    intro q hq
    have hin : q ∈ xs := List.mem_of_getLast? (h.prev_eq ▸ hq)
    exact ⟨h.live q (List.mem_append_left _ hin), h.ne_of_neighbour (.inl hin)⟩
  have hnext : ∀ q, s.next p = some q → q ∈ s.live ∧ q ≠ p := by
    intro q hq
    have hin : q ∈ ys := List.mem_of_head? (h.next_eq ▸ hq)
    exact ⟨h.live q (List.mem_append_right xs (List.mem_cons_of_mem p hin)), h.ne_of_neighbour (.inr hin)⟩
  refine ⟨(((s.setNextAt (s.prev p) (s.next p)).setPrevAt (s.next p) (s.prev p)).setNextAt (some p) none).setPrevAt
    (some p) none, ?_, by simp, by simp, ?_⟩
  · have hfirst : (s.setNextAt (s.prev p) (s.next p)).next p = s.next p := by
      cases hq : s.prev p with
      | none => rfl
      | some q => exact if_neg (hprev q hq).2.symm
    have hlast : (s.setNextAt (s.prev p) (s.next p)).prev p = s.prev p := by
      cases hq : s.prev p <;> exact hq
    rw [unlinkElement]
    dsimp only [bind, Option.bind]
    rw [ListState.readPrev, if_pos hmem]
    dsimp only
    rw [ListState.readNext, if_pos hmem]
    dsimp only
    rw [ListState.relinkNext_eq fun q hq => (hprev q hq).1]
    dsimp only
    rw [ListState.readPrev, ListState.readNext, ListState.setNextAt_live, if_pos hmem, if_pos hmem, hfirst, hlast]
    dsimp only
    rw [ListState.relinkPrev_eq fun q hq => by simpa using (hnext q hq).1]
    dsimp only
    rw [ListState.writeNext, if_pos (by simpa using hmem)]
    dsimp only
    rw [ListState.writePrev, if_pos (by simpa [ListState.setNext] using hmem)]
    rfl
  · have hring := h.ring
    rw [List.map_append, List.map_cons] at hring
    rw [List.map_append]
    refine hring.unlink (fun n hn => ?_) fun n hn => ?_
    · simp only [ListState.setPrevAt_ring, ListState.setNextAt_ring, Links.setPrev_next, Links.setNext_next, if_neg hn]
      rfl
    · simp only [ListState.setPrevAt_ring, ListState.setNextAt_ring, Links.setPrev_prev, Links.setNext_prev, if_neg hn]
      rfl

theorem searched_hit {equal : α → Bool} {x : Item α} (wanted rmIfFound : Bool) (h : equal x.1 = true) :
    searched equal wanted rmIfFound (x :: xs) = (if rmIfFound then xs else x :: xs,
      if wanted then some x.1 else none, if rmIfFound && !wanted && x.2 then [x.1] else []) := by
  cases hdealloc : x.2 <;> simp [searched, h, hdealloc]

theorem searched_miss {equal : α → Bool} {x : Item α} (wanted rmIfFound : Bool) (h : ¬equal x.1 = true) :
    searched equal wanted rmIfFound (x :: xs) =
      (x :: (searched equal wanted rmIfFound xs).1, (searched equal wanted rmIfFound xs).2) := by
  cases rmIfFound <;> simp [searched, h]

theorem searchFrom_eq {equal : α → Bool} {wanted rmIfFound : Bool} {n : Nat} {ys zs : List Addr}
    (h : Holds s (ys ++ zs)) (hn : zs.length < n) :
    ∃ s', searchFrom equal wanted rmIfFound n zs.head? s =
        some (s', (searched equal wanted rmIfFound (zs.map s.item)).2) ∧
      Represents s' (ys.map s.item ++ (searched equal wanted rmIfFound (zs.map s.item)).1) := by
  induction zs generalizing ys n with
  | nil =>
    obtain ⟨n, rfl⟩ : ∃ m, n = m + 1 := ⟨n - 1, by omega⟩
    refine ⟨s, ?_, ys, by simpa using h, by simp [searched]⟩
    simp [searchFrom, searched]
  | cons p zs ih =>
    obtain ⟨n, rfl⟩ : ∃ m, n = m + 1 := ⟨n - 1, by omega⟩
    have hmem := h.live_mem
    rw [List.head?_cons, searchFrom]
    dsimp only [bind, Option.bind]
    rw [ListState.readData, if_pos hmem]
    dsimp only
    by_cases hequal : equal (s.dataPtr p) = true
    · rw [if_pos hequal]
      cases rmIfFound with
      | true =>
        obtain ⟨s', hunlink, hlive, hitem, hring⟩ := unlinkElement_eq h
        obtain ⟨hfree, hholds⟩ := h.freed hlive hring
        refine ⟨_, ?_, ys ++ zs, hholds, ?_⟩
        · rw [if_pos rfl, hunlink]
          dsimp only
          rw [ListState.readDealloc, if_pos (hlive ▸ hmem)]
          dsimp only
          rw [hfree, List.map_cons, searched_hit wanted true hequal]
          have hdealloc : s'.deallocFunc p = s.deallocFunc p := congrArg Prod.snd (congrFun hitem p)
          simp [ListState.item, hdealloc]
        · have hsame : ListState.item { s' with live := s.live.erase p } = s.item := hitem
          rw [hsame, List.map_cons, searched_hit wanted true hequal, List.map_append]
          rfl
      | false =>
        refine ⟨s, ?_, ys ++ p :: zs, h, ?_⟩
        · rw [if_neg Bool.false_ne_true, List.map_cons, searched_hit wanted false hequal]
          rfl
        · rw [List.map_append, List.map_cons, searched_hit wanted false hequal]
          rfl
    · have hassoc : ys ++ p :: zs = ys ++ [p] ++ zs := by simp
      rw [if_neg hequal, ListState.readNext, if_pos hmem, h.next_eq]
      rw [hassoc] at h
      obtain ⟨s', hrun, hrep⟩ := ih h (by simpa using hn)
      refine ⟨s', ?_, ?_⟩
      · rw [List.map_cons, searched_miss wanted rmIfFound hequal]
        exact hrun
      · rw [List.map_cons, searched_miss wanted rmIfFound hequal]
        simpa using hrep

theorem linkedListSearch_eq (h : Represents s xs) (equal : α → Bool) (wanted rmIfFound : Bool) (hne : xs ≠ []) :
    ∃ s', linkedListSearch s (some equal) wanted rmIfFound =
        some (s', .success, (searched equal wanted rmIfFound xs).2) ∧
      Represents s' (searched equal wanted rmIfFound xs).1 := by
  obtain ⟨nodes, hholds, rfl⟩ := h
  obtain ⟨s', hrun, hrep⟩ := @searchFrom_eq _ s equal wanted rmIfFound (s.live.length + 1) [] nodes hholds
    (Nat.lt_succ_of_le hholds.length_le)
  refine ⟨s', ?_, hrep⟩
  rw [linkedListSearch]
  cases htail : s.pTail with
  | none =>
    rw [hholds.pTail_eq, List.getLast?_eq_none_iff] at htail
    exact absurd (htail ▸ rfl) hne
  | some _ => rw [hholds.pHead_eq, hrun, Option.map_some]

theorem flushFrom_eq {n : Nat} {nodes : List Addr} {freed : List α} (hhead : s.pHead = nodes.head?)
    (hnext : ∀ ys p zs, nodes = ys ++ p :: zs → s.next p = zs.head?) (hlive : ∀ p ∈ nodes, p ∈ s.live)
    (hnodup : nodes.Nodup) (hheap : s.live.Nodup) (hn : nodes.length < n) :
    ∃ s', flushFrom n s freed = some (s', freed ++ ((nodes.map s.item).filter (·.2)).map (·.1)) ∧ Holds s' [] := by
  induction nodes generalizing s n freed with
  | nil =>
    obtain ⟨n, rfl⟩ : ∃ m, n = m + 1 := ⟨n - 1, by omega⟩
    have hnone : s.pHead = none := hhead
    refine ⟨{ s with pTail := none }, ?_, around_nil hnone rfl, by simp, hheap⟩
    simp [flushFrom, hnone]
  | cons p nodes ih =>
    obtain ⟨n, rfl⟩ : ∃ m, n = m + 1 := ⟨n - 1, by omega⟩
    have hsome : s.pHead = some p := hhead
    have hmem := hlive p List.mem_cons_self
    obtain ⟨hp, hnodup⟩ := List.nodup_cons.mp hnodup
    have hrest : ∀ q ∈ nodes, q ∈ s.live.erase p := fun q hq =>
      hheap.mem_erase_iff.mpr ⟨fun heq => hp (heq ▸ hq), hlive q (List.mem_cons_of_mem p hq)⟩
    obtain ⟨s', hrun, hnil⟩ := @ih { s with live := s.live.erase p, pHead := s.next p } n
      (freed ++ if s.deallocFunc p then [s.dataPtr p] else []) (hnext [] p nodes rfl)
      (fun ys q zs heq => hnext (p :: ys) q zs (congrArg (p :: ·) heq)) hrest hnodup (hheap.erase p) (by simpa using hn)
    refine ⟨s', ?_, hnil⟩
    rw [flushFrom, hsome]
    dsimp only [bind, Option.bind]
    simp only [ListState.readNext, ListState.readDealloc, ListState.readData, ListState.free, if_pos hmem]
    have hsame : ListState.item { s with live := s.live.erase p, pHead := s.next p } = s.item := rfl
    rw [hrun, hsame]
    cases hdealloc : s.deallocFunc p <;> simp [ListState.item, hdealloc]

theorem linkedListFlush_eq (h : Represents s xs) :
    ∃ s', linkedListFlush s = some (s', (xs.filter (·.2)).map (·.1)) ∧ Represents s' [] := by
  obtain ⟨nodes, hholds, rfl⟩ := h
  obtain ⟨s', hrun, hnil⟩ := @flushFrom_eq _ s (s.live.length + 1) nodes [] hholds.pHead_eq
    (fun ys p zs heq => Holds.next_eq (heq ▸ hholds)) hholds.live hholds.nodup_nodes hholds.nodup
    (Nat.lt_succ_of_le hholds.length_le)
  exact ⟨s', hrun, [], hnil, rfl⟩

def ListFresh (s : ListState α) : ListEvent α → Prop
  | .add _ _ mem => ∀ p ∈ mem, p ∉ s.live
  | _ => True

instance (s : ListState α) : (e : ListEvent α) → Decidable (ListFresh s e)
  | .add _ _ mem => inferInstanceAs (Decidable (∀ p ∈ mem, p ∉ s.live))
  | .remove _ => inferInstanceAs (Decidable True)
  | .search _ _ _ => inferInstanceAs (Decidable True)
  | .flush => inferInstanceAs (Decidable True)

theorem serveList_eq {e : ListEvent α} (h : Represents s xs) (hfresh : ListFresh s e) :
    ∃ s', serveList s e = some (s', (applyList xs e).2) ∧ Represents s' (applyList xs e).1 := by
  cases e with
  | add dataObj dealloc mem =>
    cases dataObj with
    | none => exact ⟨s, rfl, h⟩
    | some data =>
      cases mem with
      | none => exact ⟨s, rfl, h⟩
      | some elem =>
        obtain ⟨s', hrun, hrep⟩ := linkedListAdd_eq h data dealloc (hfresh elem rfl)
        exact ⟨s', by rw [serveList, hrun]; rfl, hrep⟩
  | remove wanted =>
    cases wanted with
    | false => exact ⟨s, rfl, h⟩
    | true =>
      rcases linkedListRemove_eq h with ⟨rfl, hrun⟩ | ⟨rest, x, s', rfl, hrun, hrep⟩
      · exact ⟨s, by rw [serveList, hrun]; rfl, h⟩
      · refine ⟨s', ?_, ?_⟩
        · rw [serveList, hrun]
          simp [applyList]
        · simpa [applyList] using hrep
  | search equal wanted rmIfFound =>
    cases equal with
    | none => exact ⟨s, rfl, h⟩
    | some equal =>
      by_cases hne : xs = []
      · obtain ⟨nodes, hholds, hmap⟩ := id h
        have hnil : nodes = [] := by simpa [hne] using hmap
        have htail : s.pTail = none := by rw [hholds.pTail_eq, hnil, List.getLast?_nil]
        refine ⟨s, ?_, ?_⟩
        · rw [serveList, linkedListSearch, htail, applyList, if_pos hne]
          rfl
        · rw [applyList, if_pos hne]
          exact h
      · obtain ⟨s', hrun, hrep⟩ := linkedListSearch_eq h equal wanted rmIfFound hne
        refine ⟨s', ?_, ?_⟩
        · rw [serveList, hrun, applyList, if_neg hne]
          rfl
        · rw [applyList, if_neg hne]
          exact hrep
  | flush =>
    obtain ⟨s', hrun, hrep⟩ := linkedListFlush_eq h
    exact ⟨s', by rw [serveList, hrun]; rfl, hrep⟩

end Calls

structure ListRun (α : Type) where
  list : ListState α
  answers : List (Answer α)

def stepList (r : ListRun α) (e : ListEvent α) : Option (ListRun α) :=
  (serveList r.list e).map fun x => ⟨x.1, r.answers ++ [x.2]⟩

def applyNext (r : List (Item α) × List (Answer α)) (e : ListEvent α) : List (Item α) × List (Answer α) :=
  ((applyList r.1 e).1, r.2 ++ [(applyList r.1 e).2])

theorem playList_eq {r : ListRun α} {xs : List (Item α)} {es : List (ListEvent α)} (h : Represents r.list xs)
    (hfresh : Runs.Along stepList (fun r e => ListFresh r.list e) r es) :
    ∃ t, Runs.play stepList r es = some t ∧ t.answers = (es.foldl applyNext (xs, r.answers)).2 ∧
      Represents t.list (es.foldl applyNext (xs, r.answers)).1 := by
  induction es generalizing r xs with
  | nil => exact ⟨r, rfl, rfl, h⟩
  | cons e es ih =>
    obtain ⟨s', hserve, hrep⟩ := serveList_eq h hfresh.head
    have hstep : stepList r e = some ⟨s', r.answers ++ [(applyList xs e).2]⟩ := by
      rw [stepList, hserve, Option.map_some]
    obtain ⟨t, hrun, hout, hlist⟩ := @ih ⟨s', r.answers ++ [(applyList xs e).2]⟩ (applyList xs e).1 hrep
      (hfresh.tail hstep)
    exact ⟨t, by rw [Runs.play, hstep, Option.bind_some, hrun], hout, hlist⟩

theorem represents_init (data : α) : Represents (linkedListInit data) [] :=
  ⟨[], ⟨around_nil rfl rfl, fun _ hn => absurd hn List.not_mem_nil, List.nodup_nil⟩, rfl⟩

theorem Represents.ends {s : ListState α} {xs : List (Item α)} (h : Represents s xs) :
    s.pHead = none ↔ s.pTail = none := by
  obtain ⟨nodes, hholds, -⟩ := h
  rw [hholds.pHead_eq, hholds.pTail_eq, List.head?_eq_none_iff, List.getLast?_eq_none_iff]

inductive MsqQErr
  | success
  | failureGeneral
  | invalidParameter
  | invalidHandle
  | unavailableResource
  | insufficientBuffer
  deriving DecidableEq

def convertLinkedListErrType : LinkedListErr → MsqQErr
  | .success => .success
  | .invalidParameter => .invalidParameter
  | .invalidHandle => .invalidHandle
  | .unavailableResource => .unavailableResource
  | .insufficientBuffer => .insufficientBuffer
  | .failureGeneral => .failureGeneral

structure MsgQ (α : Type) where
  msgList : ListState α
  unblocked : Bool

def msgQInit (data : α) : MsgQ α := ⟨linkedListInit data, false⟩

def msgQSnd (q : MsgQ α) (msgObj : Option α) (dealloc : Bool) (mem : Option Addr) : Option (MsgQ α × MsqQErr) :=
  if msgObj.isNone then some (q, .invalidParameter)
  else if q.unblocked then some (q, .unavailableResource)
  else (linkedListAdd q.msgList msgObj dealloc mem).map fun r =>
    ({ q with msgList := r.1 }, convertLinkedListErrType r.2)

/-- What a receiver does once it has the mutex: it gives it back to wait, or returns. -/
inductive Pass (α : Type)
  | waits
  | returns (q : MsgQ α) (rv : MsqQErr) (msgObj : Option α)

def rcvLoop (q : MsgQ α) : Option (Pass α) :=
  if linkedListEmpty q.msgList && !q.unblocked then some .waits
  else (linkedListRemove q.msgList true).map fun r =>
    .returns { q with msgList := r.1 } (convertLinkedListErrType r.2.1) r.2.2

/-- `wanted` is whether there is a place for the message. -/
def msgQRcv (q : MsgQ α) (wanted : Bool) : Option (Pass α) :=
  if !wanted then some (.returns q .invalidParameter none)
  else if q.unblocked then some (.returns q .unavailableResource none)
  else rcvLoop q

def msgQUnblock (q : MsgQ α) : MsgQ α × MsqQErr :=
  if q.unblocked then (q, .unavailableResource) else ({ q with unblocked := true }, .success)

inductive Event (α : Type)
  | snd (msgObj : Option α) (dealloc : Bool) (mem : Option Addr)
  | rcv (thread : Nat) (wanted : Bool)
  | wake (thread : Nat)
  | unblock

structure State (α : Type) where
  queue : MsgQ α
  waiting : List Nat
  accepted : List α
  received : List α

def State.pass (s : State α) (thread : Nat) : Pass α → State α
  | .waits => { s with waiting := thread :: s.waiting }
  | .returns q rv msgObj =>
    { s with queue := q, received := s.received ++ if rv = .success then msgObj.toList else [] }

def step (s : State α) : Event α → Option (State α)
  | .snd msgObj dealloc mem => (msgQSnd s.queue msgObj dealloc mem).map fun r =>
      { s with queue := r.1, accepted := s.accepted ++ if r.2 = .success then msgObj.toList else [] }
  | .rcv thread wanted => (msgQRcv s.queue wanted).map (s.pass thread)
  | .wake thread => (rcvLoop s.queue).map ({ s with waiting := s.waiting.erase thread }.pass thread)
  | .unblock => some { s with queue := (msgQUnblock s.queue).1 }

def Possible (s : State α) : Event α → Prop
  | .snd _ _ mem => ∀ p ∈ mem, p ∉ s.queue.msgList.live
  | .rcv thread _ => thread ∉ s.waiting
  | .wake thread => thread ∈ s.waiting
  | .unblock => True

instance (s : State α) : (e : Event α) → Decidable (Possible s e)
  | .snd _ _ mem => inferInstanceAs (Decidable (∀ p ∈ mem, p ∉ s.queue.msgList.live))
  | .rcv thread _ => inferInstanceAs (Decidable (thread ∉ s.waiting))
  | .wake thread => inferInstanceAs (Decidable (thread ∈ s.waiting))
  | .unblock => inferInstanceAs (Decidable True)

/-- What was accepted has been received in the same order, or is still in the list. -/
def Conserved (s : State α) : Prop :=
  ∃ xs, Represents s.queue.msgList xs ∧ s.accepted = s.received ++ (xs.map (·.1)).reverse

def Closed (s t : State α) : Prop := s.queue.unblocked → t.queue.unblocked ∧ t.accepted = s.accepted

theorem snd_step {s : State α} (h : Conserved s) (msgObj : Option α) (dealloc : Bool) {mem : Option Addr}
    (hfresh : ∀ p ∈ mem, p ∉ s.queue.msgList.live) :
    ∃ t, step s (.snd msgObj dealloc mem) = some t ∧ Conserved t ∧ Closed s t := by
  obtain ⟨⟨list, unblocked⟩, waiting, accepted, received⟩ := s
  cases msgObj with
  | none => exact ⟨_, rfl, by simpa [Conserved] using h, fun hun => ⟨hun, List.append_nil accepted⟩⟩
  | some data =>
    cases unblocked with
    | true => exact ⟨_, rfl, by simpa [Conserved] using h, fun hun => ⟨hun, List.append_nil accepted⟩⟩
    | false =>
      cases mem with
      | none =>
        exact ⟨_, rfl, by simpa [Conserved, convertLinkedListErrType] using h, fun hun => absurd hun Bool.false_ne_true⟩
      | some elem =>
        obtain ⟨xs, hrep, hlog⟩ := h
        obtain ⟨list', hadd, hrep'⟩ := linkedListAdd_eq hrep data dealloc (hfresh elem rfl)
        refine ⟨⟨⟨list', false⟩, waiting, accepted ++ [data], received⟩, ?_, ⟨_, hrep', ?_⟩,
          fun hun => absurd hun Bool.false_ne_true⟩
        · simp [step, msgQSnd, hadd, convertLinkedListErrType]
        · have hlog : accepted = received ++ (xs.map (·.1)).reverse := hlog
          simp [hlog]

theorem rcvLoop_step {s : State α} (h : Conserved s) (thread : Nat) :
    ∃ r, rcvLoop s.queue = some r ∧ Conserved (s.pass thread r) ∧ Closed s (s.pass thread r) := by
  obtain ⟨xs, hrep, hlog⟩ := h
  rw [rcvLoop]
  split
  · exact ⟨.waits, rfl, ⟨xs, hrep, hlog⟩, fun hun => ⟨hun, rfl⟩⟩
  · rcases linkedListRemove_eq hrep with ⟨rfl, hrun⟩ | ⟨rest, x, list, rfl, hrun, hrest⟩
    · exact ⟨.returns s.queue .unavailableResource none, by rw [hrun]; rfl,
        ⟨[], hrep, by simpa [State.pass] using hlog⟩, fun hun => ⟨hun, rfl⟩⟩
    · refine ⟨.returns { s.queue with msgList := list } .success (some x.1), by rw [hrun]; rfl, ⟨rest, hrest, ?_⟩,
        fun hun => ⟨hun, rfl⟩⟩
      simp [State.pass, hlog]

theorem step_conserved {s : State α} {e : Event α} (h : Conserved s) (hpossible : Possible s e) :
    ∃ t, step s e = some t ∧ Conserved t ∧ Closed s t := by
  cases e with
  | snd msgObj dealloc mem => exact snd_step h msgObj dealloc hpossible
  | rcv thread wanted =>
    have hsame : ∀ rv, (s.pass thread (.returns s.queue rv none)) = s := fun rv => by simp [State.pass]
    rw [step, msgQRcv]
    split
    · exact ⟨s, congrArg some (hsame .invalidParameter), h, fun hun => ⟨hun, rfl⟩⟩
    · split
      · exact ⟨s, congrArg some (hsame .unavailableResource), h, fun hun => ⟨hun, rfl⟩⟩
      · obtain ⟨r, hrun, hconserved, hclosed⟩ := rcvLoop_step h thread
        exact ⟨s.pass thread r, by rw [hrun, Option.map_some], hconserved, hclosed⟩
  | wake thread =>
    obtain ⟨r, hrun, hconserved, hclosed⟩ :=
      @rcvLoop_step _ { s with waiting := s.waiting.erase thread } h thread
    exact ⟨_, by rw [step, hrun, Option.map_some], hconserved, hclosed⟩
  | unblock =>
    obtain ⟨xs, hrep, hlog⟩ := h
    refine ⟨{ s with queue := (msgQUnblock s.queue).1 }, rfl, ⟨xs, ?_, hlog⟩, fun hun => ⟨?_, rfl⟩⟩
    · rw [msgQUnblock]
      split <;> exact hrep
    · simp [msgQUnblock, hun]

theorem play_conserved {s : State α} {es : List (Event α)} (h : Conserved s)
    (hpossible : Runs.Along step Possible s es) : ∃ t, Runs.play step s es = some t ∧ Conserved t ∧ Closed s t := by
  induction es generalizing s with
  | nil => exact ⟨s, rfl, h, fun hun => ⟨hun, rfl⟩⟩
  | cons e es ih =>
    obtain ⟨t, hstep, hconserved, hclosed⟩ := step_conserved h hpossible.head
    obtain ⟨u, hrun, hconserved', hclosed'⟩ := ih hconserved (hpossible.tail hstep)
    refine ⟨u, by rw [Runs.play, hstep, Option.bind_some, hrun], hconserved', fun hun => ?_⟩
    obtain ⟨hun', hsame⟩ := hclosed hun
    obtain ⟨hun'', hsame'⟩ := hclosed' hun'
    exact ⟨hun'', hsame'.trans hsame⟩

def middleOut : List (ListEvent Nat) :=
  [.add (some 1) true (some 8), .add (some 2) true (some 16), .add (some 3) false (some 24),
    .search (some (· = 2)) false true, .remove true]

def sentWhileWaiting : List (Event Nat) := [.rcv 1 true, .snd (some 5) false (some 8), .snd (some 6) false (some 16)]

def unblockedThen : List (Event Nat) := [.unblock, .wake 1, .snd (some 7) false (some 24)]

end Wt88047.MsgQueue
