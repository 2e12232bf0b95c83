import Mathlib.Data.List.ReduceOption
import Wt88047.Lib.Runs
import Wt88047.MmCamera.CamList

/-! The queues of the camera HAL: their operations on the list of nodes, and those on a sequence of data that they stand
for. -/

namespace Wt88047.CameraQueue

open CamList LinkedRing

variable {β : Type}

abbrev Data (β : Type) := Option β

/-- `dataFn` is whether there is a callback that releases what the data has. -/
structure Queue (β : Type) where
  heap : Heap (Data β)
  size : Int
  dataFn : Bool

def queueInit (dataFn : Bool) : Queue β := ⟨.init none, 0, dataFn⟩

def enqueue (q : Queue β) (data : Data β) (mem : Option Addr) : Option (Queue β × Bool) :=
  match mem with
  | none => some (q, false)
  | some node => do
    let heap ← (q.heap.alloc node data).addTailNode node head
    some ({ q with heap := heap, size := q.size + 1 }, true)

def enqueueWithPriority (q : Queue β) (data : Data β) (mem : Option Addr) : Option (Queue β × Bool) :=
  match mem with
  | none => some (q, false)
  | some node => do
    let heap := q.heap.alloc node data
    let next ← heap.readNext head
    let heap ← heap.writeNext head node
    let heap ← heap.writePrev next node
    let heap ← heap.writeNext node next
    let heap ← heap.writePrev node head
    some ({ q with heap := heap, size := q.size + 1 }, true)

def dequeue (q : Queue β) (fromHead : Bool) : Option (Queue β × Data β) := do
  let pos ← if fromHead then q.heap.readNext head else q.heap.readPrev head
  if pos ≠ head then do
    let heap ← q.heap.delNode pos
    let data ← heap.readData pos
    let heap ← heap.free pos
    some ({ q with heap := heap, size := q.size - 1 }, data)
  else some (q, none)

structure Flushed (β : Type) where
  called : List β
  freed : List β
  deriving DecidableEq

def Flushed.add (f : Flushed β) (dataFn : Bool) (data : Data β) : Flushed β :=
  ⟨f.called ++ (if dataFn then data.toList else []), f.freed ++ data.toList⟩

def flushFrom (isMatch : Data β → Bool) : Nat → Addr → Queue β → Flushed β → Option (Queue β × Flushed β)
  | 0, _, _, _ => none
  | n + 1, node, q, flushed =>
    if node = head then some (q, flushed)
    else do
      let pos ← q.heap.readNext node
      let data ← q.heap.readData node
      if isMatch data then do
        let heap ← q.heap.delNode node
        let data ← heap.readData node
        let heap ← heap.free node
        flushFrom isMatch n pos { q with heap := heap, size := q.size - 1 } (flushed.add q.dataFn data)
      else flushFrom isMatch n pos q flushed

def flush (q : Queue β) : Option (Queue β × Flushed β) := do
  let pos ← q.heap.readNext head
  let (q, flushed) ← flushFrom (fun _ => true) (q.heap.live.length + 1) pos q ⟨[], []⟩
  some ({ q with size := 0 }, flushed)

def flushNodes (q : Queue β) (isMatch : Option (Data β → Bool)) : Option (Queue β × Flushed β) :=
  match isMatch with
  | none => some (q, ⟨[], []⟩)
  | some isMatch => do
    let pos ← q.heap.readNext head
    flushFrom isMatch (q.heap.live.length + 1) pos q ⟨[], []⟩

inductive Event (β : Type)
  | enqueue (data : Data β) (mem : Option Addr)
  | enqueueWithPriority (data : Data β) (mem : Option Addr)
  | dequeue (fromHead : Bool)
  | flush
  | flushNodes (isMatch : Option (Data β → Bool))

inductive Output (β : Type)
  | accepted (ok : Bool)
  | data (data : Data β)
  | flushed (flushed : Flushed β)
  deriving DecidableEq

def serve (q : Queue β) : Event β → Option (Queue β × Output β)
  | .enqueue data mem => (enqueue q data mem).map fun r => (r.1, .accepted r.2)
  | .enqueueWithPriority data mem => (enqueueWithPriority q data mem).map fun r => (r.1, .accepted r.2)
  | .dequeue fromHead => (dequeue q fromHead).map fun r => (r.1, .data r.2)
  | .flush => (flush q).map fun r => (r.1, .flushed r.2)
  | .flushNodes isMatch => (flushNodes q isMatch).map fun r => (r.1, .flushed r.2)

def flushedOf (dataFn : Bool) (xs : List (Data β)) : Flushed β :=
  ⟨if dataFn then xs.reduceOption else [], xs.reduceOption⟩

def apply (dataFn : Bool) (xs : List (Data β)) : Event β → List (Data β) × Output β
  | .enqueue data mem => if mem.isSome then (xs ++ [data], .accepted true) else (xs, .accepted false)
  | .enqueueWithPriority data mem => if mem.isSome then (data :: xs, .accepted true) else (xs, .accepted false)
  | .dequeue fromHead => if fromHead then (xs.tail, .data xs.head?.join) else (xs.dropLast, .data xs.getLast?.join)
  | .flush => ([], .flushed (flushedOf dataFn xs))
  | .flushNodes none => (xs, .flushed ⟨[], []⟩)
  | .flushNodes (some isMatch) =>
    (xs.filter fun data => !isMatch data, .flushed (flushedOf dataFn (xs.filter isMatch)))

structure State (β : Type) where
  queue : Queue β
  outputs : List (Output β)

def step (s : State β) (e : Event β) : Option (State β) :=
  (serve s.queue e).map fun r => ⟨r.1, s.outputs ++ [r.2]⟩

def applyNext (dataFn : Bool) (s : List (Data β) × List (Output β)) (e : Event β) :
    List (Data β) × List (Output β) := ((apply dataFn s.1 e).1, s.2 ++ [(apply dataFn s.1 e).2])

def Fresh (s : State β) : Event β → Prop
  | .enqueue _ mem => ∀ p ∈ mem, s.queue.heap.Fresh p
  | .enqueueWithPriority _ mem => ∀ p ∈ mem, s.queue.heap.Fresh p
  | _ => True

instance (s : State β) : (e : Event β) → Decidable (Fresh s e)
  | .enqueue _ mem => inferInstanceAs (Decidable (∀ p ∈ mem, s.queue.heap.Fresh p))
  | .enqueueWithPriority _ mem => inferInstanceAs (Decidable (∀ p ∈ mem, s.queue.heap.Fresh p))
  | .dequeue _ => inferInstanceAs (Decidable True)
  | .flush => inferInstanceAs (Decidable True)
  | .flushNodes _ => inferInstanceAs (Decidable True)

def Represents (q : Queue β) (xs : List (Data β)) : Prop := q.heap.Lists q.size xs

theorem enqueue_eq {q : Queue β} {xs : List (Data β)} (h : Represents q xs) (data : Data β) {mem : Option Addr}
    (hmem : ∀ p ∈ mem, q.heap.Fresh p) :
    ∃ q', enqueue q data mem = some (q', mem.isSome) ∧ q'.dataFn = q.dataFn ∧
      Represents q' (if mem.isSome then xs ++ [data] else xs) := by
  cases mem with
  | none => exact ⟨q, rfl, rfl, h⟩
  | some p =>
    obtain ⟨heap, hadd, hlists⟩ := h.add_tail (hmem p rfl) data
    refine ⟨{ q with heap := heap, size := q.size + 1 }, ?_, rfl, hlists⟩
    rw [enqueue, hadd]
    rfl

theorem enqueueWithPriority_eq {q : Queue β} {xs : List (Data β)} (h : Represents q xs) (data : Data β)
    {mem : Option Addr} (hmem : ∀ p ∈ mem, q.heap.Fresh p) :
    ∃ q', enqueueWithPriority q data mem = some (q', mem.isSome) ∧ q'.dataFn = q.dataFn ∧
      Represents q' (if mem.isSome then data :: xs else xs) := by
  cases mem with
  | none => exact ⟨q, rfl, rfl, h⟩
  | some p =>
    obtain ⟨nodes, hholds, rfl, hsize⟩ := h
    have hp := hmem p rfl
    have hfirst := hholds.ring.next_head ▸ headD_mem nodes head
    have hnext : Valid (p :: q.heap.live) (q.heap.links.next head) :=
      (hholds.valid hfirst).imp_right (List.mem_cons_of_mem p)
    have hne : q.heap.links.next head ≠ p := fun heq => hholds.not_mem_of_fresh hp (heq ▸ hfirst)
    have hhead : Valid (p :: q.heap.live) head := .inl rfl
    have hnode : Valid (p :: q.heap.live) p := .inr List.mem_cons_self
    obtain ⟨hholds', hdata⟩ := @Heap.Holds.add_head _ q.heap nodes p hholds hp data
      ((((q.heap.links.setNext head p).setPrev (q.heap.links.next head) p).setNext p (q.heap.links.next head)).setPrev
        p head) (fun n => by simp) (fun n => by simp)
    refine ⟨{ q with heap := _, size := q.size + 1 }, ?_, rfl, p :: nodes, hholds', hdata, by simp [hsize]⟩
    simp [enqueueWithPriority, Heap.readNext, Heap.writeNext, Heap.writePrev, Heap.alloc, hhead, hnode, hnext]

theorem dequeue_eq {q : Queue β} {xs : List (Data β)} (h : Represents q xs) (fromHead : Bool) :
    ∃ q', dequeue q fromHead = some (q', if fromHead then xs.head?.join else xs.getLast?.join) ∧
      q'.dataFn = q.dataFn ∧ Represents q' (if fromHead then xs.tail else xs.dropLast) := by
  cases fromHead with
  | true =>
    rcases h.first with ⟨rfl, hread⟩ | ⟨data, rest, pos, heap, heap', rfl, hread, hne, hdel, hdata, hfree, hlists⟩
    · refine ⟨q, ?_, rfl, h⟩
      rw [dequeue, if_pos rfl, hread]
      rfl
    · refine ⟨{ q with heap := heap', size := q.size - 1 }, ?_, rfl, hlists⟩
      rw [dequeue, if_pos rfl, hread]
      dsimp only [bind, Option.bind]
      rw [if_pos hne, hdel]
      dsimp only
      rw [hdata]
      dsimp only
      rw [hfree]
      simp
  | false =>
    rcases h.last with ⟨rfl, hread⟩ | ⟨data, rest, pos, heap, heap', rfl, hread, hne, hdel, hdata, hfree, hlists⟩
    · refine ⟨q, ?_, rfl, h⟩
      rw [dequeue, if_neg Bool.false_ne_true, hread]
      rfl
    · rw [if_neg Bool.false_ne_true, if_neg Bool.false_ne_true, List.dropLast_concat]
      refine ⟨{ q with heap := heap', size := q.size - 1 }, ?_, rfl, hlists⟩
      rw [dequeue, if_neg Bool.false_ne_true, hread]
      dsimp only [bind, Option.bind]
      rw [if_pos hne, hdel]
      dsimp only
      rw [hdata]
      dsimp only
      rw [hfree]
      simp

def Flushed.append (f g : Flushed β) : Flushed β := ⟨f.called ++ g.called, f.freed ++ g.freed⟩

theorem flushed_add (f : Flushed β) (dataFn : Bool) (data : Data β) (xs : List (Data β)) :
    (f.add dataFn data).append (flushedOf dataFn xs) = f.append (flushedOf dataFn (data :: xs)) := by
  cases dataFn <;> cases data <;> simp [Flushed.add, Flushed.append, flushedOf, List.reduceOption]

theorem flushed_append_nil (f : Flushed β) (dataFn : Bool) : f.append (flushedOf dataFn []) = f := by
  cases dataFn <;> simp [Flushed.append, flushedOf, List.reduceOption]

theorem flushFrom_eq {isMatch : Data β → Bool} {n : Nat} {q : Queue β} {xs ys : List Addr} {flushed : Flushed β}
    (h : q.heap.Holds (xs ++ ys)) (hsize : q.size = (xs ++ ys).length) (hn : ys.length < n) :
    ∃ q', flushFrom isMatch n (ys.headD head) q flushed =
        some (q', flushed.append (flushedOf q.dataFn ((ys.map q.heap.data).filter isMatch))) ∧
      q'.dataFn = q.dataFn ∧
      Represents q' (xs.map q.heap.data ++ (ys.map q.heap.data).filter fun data => !isMatch data) := by
  induction ys generalizing xs q n flushed with
  | nil =>
    obtain ⟨n, rfl⟩ : ∃ m, n = m + 1 := ⟨n - 1, by omega⟩
    refine ⟨q, ?_, rfl, xs, by simpa using h, by simp, by simpa using hsize⟩
    rw [flushFrom, List.headD_nil, if_pos rfl, List.map_nil, List.filter_nil, flushed_append_nil]
  | cons p ys ih =>
    obtain ⟨n, rfl⟩ : ∃ m, n = m + 1 := ⟨n - 1, by omega⟩
    have hp : p ∈ xs ++ p :: ys := List.mem_append_right xs List.mem_cons_self
    rw [flushFrom, List.headD_cons, if_neg (h.ne_head hp), h.readNext_mem]
    dsimp only [bind, Option.bind]
    rw [h.readData_mem hp]
    dsimp only
    rw [List.map_cons]
    by_cases hmatch : isMatch (q.heap.data p) = true
    · obtain ⟨heap, hdel, hdata, hlive, heap', hfree, hholds, hdata', -⟩ := h.del
      have hread : heap.readData p = some (q.heap.data p) := (if_pos hlive).trans (congrArg some (congrFun hdata p))
      rw [if_pos hmatch, hdel]
      dsimp only
      rw [hread]
      dsimp only
      rw [hfree]
      dsimp only
      obtain ⟨q', hrun, hfn, hrep⟩ := @ih n { q with heap := heap', size := q.size - 1 } xs
        (flushed.add q.dataFn (q.heap.data p)) hholds (by simp [hsize]; omega) (by simpa using hn)
      refine ⟨q', ?_, hfn, ?_⟩
      · rw [hrun, List.filter_cons_of_pos hmatch, ← flushed_add, hdata']
      · rw [List.filter_cons_of_neg (by simp [hmatch])]
        dsimp only at hrep
        rwa [hdata'] at hrep
    · have hassoc : xs ++ p :: ys = xs ++ [p] ++ ys := by simp
      rw [if_neg hmatch]
      rw [hassoc] at h hsize
      obtain ⟨q', hrun, hfn, hrep⟩ := @ih n q (xs ++ [p]) flushed h hsize (by simpa using hn)
      refine ⟨q', ?_, hfn, ?_⟩
      · rw [hrun, List.filter_cons_of_neg hmatch]
      · rw [List.filter_cons_of_pos (by simp [hmatch])]
        simpa using hrep

theorem flushNodes_eq {q : Queue β} {xs : List (Data β)} (h : Represents q xs) (isMatch : Data β → Bool) :
    ∃ q', flushNodes q (some isMatch) = some (q', flushedOf q.dataFn (xs.filter isMatch)) ∧ q'.dataFn = q.dataFn ∧
      Represents q' (xs.filter fun data => !isMatch data) := by
  obtain ⟨nodes, hholds, rfl, hsize⟩ := h
  obtain ⟨q', hrun, hfn, hrep⟩ := @flushFrom_eq _ isMatch (q.heap.live.length + 1) q [] nodes ⟨[], []⟩ hholds hsize
    (Nat.lt_succ_of_le hholds.length_le)
  refine ⟨q', ?_, hfn, hrep⟩
  rw [flushNodes]
  dsimp only [bind, Option.bind]
  rw [hholds.readNext_head]
  exact hrun

theorem flush_eq {q : Queue β} {xs : List (Data β)} (h : Represents q xs) :
    ∃ q', flush q = some (q', flushedOf q.dataFn xs) ∧ q'.dataFn = q.dataFn ∧ Represents q' [] := by
  obtain ⟨nodes, hholds, rfl, hsize⟩ := h
  obtain ⟨q', hrun, hfn, nodes', hholds', hdata, -⟩ := @flushFrom_eq _ (fun _ => true) (q.heap.live.length + 1) q []
    nodes ⟨[], []⟩ hholds hsize (Nat.lt_succ_of_le hholds.length_le)
  have hnil : nodes' = [] := by simpa using hdata
  refine ⟨{ q' with size := 0 }, ?_, hfn, [], hnil ▸ hholds', rfl, rfl⟩
  rw [flush, hholds.readNext_head]
  dsimp only [bind, Option.bind]
  rw [hrun]
  simp [Flushed.append]

theorem serve_eq {q : Queue β} {xs : List (Data β)} {outputs : List (Output β)} {e : Event β} (h : Represents q xs)
    (hfresh : Fresh ⟨q, outputs⟩ e) :
    ∃ q', serve q e = some (q', (apply q.dataFn xs e).2) ∧ q'.dataFn = q.dataFn ∧
      Represents q' (apply q.dataFn xs e).1 := by
  cases e with
  | enqueue data mem =>
    obtain ⟨q', hrun, hfn, hq⟩ := enqueue_eq h data hfresh
    refine ⟨q', ?_, hfn, ?_⟩
    · rw [serve, hrun, apply]
      cases mem <;> rfl
    · rw [apply]
      cases mem <;> exact hq
  | enqueueWithPriority data mem =>
    obtain ⟨q', hrun, hfn, hq⟩ := enqueueWithPriority_eq h data hfresh
    refine ⟨q', ?_, hfn, ?_⟩
    · rw [serve, hrun, apply]
      cases mem <;> rfl
    · rw [apply]
      cases mem <;> exact hq
  | dequeue fromHead =>
    obtain ⟨q', hrun, hfn, hq⟩ := dequeue_eq h fromHead
    refine ⟨q', ?_, hfn, ?_⟩
    · rw [serve, hrun, apply]
      cases fromHead <;> rfl
    · rw [apply]
      cases fromHead <;> exact hq
  | flush =>
    obtain ⟨q', hrun, hfn, hq⟩ := flush_eq h
    exact ⟨q', by rw [serve, hrun]; rfl, hfn, hq⟩
  | flushNodes isMatch =>
    cases isMatch with
    | none => exact ⟨q, rfl, rfl, h⟩
    | some isMatch =>
      obtain ⟨q', hrun, hfn, hq⟩ := flushNodes_eq h isMatch
      exact ⟨q', by rw [serve, hrun]; rfl, hfn, hq⟩

theorem play_eq {s : State β} {xs : List (Data β)} {es : List (Event β)} (h : Represents s.queue xs)
    (hfresh : Runs.Along step Fresh s es) :
    ∃ t, Runs.play step s es = some t ∧ t.outputs = (es.foldl (applyNext s.queue.dataFn) (xs, s.outputs)).2 ∧
      Represents t.queue (es.foldl (applyNext s.queue.dataFn) (xs, s.outputs)).1 := by
  induction es generalizing s xs with
  | nil => exact ⟨s, rfl, rfl, h⟩
  | cons e es ih =>
    obtain ⟨q, hserve, hfn, hq⟩ := serve_eq h hfresh.head
    have hstep : step s e = some ⟨q, s.outputs ++ [(apply s.queue.dataFn xs e).2]⟩ := by
      rw [step, hserve, Option.map_some]
    obtain ⟨t, hrun, hout, hrep⟩ := @ih ⟨q, s.outputs ++ [(apply s.queue.dataFn xs e).2]⟩
      (apply s.queue.dataFn xs e).1 hq (hfresh.tail hstep)
    rw [hfn] at hout hrep
    exact ⟨t, by rw [Runs.play, hstep, Option.bind_some, hrun], hout, hrep⟩

/-- In every run the queue does what the sequence of data does. -/
theorem camera_queue_refines (dataFn : Bool) (es : List (Event β))
    (hfresh : Runs.Along step Fresh ⟨queueInit dataFn, []⟩ es) :
    ∃ t, Runs.play step ⟨queueInit dataFn, []⟩ es = some t ∧ t.outputs = (es.foldl (applyNext dataFn) ([], [])).2 ∧
      Represents t.queue (es.foldl (applyNext dataFn) ([], [])).1 := play_eq (lists_init none) hfresh

def evenOut : List (Event Nat) :=
  [.enqueue (some 1) (some 8), .enqueueWithPriority (some 2) (some 16), .enqueue (some 4) (some 24),
    .flushNodes (some fun data => data.any (· % 2 = 0)), .dequeue true]

theorem camera_queue_refines_even_out :
    ∃ t, Runs.play step ⟨queueInit true, []⟩ evenOut = some t ∧
      t.outputs = [.accepted true, .accepted true, .accepted true, .flushed ⟨[2, 4], [2, 4]⟩, .data (some 1)] ∧
        Represents t.queue [] := camera_queue_refines true evenOut (by decide)

/-- A node without data is taken out and the callback not called. -/
theorem null_data_not_released :
    (Runs.play step ⟨queueInit true, []⟩ [.enqueue (none : Data Nat) (some 8), .flushNodes (some fun _ => true)]).map
      (fun t => (t.queue.size, t.outputs)) = some (0, [.accepted true, .flushed ⟨[], []⟩]) := rfl

end Wt88047.CameraQueue
