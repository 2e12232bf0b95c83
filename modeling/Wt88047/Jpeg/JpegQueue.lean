import Wt88047.Lib.Runs
import Wt88047.MmCamera.CamList

/-! The queues of the JPEG interface: their operations on the list of nodes, and those on a sequence of data that they
stand for. -/

namespace Wt88047.JpegQueue

open CamList

structure Job where
  isDecode : Bool
  encClientHandle : UInt32
  encSessionId : UInt32
  encJobId : UInt32
  decJobId : UInt32
  deriving DecidableEq

abbrev Data := Option Job

structure Queue where
  heap : Heap Data
  size : Int

def queueInit : Queue := ⟨.init none, 0⟩

/-- `mem` is what `malloc` gives. -/
def queueEnq (q : Queue) (data : Data) (mem : Option Addr) : Option (Queue × Int) :=
  match mem with
  | none => some (q, -1)
  | some node => do
    let heap ← (q.heap.alloc node data).addTailNode node head
    some (⟨heap, q.size + 1⟩, 0)

def queueEnqHead (q : Queue) (data : Data) (mem : Option Addr) : Option (Queue × Int) :=
  match mem with
  | none => some (q, -1)
  | some node => do
    let heap := q.heap.alloc node data
    let pos ← heap.readNext head
    let heap ← heap.insertBeforeNode node pos
    some (⟨heap, q.size + 1⟩, 0)

def queueDeq (q : Queue) : Option (Queue × Data) := do
  let pos ← q.heap.readNext head
  if pos ≠ head then do
    let heap ← q.heap.delNode pos
    let data ← heap.readData pos
    let heap ← heap.free pos
    some (⟨heap, q.size - 1⟩, data)
  else some (q, none)

def removeFrom (isMatch : Job → Bool) : Nat → Addr → Queue → Option (Queue × Data)
  | 0, _, _ => none
  | n + 1, pos, q =>
    if pos = head then some (q, none)
    else do
      let data ← q.heap.readData pos
      match data.filter isMatch with
      | some job => do
        let heap ← q.heap.delNode pos
        let heap ← heap.free pos
        some (⟨heap, q.size - 1⟩, some job)
      | none => do
        let pos ← q.heap.readNext pos
        removeFrom isMatch n pos q

def removeJob (isMatch : Job → Bool) (q : Queue) : Option (Queue × Data) := do
  let pos ← q.heap.readNext head
  removeFrom isMatch (q.heap.live.length + 1) pos q

def Job.hasClientId (clientHdl : UInt32) (job : Job) : Bool := job.encClientHandle = clientHdl

def Job.hasSessionId (sessionId : UInt32) (job : Job) : Bool := job.encSessionId = sessionId

def Job.hasJobId (jobId : UInt32) (job : Job) : Bool :=
  (if job.isDecode then job.decJobId else job.encJobId) = jobId

def queueRemoveJobByClientId (q : Queue) (clientHdl : UInt32) : Option (Queue × Data) :=
  removeJob (Job.hasClientId clientHdl) q

def queueRemoveJobBySessionId (q : Queue) (sessionId : UInt32) : Option (Queue × Data) :=
  removeJob (Job.hasSessionId sessionId) q

def queueRemoveJobByJobId (q : Queue) (jobId : UInt32) : Option (Queue × Data) :=
  removeJob (Job.hasJobId jobId) q

def flushFrom : Nat → Addr → Queue → List Job → Option (Queue × List Job)
  | 0, _, _, _ => none
  | n + 1, pos, q, freed =>
    if pos = head then some ({ q with size := 0 }, freed)
    else do
      let heap ← q.heap.delNode pos
      let data ← heap.readData pos
      let heap ← heap.free pos
      let pos ← heap.readNext pos
      flushFrom n pos ⟨heap, q.size - 1⟩ (freed ++ data.toList)

def queueFlush (q : Queue) : Option (Queue × List Job) := do
  let pos ← q.heap.readNext head
  flushFrom (q.heap.live.length + 1) pos q []

inductive Event
  | enq (data : Data) (mem : Option Addr)
  | enqHead (data : Data) (mem : Option Addr)
  | deq
  | removeByClientId (clientHdl : UInt32)
  | removeBySessionId (sessionId : UInt32)
  | removeByJobId (jobId : UInt32)
  | flush

inductive Output
  | result (rc : Int)
  | data (data : Data)
  | freed (jobs : List Job)
  deriving DecidableEq

def serve (q : Queue) : Event → Option (Queue × Output)
  | .enq data mem => (queueEnq q data mem).map fun r => (r.1, .result r.2)
  | .enqHead data mem => (queueEnqHead q data mem).map fun r => (r.1, .result r.2)
  | .deq => (queueDeq q).map fun r => (r.1, .data r.2)
  | .removeByClientId clientHdl => (queueRemoveJobByClientId q clientHdl).map fun r => (r.1, .data r.2)
  | .removeBySessionId sessionId => (queueRemoveJobBySessionId q sessionId).map fun r => (r.1, .data r.2)
  | .removeByJobId jobId => (queueRemoveJobByJobId q jobId).map fun r => (r.1, .data r.2)
  | .flush => (queueFlush q).map fun r => (r.1, .freed r.2)

def removeFirst (isMatch : Job → Bool) (xs : List Data) : List Data × Output :=
  (xs.eraseP fun data => data.any isMatch, .data (xs.find? fun data => data.any isMatch).join)

def apply (xs : List Data) : Event → List Data × Output
  | .enq data mem => if mem.isSome then (xs ++ [data], .result 0) else (xs, .result (-1))
  | .enqHead data mem => if mem.isSome then (data :: xs, .result 0) else (xs, .result (-1))
  | .deq => (xs.tail, .data xs.head?.join)
  | .removeByClientId clientHdl => removeFirst (Job.hasClientId clientHdl) xs
  | .removeBySessionId sessionId => removeFirst (Job.hasSessionId sessionId) xs
  | .removeByJobId jobId => removeFirst (Job.hasJobId jobId) xs
  | .flush => ([], .freed xs.reduceOption)

structure State where
  queue : Queue
  outputs : List Output

def step (s : State) (e : Event) : Option State :=
  (serve s.queue e).map fun r => ⟨r.1, s.outputs ++ [r.2]⟩

def applyNext (s : List Data × List Output) (e : Event) : List Data × List Output :=
  ((apply s.1 e).1, s.2 ++ [(apply s.1 e).2])

def Fresh (s : State) : Event → Prop
  | .enq _ mem => ∀ p ∈ mem, s.queue.heap.Fresh p
  | .enqHead _ mem => ∀ p ∈ mem, s.queue.heap.Fresh p
  | _ => True

instance (s : State) : (e : Event) → Decidable (Fresh s e)
  | .enq _ mem => inferInstanceAs (Decidable (∀ p ∈ mem, s.queue.heap.Fresh p))
  | .enqHead _ mem => inferInstanceAs (Decidable (∀ p ∈ mem, s.queue.heap.Fresh p))
  | .deq => inferInstanceAs (Decidable True)
  | .removeByClientId _ => inferInstanceAs (Decidable True)
  | .removeBySessionId _ => inferInstanceAs (Decidable True)
  | .removeByJobId _ => inferInstanceAs (Decidable True)
  | .flush => inferInstanceAs (Decidable True)

def FlushesEmpty (s : State) : Event → Prop
  | .flush => s.queue.size = 0
  | _ => True

def Represents (q : Queue) (xs : List Data) : Prop := q.heap.Lists q.size xs

theorem represents_init : Represents queueInit [] := lists_init none

theorem queueEnq_eq {q : Queue} {xs : List Data} (h : Represents q xs) (data : Data) {mem : Option Addr}
    (hmem : ∀ p ∈ mem, q.heap.Fresh p) :
    ∃ q', queueEnq q data mem = some (q', if mem.isSome then 0 else -1) ∧
      Represents q' (if mem.isSome then xs ++ [data] else xs) := by
  cases mem with
  | none => exact ⟨q, rfl, h⟩
  | some p =>
    obtain ⟨heap, hadd, hlists⟩ := h.add_tail (hmem p rfl) data
    refine ⟨⟨heap, q.size + 1⟩, ?_, hlists⟩
    rw [queueEnq, hadd]
    rfl

theorem queueEnqHead_eq {q : Queue} {xs : List Data} (h : Represents q xs) (data : Data) {mem : Option Addr}
    (hmem : ∀ p ∈ mem, q.heap.Fresh p) :
    ∃ q', queueEnqHead q data mem = some (q', if mem.isSome then 0 else -1) ∧
      Represents q' (if mem.isSome then data :: xs else xs) := by
  cases mem with
  | none => exact ⟨q, rfl, h⟩
  | some p =>
    obtain ⟨nodes, hholds, rfl, hsize⟩ := h
    obtain ⟨heap, hinsert, hholds', hdata⟩ := hholds.insert_before_first (hmem p rfl) data
    refine ⟨⟨heap, q.size + 1⟩, ?_, p :: nodes, hholds', hdata, by simp [hsize]⟩
    have hread : (q.heap.alloc p data).readNext head = some (q.heap.links.next head) := if_pos (.inl rfl)
    rw [queueEnqHead]
    dsimp only [bind, Option.bind]
    rw [hread]
    dsimp only
    rw [hinsert]
    rfl

theorem queueDeq_eq {q : Queue} {xs : List Data} (h : Represents q xs) :
    ∃ q', queueDeq q = some (q', xs.head?.join) ∧ Represents q' xs.tail := by
  rcases h.first with ⟨rfl, hread⟩ | ⟨data, rest, pos, heap, heap', rfl, hread, hne, hdel, hdata, hfree, hlists⟩
  · refine ⟨q, ?_, h⟩
    rw [queueDeq, hread]
    rfl
  · refine ⟨⟨heap', q.size - 1⟩, ?_, hlists⟩
    rw [queueDeq, hread]
    dsimp only [bind, Option.bind]
    rw [if_pos hne, hdel]
    dsimp only
    rw [hdata]
    dsimp only
    rw [hfree]
    simp

theorem removeFrom_eq {isMatch : Job → Bool} {n : Nat} {q : Queue} {xs ys : List Addr} (h : q.heap.Holds (xs ++ ys))
    (hsize : q.size = (xs ++ ys).length) (hn : ys.length < n)
    (hxs : ∀ data ∈ xs.map q.heap.data, ¬ data.any isMatch = true) :
    ∃ q', removeFrom isMatch n (ys.headD head) q =
        some (q', (((xs ++ ys).map q.heap.data).find? fun data => data.any isMatch).join) ∧
      Represents q' (((xs ++ ys).map q.heap.data).eraseP fun data => data.any isMatch) := by
  induction ys generalizing xs n with
  | nil =>
    obtain ⟨n, rfl⟩ : ∃ m, n = m + 1 := ⟨n - 1, by omega⟩
    rw [List.append_nil] at h hsize ⊢
    refine ⟨q, ?_, xs, h, (List.eraseP_of_forall_not hxs).symm, hsize⟩
    rw [removeFrom, List.headD_nil, if_pos rfl, List.find?_eq_none.mpr hxs]
    rfl
  | cons p ys ih =>
    obtain ⟨n, rfl⟩ : ∃ m, n = m + 1 := ⟨n - 1, by omega⟩
    have hp : p ∈ xs ++ p :: ys := List.mem_append_right xs List.mem_cons_self
    have hread := h.readData_mem hp
    rw [removeFrom, List.headD_cons, if_neg (h.ne_head hp), hread]
    dsimp only [bind, Option.bind]
    cases hdata : (q.heap.data p).filter isMatch with
    | some job =>
      obtain ⟨hjob, hmatch⟩ := Option.filter_eq_some_iff.mp hdata
      have hany : (q.heap.data p).any isMatch = true := by rw [hjob, Option.any_some, hmatch]
      obtain ⟨heap, hdel, -, -, heap', hfree, hholds, hdata', -⟩ := h.del
      refine ⟨⟨heap', q.size - 1⟩, ?_, xs ++ ys, hholds, ?_, by simp [hsize]; omega⟩
      · dsimp only
        rw [hdel]
        dsimp only
        rw [hfree, List.map_append, List.find?_append, List.find?_eq_none.mpr hxs, List.map_cons,
          List.find?_cons_of_pos hany, hjob]
        rfl
      · rw [hdata', List.map_append, List.map_append, List.eraseP_append_right _ hxs, List.map_cons,
          List.eraseP_cons_of_pos hany]
    | none =>
      have hany : ¬ (q.heap.data p).any isMatch = true := by
        cases hjob : q.heap.data p with
        | none => exact Bool.false_ne_true
        | some job =>
          rw [hjob, Option.filter_eq_none_iff] at hdata
          exact hdata job rfl
      have hassoc : xs ++ p :: ys = xs ++ [p] ++ ys := by simp
      dsimp only
      rw [h.readNext_mem]
      rw [hassoc] at h hsize ⊢
      refine ih h hsize (by simpa using hn) ?_
      simp only [List.map_append, List.mem_append, List.map_cons, List.map_nil, List.mem_singleton]
      rintro data (hmem | rfl)
      · exact hxs data hmem
      · exact hany

theorem removeJob_eq {q : Queue} {xs : List Data} (h : Represents q xs) (isMatch : Job → Bool) :
    ∃ q', removeJob isMatch q = some (q', (xs.find? fun data => data.any isMatch).join) ∧
      Represents q' (xs.eraseP fun data => data.any isMatch) := by
  obtain ⟨nodes, hholds, rfl, hsize⟩ := h
  have hwalk := @removeFrom_eq isMatch (q.heap.live.length + 1) q [] nodes hholds hsize
    (Nat.lt_succ_of_le hholds.length_le) nofun
  rw [removeJob, hholds.readNext_head]
  exact hwalk

theorem queueFlush_empty {q : Queue} (h : Represents q []) :
    ∃ q', queueFlush q = some (q', []) ∧ Represents q' [] := by
  obtain ⟨nodes, hholds, hdata, hsize⟩ := h
  obtain rfl := List.map_eq_nil_iff.mp hdata
  refine ⟨{ q with size := 0 }, ?_, [], hholds, rfl, rfl⟩
  rw [queueFlush, hholds.readNext_head]
  rfl

theorem queueFlush_fails {q : Queue} {xs : List Data} (h : Represents q xs) (hxs : xs ≠ []) : queueFlush q = none := by
  obtain ⟨nodes, hholds, rfl, hsize⟩ := h
  cases nodes with
  | nil => exact absurd rfl hxs
  | cons p nodes =>
    obtain ⟨heap, hdel, hdata, hlive, heap', hfree, hholds', -, hgone⟩ := @Heap.Holds.del _ _ [] nodes p hholds
    have hne := hholds.ne_head List.mem_cons_self
    have hread : heap.readData p = some (q.heap.data p) := (if_pos hlive).trans (congrArg some (congrFun hdata p))
    have hdangling : heap'.readNext p = none := if_neg (not_or.mpr ⟨hne, hgone⟩)
    rw [queueFlush, hholds.readNext_head]
    dsimp only [bind, Option.bind, List.headD_cons]
    rw [flushFrom, if_neg hne, hdel]
    dsimp only [bind, Option.bind]
    rw [hread]
    dsimp only
    rw [hfree]
    dsimp only
    rw [hdangling]

theorem serve_eq {q : Queue} {xs : List Data} {outputs : List Output} {e : Event} (h : Represents q xs)
    (hfresh : Fresh ⟨q, outputs⟩ e) (hflush : FlushesEmpty ⟨q, outputs⟩ e) :
    ∃ q', serve q e = some (q', (apply xs e).2) ∧ Represents q' (apply xs e).1 := by
  cases e with
  | enq data mem =>
    obtain ⟨q', hrun, hq⟩ := queueEnq_eq h data hfresh
    refine ⟨q', ?_, ?_⟩
    · rw [serve, hrun, apply]
      cases mem <;> rfl
    · rw [apply]
      cases mem <;> exact hq
  | enqHead data mem =>
    obtain ⟨q', hrun, hq⟩ := queueEnqHead_eq h data hfresh
    refine ⟨q', ?_, ?_⟩
    · rw [serve, hrun, apply]
      cases mem <;> rfl
    · rw [apply]
      cases mem <;> exact hq
  | deq =>
    obtain ⟨q', hrun, hq⟩ := queueDeq_eq h
    exact ⟨q', by rw [serve, hrun]; rfl, hq⟩
  | removeByClientId clientHdl =>
    obtain ⟨q', hrun, hq⟩ := removeJob_eq h (Job.hasClientId clientHdl)
    exact ⟨q', by rw [serve, queueRemoveJobByClientId, hrun]; rfl, hq⟩
  | removeBySessionId sessionId =>
    obtain ⟨q', hrun, hq⟩ := removeJob_eq h (Job.hasSessionId sessionId)
    exact ⟨q', by rw [serve, queueRemoveJobBySessionId, hrun]; rfl, hq⟩
  | removeByJobId jobId =>
    obtain ⟨q', hrun, hq⟩ := removeJob_eq h (Job.hasJobId jobId)
    exact ⟨q', by rw [serve, queueRemoveJobByJobId, hrun]; rfl, hq⟩
  | flush =>
    obtain rfl := h.size_eq_zero_iff.mp hflush
    obtain ⟨q', hrun, hq⟩ := queueFlush_empty h
    exact ⟨q', by rw [serve, hrun]; rfl, hq⟩

theorem serve_fails {q : Queue} {xs : List Data} {outputs : List Output} {e : Event} (h : Represents q xs)
    (hflush : ¬ FlushesEmpty ⟨q, outputs⟩ e) : serve q e = none := by
  cases e with
  | flush =>
    have hfail := queueFlush_fails h fun hnil => hflush (h.size_eq_zero_iff.mpr hnil)
    rw [serve, hfail]
    rfl
  | _ => exact absurd trivial hflush

theorem play_eq {s : State} {xs : List Data} {es : List Event} (h : Represents s.queue xs)
    (hfresh : Runs.Along step Fresh s es) :
    (Runs.Along step FlushesEmpty s es → ∃ t, Runs.play step s es = some t ∧
      t.outputs = (es.foldl applyNext (xs, s.outputs)).2 ∧
        Represents t.queue (es.foldl applyNext (xs, s.outputs)).1) ∧
    (¬ Runs.Along step FlushesEmpty s es → Runs.play step s es = none) := by
  induction es generalizing s xs with
  | nil => exact ⟨fun _ => ⟨s, rfl, rfl, h⟩, fun hnot => absurd trivial hnot⟩
  | cons e es ih =>
    by_cases hflush : FlushesEmpty s e
    · obtain ⟨q, hserve, hq⟩ := serve_eq h hfresh.head hflush
      have hstep : step s e = some ⟨q, s.outputs ++ [(apply xs e).2]⟩ := by rw [step, hserve, Option.map_some]
      have hplay : Runs.play step s (e :: es) = Runs.play step ⟨q, s.outputs ++ [(apply xs e).2]⟩ es := by
        rw [Runs.play, hstep, Option.bind_some]
      have hrest := @ih ⟨q, s.outputs ++ [(apply xs e).2]⟩ (apply xs e).1 hq (hfresh.tail hstep)
      rw [hplay]
      refine ⟨fun hall => hrest.1 (hall.tail hstep), fun hnot => hrest.2 fun hall => hnot ⟨hflush, fun t ht => ?_⟩⟩
      rw [hstep] at ht
      exact Option.some.inj ht ▸ hall
    · refine ⟨fun hall => absurd hall.head hflush, fun _ => ?_⟩
      rw [Runs.play, step, serve_fails h hflush]
      rfl

/-- The queue does what the sequence of data does exactly if no flush meets a node. -/
theorem queue_refines (es : List Event) (hfresh : Runs.Along step Fresh ⟨queueInit, []⟩ es) :
    (∃ t, Runs.play step ⟨queueInit, []⟩ es = some t ∧ t.outputs = (es.foldl applyNext ([], [])).2 ∧
      Represents t.queue (es.foldl applyNext ([], [])).1) ↔ Runs.Along step FlushesEmpty ⟨queueInit, []⟩ es := by
  obtain ⟨hserves, hfails⟩ := play_eq (s := ⟨queueInit, []⟩) represents_init hfresh
  refine ⟨fun h => ?_, hserves⟩
  obtain ⟨t, hrun, -⟩ := h
  by_contra hnot
  rw [hfails hnot] at hrun
  cases hrun

def aJob : Job := ⟨false, 1, 2, 3, 3⟩

theorem queue_refines_removal :
    (∃ t, Runs.play step ⟨queueInit, []⟩ [.enq (some aJob) (some 8), .enqHead none (some 16), .removeBySessionId 2] =
        some t ∧ t.outputs = [.result 0, .result 0, .data (some aJob)] ∧ Represents t.queue [none]) ↔
      Runs.Along step FlushesEmpty ⟨queueInit, []⟩
        [.enq (some aJob) (some 8), .enqHead none (some 16), .removeBySessionId 2] :=
  queue_refines [.enq (some aJob) (some 8), .enqHead none (some 16), .removeBySessionId 2] (by decide)

theorem flush_follows_freed_node : Runs.play step ⟨queueInit, []⟩ [.enq (some aJob) (some 8), .flush] = none := rfl

end Wt88047.JpegQueue
