import Mathlib.Data.List.Induction
import Wt88047.QCamera.StateMachine

/-! The thread of the state machine, its queue of API calls, its queue of events and the semaphore. -/

namespace Wt88047.QCamera.SmEvtProc

/-- A command of `api_queue`, where `none` is the one to exit, or one of `evt_queue`. -/
abbrev Cmd := Option Input ⊕ Input × Nat

structure World where
  machine : QCameraStateMachine
  apiQueue : List (Option Input) := []
  evtQueue : List (Input × Nat) := []
  cmdSem : Nat := 0
  running : Bool := true
  freed : List Nat := []

/-- `ok` is whether there is memory for the command and the queue takes it. -/
inductive Event
  | procAPI (i : Input) (ok : Bool)
  | procEvt (i : Input) (payload : Nat) (ok : Bool)
  | releaseThread (node enq : Bool)
  | wake

def Event.posts : Event → List Cmd
  | .procAPI i ok => if ok then [.inl (some i)] else []
  | .procEvt i payload ok => if ok then [.inr (i, payload)] else []
  | .releaseThread node enq => if node && enq then [.inl none] else []
  | .wake => []

/-- `releaseThread` does not ask whether the queue has taken its command. -/
def Event.semPosts : Event → Nat
  | .releaseThread node _ => node.toNat
  | e => e.posts.length

def handle (m : QCameraStateMachine) : Cmd → QCameraStateMachine
  | .inl (some i) | .inr (i, _) => m.stateMachine i
  | .inl none => m

def World.turn (w : World) : World :=
  match w.apiQueue, w.evtQueue with
  | c :: rest, _ => { w with apiQueue := rest, machine := handle w.machine (.inl c), running := c.isSome }
  | [], c :: rest =>
    { w with evtQueue := rest, machine := handle w.machine (.inr c), freed := w.freed ++ [c.2] }
  | [], [] => w

def World.step (w : World) : Event → World
  | .wake => if w.running ∧ 0 < w.cmdSem then { w.turn with cmdSem := w.cmdSem - 1 } else w
  | e => { w with
      apiQueue := w.apiQueue ++ e.posts.filterMap Sum.getLeft?
      evtQueue := w.evtQueue ++ e.posts.filterMap Sum.getRight?
      cmdSem := w.cmdSem + e.semPosts }

/-- Of the commands `posted`, the thread has handled `done`. -/
structure Accounts (m : QCameraStateMachine) (posted done : List Cmd) (w : World) : Prop where
  machine : w.machine = done.foldl handle m
  api : posted.filterMap Sum.getLeft? = done.filterMap Sum.getLeft? ++ w.apiQueue
  evt : posted.filterMap Sum.getRight? = done.filterMap Sum.getRight? ++ w.evtQueue
  freed : w.freed = (done.filterMap Sum.getRight?).map Prod.snd
  awake : w.apiQueue.length + w.evtQueue.length ≤ w.cmdSem

variable {m : QCameraStateMachine} {posted done : List Cmd} {w : World}

theorem Accounts.turn (h : Accounts m posted done w) :
    ∃ done', Accounts m posted done' { w.turn with cmdSem := w.cmdSem - 1 } := by
  obtain ⟨hm, ha, he, hf, hs⟩ := h
  unfold World.turn
  split
  · next c rest hq =>
    rw [hq] at ha hs
    refine ⟨done ++ [.inl c], by simp [hm], by simp [ha], by simp [he], by simp [hf], ?_⟩
    simp only [List.length_cons] at hs ⊢
    omega
  · next c rest hq hr =>
    rw [hr] at he hs
    refine ⟨done ++ [.inr c], by simp [hm], by simp [ha], by simp [he], by simp [hf], ?_⟩
    simp only [List.length_cons] at hs ⊢
    omega
  · next hq hr => exact ⟨done, hm, ha, he, hf, by simp [hq, hr]⟩

theorem Accounts.post (h : Accounts m posted done w) (e : Event) :
    Accounts m (posted ++ e.posts) done { w with
      apiQueue := w.apiQueue ++ e.posts.filterMap Sum.getLeft?
      evtQueue := w.evtQueue ++ e.posts.filterMap Sum.getRight?
      cmdSem := w.cmdSem + e.semPosts } := by
  obtain ⟨hm, ha, he, hf, hs⟩ := h
  refine ⟨hm, by simp [ha], by simp [he], hf, ?_⟩
  have hlength : (e.posts.filterMap Sum.getLeft?).length + (e.posts.filterMap Sum.getRight?).length ≤ e.semPosts := by
    cases e with
    | procAPI i ok | procEvt i payload ok => cases ok <;> simp [Event.posts, Event.semPosts]
    | releaseThread node enq => cases node <;> cases enq <;> simp [Event.posts, Event.semPosts]
    | wake => exact Nat.le_refl _
  simp only [List.length_append]
  omega

/-- Every command that is queued is handled once, those of a queue in their order, and the state machine is
where they lead it one after the other. No command is left when the thread sleeps, and each event's payload is
freed once the event is handled. -/
theorem commands_handled_once (m : QCameraStateMachine) (es : List Event) :
    ∃ done, Accounts m (es.flatMap Event.posts) done (es.foldl World.step { machine := m }) := by
  induction es using List.reverseRecOn with
  | nil => exact ⟨[], rfl, rfl, rfl, rfl, Nat.le_refl _⟩
  | append_singleton es e ih =>
    obtain ⟨done, h⟩ := ih
    rw [List.foldl_append, List.flatMap_append, List.flatMap_singleton]
    cases e with
    | wake =>
      rw [Event.posts, List.append_nil, List.foldl_cons, List.foldl_nil, World.step]
      split
      · exact h.turn
      · exact ⟨done, h⟩
    | _ => exact ⟨done, h.post _⟩

end Wt88047.QCamera.SmEvtProc
