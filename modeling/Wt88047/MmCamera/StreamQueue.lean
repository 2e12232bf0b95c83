import Wt88047.Lib.Runs
import Wt88047.MmCamera.StreamSteps

/-! The count of queued buffers, the driver's queue and the entry in the poll thread move
together under the steps of every thread except the one that starts and stops the stream. -/

namespace Wt88047.Stream

open StreamObj

/-- A buffer that DQBUF has handed out and `queued_buffer_count` still covers. -/
def PollPc.uncounted : PollPc → Nat
  | .dequeued _ => 1
  | _ => 0

structure Queued (s : StreamObj) : Prop where
  once : s.kernel.Nodup
  count : s.queuedBufferCount = s.kernel.length + s.poll.uncounted
  polled : s.pollFd = true ↔ 0 < s.queuedBufferCount

structure SameQueue (s t : StreamObj) : Prop where
  kernel : t.kernel = s.kernel
  count : t.queuedBufferCount = s.queuedBufferCount
  pollFd : t.pollFd = s.pollFd
  uncounted : t.poll.uncounted = s.poll.uncounted

theorem Queued.congr {s t : StreamObj} (h : Queued s) (hs : SameQueue s t) : Queued t := by
  refine ⟨?_, ?_, ?_⟩
  · rw [hs.kernel]
    exact h.once
  · rw [hs.count, hs.kernel, hs.uncounted]
    exact h.count
  · rw [hs.pollFd, hs.count]
    exact h.polled

theorem Queued.retract {s : StreamObj} (h : Queued s) : Queued s.addQueued.dropQueued := by
  have hc := h.count
  have hp := h.polled
  refine ⟨h.once, ?_, ?_⟩
  · simp only [addQueued, dropQueued]
    omega
  · simp only [addQueued, dropQueued, Bool.and_eq_true, Bool.or_eq_true, beq_iff_eq, bne_iff_ne]
    rw [hp]
    omega

theorem Queued.push {s : StreamObj} {b : Nat} (h : Queued s) (hb : b ∉ s.kernel) :
    Queued (s.enq b) := by
  have hc := h.count
  have hp := h.polled
  refine ⟨List.nodup_cons.mpr ⟨hb, h.once⟩, ?_, ?_⟩
  · simp only [enq, addQueued, List.length_cons]
    omega
  · simp only [enq, addQueued, Bool.or_eq_true, beq_iff_eq]
    rw [hp]
    omega

theorem bufDone_same {s u : StreamObj} {b : Nat} (q : QbufRc) (hs : SameQueue s u)
    (h : u.refcnt b ≠ 1) : SameQueue s (u.bufDone b q).2 := by
  obtain ⟨-, ht⟩ | ⟨-, ht⟩ | ⟨h1, -⟩ | ⟨h1, -⟩ := bufDone_cases b q u
  · rwa [ht]
  · rw [ht]
    exact ⟨hs.kernel, hs.count, hs.pollFd, hs.uncounted⟩
  · exact absurd h1 h
  · exact absurd h1 h

theorem bufDone_queued {s : StreamObj} (b : Nat) (q : QbufRc) (h : Queued s) :
    Queued (s.bufDone b q).2 := by
  have hs : Queued (s.setRefcnt b 0) := h.congr ⟨rfl, rfl, rfl, rfl⟩
  obtain ⟨h0, -⟩ | ⟨h2, -⟩ | ⟨-, -, hk, ht⟩ | ⟨-, -, ht | ht⟩ := bufDone_cases b q s
  · exact h.congr (bufDone_same q ⟨rfl, rfl, rfl, rfl⟩ (by omega))
  · exact h.congr (bufDone_same q ⟨rfl, rfl, rfl, rfl⟩ (by omega))
  · rw [ht]
    have hp : Queued ((s.setRefcnt b 0).enq b) := hs.push hk
    exact hp.congr ⟨rfl, rfl, rfl, rfl⟩
  · rw [ht]
    exact hs
  · rw [ht]
    exact hs.retract

theorem dqbuf_queued {s t : StreamObj} {o : Option Nat} (h : Queued s)
    (ht : s.dqbuf o = some t) : Queued t := by
  obtain ⟨hpc, -, rfl | ⟨b, hb, rfl⟩⟩ := dqbuf_some ht
  · exact h
  · have hc := h.count
    have hlen := List.length_erase_of_mem hb
    have hpos := List.length_pos_of_mem hb
    refine ⟨h.once.erase b, ?_, h.polled⟩
    simp only [hpc, PollPc.uncounted] at hc ⊢
    omega

theorem countFrame_queued {s t : StreamObj} {ok : Bool} (h : Queued s)
    (ht : s.countFrame ok = some t) : Queued t := by
  obtain ⟨b, hpc, rfl⟩ := countFrame_some ht
  have hc := h.count
  have hp := h.polled
  have hu : (if ok then PollPc.received b else PollPc.idle).uncounted = 0 := by
    cases ok <;> rfl
  simp only [hpc, PollPc.uncounted] at hc
  refine ⟨h.once, ?_, ?_⟩
  · show s.queuedBufferCount - 1 = s.kernel.length + (PollPc.uncounted _ : Nat)
    rw [hu]
    omega
  · simp only [dropQueued, Bool.and_eq_true, bne_iff_ne]
    rw [hp]
    omega

def lastRelease (s : StreamObj) : Event → Option Nat
  | .passOn _ _ =>
    match s.poll with
    | .linked b _ => if s.skips ∧ s.refcnt b = 1 then some b else none
    | _ => none
  | .doneNode _ =>
    match s.app with
    | some (b, _) => if s.refcnt b = 1 then some b else none
    | none => none
  | .release _ b _ => if s.state = .active ∧ s.refcnt b = 1 then some b else none
  | _ => none

/-- `t` is `s` but for what the threads of the stream do to references, callbacks and nodes. -/
structure Untouched (s t : StreamObj) : Prop extends Frame s t, SameQueue s t where
  delivered : t.delivered = s.delivered
  requeued : t.requeued = s.requeued

inductive Effect (s : StreamObj) (e : Event) (t : StreamObj) : Prop
  | read (o : Option Nat) (he : e = .dqbuf o) (ht : s.dqbuf o = some t)
  | count (ok : Bool) (ht : s.countFrame ok = some t)
  | done (b : Nat) (q : QbufRc) (u : StreamObj) (ht : t = (u.bufDone b q).2)
    (hu : Untouched s u) (hr : u.refcnt b = s.refcnt b)
    (hl : s.refcnt b = 1 → lastRelease s e = some b)
  | none (h : Untouched s t)

variable {s t : StreamObj} {e : Event}

theorem step_effect (he : e.isControl = false) (ht : step s e = some t) : Effect s e t := by
  cases e with
  | dqbuf o => exact .read o rfl ht
  | countFrame ok => exact .count ok ht
  | checkCb =>
    obtain ⟨b, hpc, -, rfl⟩ := checkCb_some ht
    exact .none ⟨⟨rfl, rfl, rfl, rfl, rfl⟩, ⟨rfl, rfl, rfl, by rw [hpc]; rfl⟩, rfl, rfl⟩
  | addRefs =>
    obtain ⟨b, c, hpc, rfl⟩ := addRefs_some ht
    exact .none ⟨⟨rfl, rfl, rfl, rfl, rfl⟩, ⟨rfl, rfl, rfl, by rw [hpc]; rfl⟩, rfl, rfl⟩
  | notifyBundle ok =>
    obtain ⟨b, c, hpc, rfl⟩ := notifyBundle_some ht
    exact .none ⟨⟨rfl, rfl, rfl, rfl, rfl⟩, ⟨rfl, rfl, rfl, by rw [hpc]; rfl⟩, rfl, rfl⟩
  | notifyLinked ok =>
    obtain ⟨b, c, hpc, ⟨-, rfl⟩ | ⟨-, rfl⟩⟩ := notifyLinked_some ht <;>
      exact .none ⟨⟨rfl, rfl, rfl, rfl, rfl⟩, ⟨rfl, rfl, rfl, by rw [hpc]; rfl⟩, rfl, rfl⟩
  | passOn ok q =>
    obtain ⟨b, c, hpc, ⟨hs, rfl⟩ | ⟨-, -, rfl⟩ | ⟨-, -, rfl⟩⟩ := passOn_some ht
    · refine .done b q _ rfl
        ⟨⟨rfl, rfl, rfl, rfl, rfl⟩, ⟨rfl, rfl, rfl, by rw [hpc]; rfl⟩, rfl, rfl⟩ rfl fun h1 => ?_
      simp [lastRelease, hpc, hs, h1]
    · exact .none ⟨⟨rfl, rfl, rfl, rfl, rfl⟩, ⟨rfl, rfl, rfl, by rw [hpc]; rfl⟩, rfl, rfl⟩
    · exact .none ⟨⟨rfl, rfl, rfl, rfl, rfl⟩, ⟨rfl, rfl, rfl, by rw [hpc]; rfl⟩, rfl, rfl⟩
  | takeNode =>
    obtain ⟨b, rest, -, -, rfl⟩ := takeNode_some ht
    exact .none ⟨⟨rfl, rfl, rfl, rfl, rfl⟩, ⟨rfl, rfl, rfl, rfl⟩, rfl, rfl⟩
  | callback =>
    obtain ⟨b, i, cbs, -, rfl | rfl⟩ := callback_some ht <;>
      exact .none ⟨⟨rfl, rfl, rfl, rfl, rfl⟩, ⟨rfl, rfl, rfl, rfl⟩, rfl, rfl⟩
  | doneNode q =>
    obtain ⟨b, i, happ, rfl⟩ := doneNode_some ht
    refine .done b q _ rfl ⟨⟨rfl, rfl, rfl, rfl, rfl⟩, ⟨rfl, rfl, rfl, rfl⟩, rfl, rfl⟩ rfl
      fun h1 => ?_
    simp [lastRelease, happ, h1]
  | release d b q =>
    obtain ⟨-, ⟨hs, rfl⟩ | ⟨-, rfl⟩⟩ := release_some ht
    · refine .done b q _ rfl ⟨⟨rfl, rfl, rfl, rfl, rfl⟩, ⟨rfl, rfl, rfl, rfl⟩, rfl, rfl⟩ rfl
        fun h1 => ?_
      simp [lastRelease, hs, h1]
    · exact .none ⟨⟨rfl, rfl, rfl, rfl, rfl⟩, ⟨rfl, rfl, rfl, rfl⟩, rfl, rfl⟩
  | regBufCb c =>
    obtain ⟨-, cbs, rfl⟩ := regBufCb_some ht
    exact .none ⟨⟨rfl, rfl, rfl, rfl, rfl⟩, ⟨rfl, rfl, rfl, rfl⟩, rfl, rfl⟩
  | setLinked on =>
    obtain rfl := Option.some.inj ht
    exact .none ⟨⟨rfl, rfl, rfl, rfl, rfl⟩, ⟨rfl, rfl, rfl, rfl⟩, rfl, rfl⟩
  | setPreviewSkip n =>
    obtain rfl := Option.some.inj ht
    exact .none ⟨⟨rfl, rfl, rfl, rfl, rfl⟩, ⟨rfl, rfl, rfl, rfl⟩, rfl, rfl⟩
  | control c => simp [Event.isControl] at he

theorem step_frame (he : e.isControl = false) (ht : step s e = some t) : Frame s t := by
  cases step_effect he ht with
  | read o he ht =>
    obtain ⟨-, -, rfl | ⟨b, -, rfl⟩⟩ := dqbuf_some ht <;> exact ⟨rfl, rfl, rfl, rfl, rfl⟩
  | count ok ht =>
    obtain ⟨b, -, rfl⟩ := countFrame_some ht
    exact ⟨rfl, rfl, rfl, rfl, rfl⟩
  | done b q u ht hu hr hl => exact ht ▸ bufDone_frame b q hu.toFrame
  | none h => exact h.toFrame

theorem step_same (he : e.isControl = false) (hd : ∀ o, e ≠ .dqbuf o)
    (hu : s.poll.uncounted = 0) (hl : lastRelease s e = none) (ht : step s e = some t) :
    SameQueue s t := by
  cases step_effect he ht with
  | read o he ht => exact absurd he (hd o)
  | count ok ht =>
    obtain ⟨b, hpc, -⟩ := countFrame_some ht
    simp [hpc, PollPc.uncounted] at hu
  | done b q u ht hs hr hlast =>
    refine ht ▸ bufDone_same q hs.toSameQueue fun h1 => ?_
    simp [hlast (hr.symm.trans h1)] at hl
  | none h => exact h.toSameQueue

theorem step_uncounted (he : e.isControl = false) (ht : step s e = some t)
    (hu : t.poll.uncounted ≠ 0) : s.state = .active ∨ s.poll.uncounted ≠ 0 := by
  cases step_effect he ht with
  | read o he ht => exact Or.inl (dqbuf_some ht).2.1
  | count ok ht =>
    obtain ⟨b, -, rfl⟩ := countFrame_some ht
    cases ok <;> exact absurd rfl hu
  | done b q u ht hs hr hl =>
    rw [ht, bufDone_poll, hs.uncounted] at hu
    exact Or.inr hu
  | none h => exact Or.inr (h.uncounted ▸ hu)

theorem step_queued (h : Queued s) (he : e.isControl = false) (ht : step s e = some t) :
    Queued t := by
  cases step_effect he ht with
  | read o he ht => exact dqbuf_queued h ht
  | count ok ht => exact countFrame_queued h ht
  | done b q u ht hu hr hl => exact ht ▸ bufDone_queued b q (h.congr hu.toSameQueue)
  | none hs => exact h.congr hs.toSameQueue

end Wt88047.Stream
