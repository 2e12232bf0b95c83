import Wt88047.Lib.Runs
import Wt88047.Lib.Custody
import Wt88047.MmCamera.Superbuf

/-! Adding streams to a channel: who releases the stream-info buffer of each. -/

namespace Wt88047.StreamInfo

open Custody
open Superbuf (StreamType)

inductive Held
  | memory (b : Nat)
  | mapping (b : Nat)
  deriving DecidableEq

structure Stream where
  handle : Bool
  streamInfoBuf : Option Nat
  deriving DecidableEq

structure World where
  streams : List Stream := []
  next : Nat := 0
  log : List (Event Held) := []

def World.record (events : List (Event Held)) (w : World) : World := { w with log := w.log ++ events }

/-- How the steps of adding a stream go. `size` is false where `getSize` returns `BAD_INDEX`;
`config` is `calcOffset` or `config_stream`. -/
structure Steps where
  object : Bool
  addStream : Bool
  size : Bool
  map : Bool
  config : Bool

def maxStreamNumInBundle : Nat := 4

/-- `err1` leaves neither a handle nor the buffer. -/
def err1 : Stream := { handle := false, streamInfoBuf := none }

def init (deffered : Bool) (o : Steps) (b : Nat) (w : World) : World × Stream × Bool :=
  if !o.addStream then (w, { handle := false, streamInfoBuf := none }, false)
  else if !o.size then (w, err1, true) -- `rc` is still `OK`
  else if !o.map then (w, err1, false)
  else
    let w := w.record [.take (.mapping b)]
    if o.config then (w, { handle := true, streamInfoBuf := some b }, true)
    else if deffered then (w, err1, false)
    else (w.record [.give (.mapping b)], err1, false) -- `configStream` unmaps when it fails

def destructor (s : Stream) (w : World) : World :=
  match s.streamInfoBuf with
  | some b => w.record [.give (.mapping b), .give (.memory b)]
  | none => w

def addStream (deffered : Bool) (o : Steps) (b : Nat) (w : World) : World × Bool :=
  if maxStreamNumInBundle ≤ w.streams.length then (w, false)
  else if !o.object then (w, false)
  else
    match init deffered o b w with
    | (w, s, true) => ({ w with streams := w.streams ++ [s] }, true)
    | (w, s, false) => (destructor s w, false)

def allocateStreamInfoBuf (memory : Bool) (w : World) : World × Option Nat :=
  if memory then ({ w.record [.take (.memory w.next)] with next := w.next + 1 }, some w.next) else (w, none)

structure Mode where
  zsl : Bool
  longshot : Bool
  recordingHint : Bool

def deffers (m : Mode) (t : StreamType) : Bool :=
  (t == .snapshot || t == .postview || t == .metadata || t == .raw) &&
    !m.zsl && !m.longshot && !m.recordingHint

def queues (t : StreamType) : Bool := t == .snapshot || t == .metadata || t == .raw

structure Call where
  mode : Mode
  streamType : StreamType
  memory : Bool
  steps : Steps
  queue : Bool

def Call.deffered (c : Call) : Bool := deffers c.mode c.streamType

/-- `queueDefferedWork` is called and returns -1. -/
def Call.unqueued (c : Call) : Bool := c.deffered && queues c.streamType && !c.queue

def addStreamToChannel (c : Call) (w : World) : World × Bool :=
  match allocateStreamInfoBuf c.memory w with
  | (w, none) => (w, false)
  | (w, some b) =>
    let (w, ok) := addStream c.deffered c.steps b w
    if ok && !c.unqueued then (w, true) else (w.record [.give (.memory b)], false)

/-- A stream of the source channel. `originalType` is what a stream that is itself reprocessed
started from. -/
structure Source where
  streamType : StreamType
  originalType : Option StreamType
  needThumbnail : Bool
  maskLeft : Bool
  memory : Bool
  steps : Steps

def Source.thumbnail (s : Source) : Bool :=
  s.streamType == .preview || s.streamType == .postview ||
    s.originalType == some .preview || s.originalType == some .postview

def Source.skipped (s : Source) : Bool :=
  s.streamType == .metadata || s.streamType == .raw || (s.thumbnail && !(s.needThumbnail && s.maskLeft))

def addReprocStreamsFromSource : List Source → World → World × Bool
  | [], w => (w, true)
  | s :: rest, w =>
    if s.skipped then addReprocStreamsFromSource rest w
    else
      match allocateStreamInfoBuf s.memory w with
      | (w, none) => (w, false)
      | (w, some b) =>
        match addStream false s.steps b w with
        | (w, true) => addReprocStreamsFromSource rest w
        | (w, false) => (w, false)

def destroy (w : World) : World :=
  { w.streams.foldl (fun w s => destructor s w) w with streams := [] }

inductive Request
  | add (c : Call)
  | addReproc (sources : List Source)
  | destroy

def World.handle (w : World) : Request → World
  | .add c => (addStreamToChannel c w).1
  | .addReproc sources => (addReprocStreamsFromSource sources w).1
  | .destroy => destroy w

def World.owned (w : World) : List Nat := w.streams.filterMap Stream.streamInfoBuf

def Owned (l : List Nat) : Held → Prop
  | .memory b => b ∈ l
  | .mapping b => b ∈ l

/-- Each stream of the channel has a handle and a buffer of its own; these buffers are allocated and
mapped, and every other one was released once, and unmapped once if it was mapped. -/
structure Tidy (w : World) : Prop where
  whole : ∀ s ∈ w.streams, s.handle = true ∧ s.streamInfoBuf.isSome = true
  nodup : w.owned.Nodup
  known : ∀ b ∈ w.owned, b < w.next
  out : Out (Owned w.owned) w.log

def Steps.succeeds (o : Steps) : Bool := o.object && o.addStream && o.size && o.map && o.config

def Call.Fits (c : Call) (w : World) : Prop :=
  c.memory = true → w.streams.length < maxStreamNumInBundle → c.steps.object = true →
    c.steps.addStream = true → c.steps.size = true ∧
      (c.steps.map = true → c.deffered = true → c.steps.config = true) ∧
      (c.steps.map = true → c.steps.config = true → c.unqueued = false)

def SourcesFit : List Source → Nat → Prop
  | [], _ => True
  | s :: rest, n =>
    if s.skipped then SourcesFit rest n
    else s.memory = true → n < maxStreamNumInBundle ∧ s.steps.succeeds = true ∧ SourcesFit rest (n + 1)

def Request.Fits (w : World) : Request → Prop
  | .add c => c.Fits w
  | .addReproc sources => SourcesFit sources w.streams.length
  | .destroy => True

variable {d : Bool} {o : Steps} {b : Nat} {w v : World} {P : Held → Prop}

/-- How `addStream` ends: refused with everything undone, added without a handle, failed with the
buffer still mapped, or done. -/
inductive Added
  | refused
  | handleless
  | stillMapped
  | done

def Steps.added (d : Bool) (n : Nat) (o : Steps) : Added :=
  if maxStreamNumInBundle ≤ n || !o.object || !o.addStream then .refused
  else if !o.size then .handleless
  else if !o.map then .refused
  else if o.config then .done
  else if d then .stillMapped
  else .refused

theorem addStream_spec (d : Bool) (o : Steps) {b : Nat} (hout : Out P w.log) (hb : ¬P (.mapping b)) :
    match o.added d w.streams.length with
    | .refused => ∃ log, addStream d o b w = ({ w with log := log }, false) ∧ Out P log
    | .handleless => addStream d o b w = ({ w with streams := w.streams ++ [err1] }, true)
    | .stillMapped => addStream d o b w = (w.record [.take (.mapping b)], false)
    | .done => addStream d o b w =
        ({ w.record [.take (.mapping b)] with
            streams := w.streams ++ [{ handle := true, streamInfoBuf := some b }] }, true) := by
  by_cases hlimit : maxStreamNumInBundle ≤ w.streams.length
  · simp only [Steps.added, addStream, hlimit]
    exact ⟨w.log, rfl, hout⟩
  cases hobject : o.object with
  | false =>
    simp only [Steps.added, addStream, hlimit, hobject]
    exact ⟨w.log, rfl, hout⟩
  | true =>
    cases hadd : o.addStream with
    | false =>
      simp only [Steps.added, addStream, hlimit, hobject, init, hadd]
      exact ⟨w.log, rfl, hout⟩
    | true =>
      cases hsize : o.size with
      | false => simp [Steps.added, addStream, hlimit, hobject, init, hadd, hsize]
      | true =>
        cases hmap : o.map with
        | false =>
          simp [Steps.added, addStream, hlimit, hobject, init, hadd, hsize, hmap]
          exact ⟨w.log, rfl, hout⟩
        | true =>
          cases hconfig : o.config with
          | true => simp [Steps.added, addStream, hlimit, hobject, init, hadd, hsize, hmap, hconfig, World.record]
          | false =>
            cases d with
            | true =>
              simp [Steps.added, addStream, hlimit, hobject, init, hadd, hsize, hmap, hconfig, destructor, err1]
            | false =>
              simp [Steps.added, addStream, hlimit, hobject, init, hadd, hsize, hmap, hconfig, destructor, err1,
                World.record]
              have hboth := (hout.take hb).give (Or.inr rfl)
              rw [List.append_assoc] at hboth
              refine hboth.congr fun k => ?_
              constructor
              · rintro ⟨hk | hk, hne⟩
                · exact hk
                · exact absurd hk hne
              · intro hk
                refine ⟨Or.inl hk, ?_⟩
                rintro rfl
                exact hb hk

def World.allocated (w : World) : World :=
  { w.record [.take (.memory w.next)] with next := w.next + 1 }

def Pending (l : List Nat) (b : Nat) (k : Held) : Prop := Owned l k ∨ k = .memory b

theorem Tidy.fresh (h : Tidy w) : w.next ∉ w.owned := fun hmem => Nat.lt_irrefl _ (h.known _ hmem)

theorem Tidy.pending (h : Tidy w) : Out (Pending w.owned w.next) w.allocated.log :=
  h.out.take h.fresh

theorem Tidy.not_mapped (h : Tidy w) : ¬Pending w.owned w.next (.mapping w.next) := by
  rintro (hmem | he)
  · exact h.fresh hmem
  · cases he

variable {log : List (Event Held)}

theorem pending_release (h : Tidy w) (hout : Out (Pending w.owned w.next) log) :
    Out (Owned w.owned) (log ++ [.give (.memory w.next)]) := by
  refine (hout.give (Or.inr rfl)).congr fun k => ?_
  constructor
  · rintro ⟨hk | hk, hne⟩
    · exact hk
    · exact absurd hk hne
  · intro hk
    refine ⟨Or.inl hk, ?_⟩
    rintro rfl
    exact h.fresh hk

theorem Tidy.of_out (h : Tidy w) (hout : Out (Owned w.owned) log) (n : Nat) :
    Tidy { w with next := w.next + n, log := log } where
  whole := h.whole
  nodup := h.nodup
  known b hb := Nat.lt_of_lt_of_le (h.known b hb) (Nat.le_add_right ..)
  out := hout

theorem not_tidy_of_out (hout : Out P log) (k : Held) (hk : ¬(Owned w.owned k ↔ P k)) (n : Nat) :
    ¬Tidy { w with next := n, log := log } :=
  fun ht => hk (ht.out.unique hout k)

def World.added (w : World) : World :=
  { w.allocated.record [.take (.mapping w.next)] with
    streams := w.streams ++ [{ handle := true, streamInfoBuf := some w.next }] }

theorem World.owned_added (w : World) : w.added.owned = w.owned ++ [w.next] := by
  change (w.streams ++ _).filterMap _ = _
  rw [List.filterMap_append]
  rfl

theorem Tidy.out_added (h : Tidy w) : Out (Owned w.added.owned) w.added.log := by
  rw [World.owned_added]
  refine (h.pending.take h.not_mapped).congr fun k => ?_
  cases k <;> simp [Pending, Owned]

theorem Tidy.added (h : Tidy w) : Tidy w.added := by
  refine ⟨?_, ?_, ?_, h.out_added⟩
  · intro s hs
    rcases List.mem_append.mp hs with hs | hs
    · exact h.whole s hs
    · rw [List.mem_singleton.mp hs]
      exact ⟨rfl, rfl⟩
  · rw [World.owned_added, List.nodup_append]
    refine ⟨h.nodup, List.nodup_singleton _, fun b hb c hc => ?_⟩
    rw [List.mem_singleton.mp hc]
    rintro rfl
    exact h.fresh hb
  · intro b hb
    rw [World.owned_added] at hb
    rcases List.mem_append.mp hb with hb | hb
    · exact Nat.lt_succ_of_lt (h.known b hb)
    · rw [List.mem_singleton.mp hb]
      exact Nat.lt_succ_self _

theorem not_tidy_handleless {n : Nat} :
    ¬Tidy { streams := w.streams ++ [err1], next := n, log := log } := by
  intro h
  have hhandle := (h.whole err1 (List.mem_append_right _ (List.mem_singleton.mpr rfl))).1
  cases hhandle

theorem addStreamToChannel_eq (c : Call) (hmem : c.memory = true) (w : World) :
    (addStreamToChannel c w).1 =
      if (addStream c.deffered c.steps w.next w.allocated).2 && !c.unqueued then
        (addStream c.deffered c.steps w.next w.allocated).1
      else (addStream c.deffered c.steps w.next w.allocated).1.record [.give (.memory w.next)] := by
  have halloc : allocateStreamInfoBuf c.memory w = (w.allocated, some w.next) := by
    rw [hmem]
    rfl
  unfold addStreamToChannel
  rw [halloc]
  dsimp only
  split <;> rfl

theorem Call.fits_iff (c : Call) (w : World) : c.Fits w ↔ (c.memory = true →
    match c.steps.added c.deffered w.streams.length with
    | .refused => True
    | .handleless => False
    | .stillMapped => False
    | .done => c.unqueued = false) := by
  unfold Call.Fits Steps.added
  cases c.memory with
  | false => simp
  | true =>
    by_cases hlimit : maxStreamNumInBundle ≤ w.streams.length
    · simp [hlimit, Nat.not_lt.mpr hlimit]
    · cases hobject : c.steps.object <;> cases hadd : c.steps.addStream <;> cases hsize : c.steps.size <;>
        cases hmap : c.steps.map <;> cases hconfig : c.steps.config <;> cases hd : c.deffered <;>
        simp [hlimit, Nat.lt_of_not_le hlimit]

theorem add_tidy_iff (h : Tidy w) (c : Call) : Tidy (addStreamToChannel c w).1 ↔ c.Fits w := by
  rw [Call.fits_iff]
  cases hmem : c.memory with
  | false =>
    have hsame : (addStreamToChannel c w).1 = w := by
      unfold addStreamToChannel allocateStreamInfoBuf
      rw [hmem]
      rfl
    rw [hsame]
    simp [h]
  | true =>
    have hspec := addStream_spec c.deffered c.steps (w := w.allocated) h.pending h.not_mapped
    rw [addStreamToChannel_eq c hmem, forall_prop_of_true rfl]
    have hlength : w.allocated.streams.length = w.streams.length := rfl
    rw [hlength] at hspec
    cases hend : c.steps.added c.deffered w.streams.length with
    | refused =>
      rw [hend] at hspec
      obtain ⟨log, heq, hout⟩ := hspec
      rw [heq]
      exact iff_true_intro (h.of_out (pending_release h hout) 1)
    | handleless =>
      rw [hend] at hspec
      rw [hspec, iff_false]
      split
      · exact not_tidy_handleless
      · exact not_tidy_handleless
    | stillMapped =>
      rw [hend] at hspec
      rw [hspec, iff_false]
      have hout := (h.pending.take h.not_mapped).give (Or.inl (Or.inr rfl))
      refine not_tidy_of_out hout (.mapping w.next) (fun hiff => ?_) (w.next + 1)
      exact h.fresh (hiff.mpr ⟨Or.inr rfl, by simp⟩)
    | done =>
      rw [hend] at hspec
      rw [hspec]
      cases hjob : c.unqueued with
      | false => exact iff_of_true h.added rfl
      | true =>
        -- the stream has the buffer, and it is released all the same
        refine iff_of_false ?_ (by simp)
        have howned : w.next ∈ w.added.owned := by
          rw [World.owned_added]
          exact List.mem_append_right _ (List.mem_singleton.mpr rfl)
        have hout := h.out_added.give (k := Held.memory w.next) howned
        exact not_tidy_of_out (w := w.added) hout (.memory w.next) (fun hiff => (hiff.mp howned).2 rfl)
          (w.next + 1)

theorem init_streams (d : Bool) (o : Steps) (b : Nat) (w : World) :
    (init d o b w).1.streams = w.streams := by
  unfold init
  repeat' split
  all_goals rfl

theorem destructor_streams (s : Stream) (w : World) : (destructor s w).streams = w.streams := by
  unfold destructor
  split <;> rfl

theorem addStream_streams (d : Bool) (o : Steps) (b : Nat) (w : World) :
    w.streams ⊆ (addStream d o b w).1.streams := by
  have hinit := init_streams d o b w
  unfold addStream
  split
  · exact fun _ h => h
  · split
    · exact fun _ h => h
    · split
      · next heq =>
        rw [heq] at hinit
        intro s hs
        exact List.mem_append_left _ (hinit ▸ hs)
      · next heq =>
        rw [heq] at hinit
        rw [destructor_streams]
        exact fun s hs => hinit ▸ hs

theorem addReproc_cons_used (s : Source) (rest : List Source) (hskip : s.skipped = false)
    (hmem : s.memory = true) (w : World) :
    addReprocStreamsFromSource (s :: rest) w =
      if (addStream false s.steps w.next w.allocated).2 then
        addReprocStreamsFromSource rest (addStream false s.steps w.next w.allocated).1
      else ((addStream false s.steps w.next w.allocated).1, false) := by
  have halloc : allocateStreamInfoBuf s.memory w = (w.allocated, some w.next) := by
    rw [hmem]
    rfl
  rw [addReprocStreamsFromSource, hskip, halloc, if_neg Bool.false_ne_true]
  dsimp only
  generalize addStream false s.steps w.next w.allocated = result
  obtain ⟨v, ok⟩ := result
  cases ok <;> rfl

theorem addReproc_streams (sources : List Source) (w : World) :
    w.streams ⊆ (addReprocStreamsFromSource sources w).1.streams := by
  induction sources generalizing w with
  | nil => exact fun _ h => h
  | cons s rest ih =>
    cases hskip : s.skipped with
    | true =>
      rw [addReprocStreamsFromSource, hskip]
      exact ih w
    | false =>
      cases hmem : s.memory with
      | false =>
        rw [addReprocStreamsFromSource, hskip, hmem]
        exact fun _ h => h
      | true =>
        have hsub : w.streams ⊆ (addStream false s.steps w.next w.allocated).1.streams :=
          addStream_streams false s.steps w.next w.allocated
        rw [addReproc_cons_used s rest hskip hmem]
        split
        · exact List.Subset.trans hsub (ih _)
        · exact hsub

theorem Steps.added_false_iff (o : Steps) (n : Nat) :
    n < maxStreamNumInBundle ∧ o.succeeds = true ↔ o.added false n = .done := by
  unfold Steps.added Steps.succeeds
  by_cases hlimit : maxStreamNumInBundle ≤ n
  · simp [hlimit, Nat.not_lt.mpr hlimit]
  · cases hobject : o.object <;> cases hadd : o.addStream <;> cases hsize : o.size <;>
      cases hmap : o.map <;> cases hconfig : o.config <;> simp [hlimit, Nat.lt_of_not_le hlimit]

theorem reproc_tidy_iff (h : Tidy w) (sources : List Source) :
    Tidy (addReprocStreamsFromSource sources w).1 ↔ SourcesFit sources w.streams.length := by
  induction sources generalizing w with
  | nil => exact iff_true_intro h
  | cons s rest ih =>
    unfold SourcesFit
    cases hskip : s.skipped with
    | true =>
      rw [addReprocStreamsFromSource, hskip]
      exact ih h
    | false =>
      cases hmem : s.memory with
      | false =>
        rw [addReprocStreamsFromSource, hskip, hmem]
        exact iff_of_true h (fun hm => (nomatch hm))
      | true =>
        have hspec := addStream_spec false s.steps (w := w.allocated) h.pending h.not_mapped
        have hlength : w.allocated.streams.length = w.streams.length := rfl
        rw [hlength] at hspec
        rw [addReproc_cons_used s rest hskip hmem, if_neg Bool.false_ne_true, forall_prop_of_true rfl,
          ← and_assoc, Steps.added_false_iff]
        cases hend : s.steps.added false w.streams.length with
        | refused =>
          -- nobody releases the buffer
          rw [hend] at hspec
          obtain ⟨log, heq, hout⟩ := hspec
          rw [heq]
          refine iff_of_false ?_ (by simp)
          refine not_tidy_of_out hout (.memory w.next) (fun hiff => ?_) (w.next + 1)
          exact h.fresh (hiff.mpr (Or.inr rfl))
        | handleless =>
          rw [hend] at hspec
          rw [hspec]
          refine iff_of_false (fun ht => ?_) (by simp)
          have hmem : err1 ∈ w.allocated.streams ++ [err1] := List.mem_append_right _ (List.mem_singleton.mpr rfl)
          have hhandle := (ht.whole err1 (addReproc_streams rest _ hmem)).1
          cases hhandle
        | stillMapped =>
          rw [hend] at hspec
          rw [hspec]
          refine iff_of_false ?_ (by simp)
          refine not_tidy_of_out (h.pending.take h.not_mapped) (.memory w.next) (fun hiff => ?_) (w.next + 1)
          exact h.fresh (hiff.mpr (Or.inl (Or.inr rfl)))
        | done =>
          rw [hend] at hspec
          rw [hspec]
          have hnext := ih h.added
          rw [show w.added.streams.length = w.streams.length + 1 from List.length_append] at hnext
          exact hnext.trans (by simp)

theorem foldl_destructor {streams : List Stream} {w : World}
    (hwhole : ∀ s ∈ streams, s.streamInfoBuf.isSome = true)
    (hnodup : (streams.filterMap Stream.streamInfoBuf).Nodup)
    (hout : Out (Owned (streams.filterMap Stream.streamInfoBuf)) w.log) :
    Out (fun _ => False) (streams.foldl (fun w s => destructor s w) w).log := by
  induction streams generalizing w with
  | nil => exact hout.congr fun k => by cases k <;> simp [Owned]
  | cons s rest ih =>
    obtain ⟨b, hb⟩ := Option.isSome_iff_exists.mp (hwhole s (List.mem_cons_self ..))
    rw [List.filterMap_cons_some hb] at hnodup hout
    obtain ⟨hfresh, hnodup⟩ := List.nodup_cons.mp hnodup
    refine ih (fun t ht => hwhole t (List.mem_cons_of_mem _ ht)) hnodup ?_
    have hstep : (destructor s w).log = w.log ++ [Event.give (Held.mapping b)] ++ [Event.give (Held.memory b)] := by
      unfold destructor
      rw [hb]
      simp [World.record]
    rw [hstep]
    have hfirst := hout.give (k := Held.mapping b) (List.mem_cons_self ..)
    refine (hfirst.give (k := Held.memory b) ⟨List.mem_cons_self .., by simp⟩).congr fun k => ?_
    cases k with
    | memory c =>
      by_cases hc : c = b
      · subst hc
        simp [Owned, hfresh]
      · simp [Owned, hc]
    | mapping c =>
      by_cases hc : c = b
      · subst hc
        simp [Owned, hfresh]
      · simp [Owned, hc]

theorem Tidy.settled_destroy (h : Tidy w) : Settled (destroy w).log := by
  rw [settled_iff_out]
  exact foldl_destructor (fun s hs => (h.whole s hs).2) h.nodup h.out

theorem Tidy.destroy (h : Tidy w) : Tidy (destroy w) where
  whole _ hs := absurd hs List.not_mem_nil
  nodup := List.nodup_nil
  known _ hb := absurd hb List.not_mem_nil
  out := (settled_iff_out.mp h.settled_destroy).congr fun k => by
    cases k <;> simp [Owned, World.owned, StreamInfo.destroy]

theorem handle_tidy_iff (h : Tidy w) (r : Request) : Tidy (w.handle r) ↔ r.Fits w := by
  cases r with
  | add c => exact add_tidy_iff h c
  | addReproc sources => exact reproc_tidy_iff h sources
  | destroy => exact iff_true_intro h.destroy

def World.after (w : World) (run : List Request) : World := run.foldl World.handle w

theorem tidy_init : Tidy {} where
  whole _ hs := absurd hs List.not_mem_nil
  nodup := List.nodup_nil
  known _ hb := absurd hb List.not_mem_nil
  out := out_nil.congr fun k => by cases k <;> simp [Owned, World.owned]

/-- The buffers stay with one owner, who releases them, just if each request meets the condition. -/
theorem stream_info_tidy_iff (run : List Request) :
    Runs.Along (fun w r => some (World.handle w r)) (fun w r => r.Fits w) {} run ↔
      ∀ pre post, run = pre ++ post →
        Tidy (World.after {} pre) ∧ Settled (destroy (World.after {} pre)).log := by
  rw [Runs.along_foldl_iff_prefixes handle_tidy_iff tidy_init]
  exact forall₃_congr fun pre post _ => ⟨fun h => ⟨h, h.settled_destroy⟩, fun h => h.1⟩

def allSteps : Steps := { object := true, addStream := true, size := true, map := true, config := true }

def unqueuedSnapshot : Request :=
  .add { mode := { zsl := false, longshot := false, recordingHint := false }, streamType := .snapshot,
         memory := true, steps := allSteps, queue := false }

def handlelessReproc : Request :=
  .addReproc [{ streamType := .snapshot, originalType := none, needThumbnail := false, maskLeft := false,
                memory := true, steps := { allSteps with addStream := false } }]

/-- One buffer is released twice, the other not at all. -/
theorem stream_info_not_released_once :
    status (.memory 0) (destroy (World.after {} [unqueuedSnapshot])).log = none ∧
      status (.memory 0) (destroy (World.after {} [handlelessReproc])).log = some true := ⟨rfl, rfl⟩

end Wt88047.StreamInfo
