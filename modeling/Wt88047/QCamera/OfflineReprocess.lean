import Wt88047.Lib.Custody
import Wt88047.Lib.Runs

/-! `QCameraReprocessChannel`: the buffers mapped for offline reprocessing. -/

namespace Wt88047.OfflineReprocess

open Custody

inductive MappingType
  | offlineMetaBuf
  | offlineInputBuf
  deriving DecidableEq

/-- An `OfflineBuffer`; the stream is named by its place in `mStreams`. -/
structure OfflineBuffer where
  stream : Nat
  type : MappingType
  index : Nat
  deriving DecidableEq

structure Stream where
  channelHandle : Nat
  metadata : Bool

structure SourceStream where
  handle : Nat
  metadata : Bool

/-- A reprocess channel with `mSrcStreamHandles` and the streams of `m_pSrcChannel`, if there is one. -/
structure Channel where
  handle : Nat
  streams : List Stream
  srcStreamHandles : Nat → Nat
  srcChannel : Option (List SourceStream)

structure Buf where
  streamId : Nat
  mapMeta : Bool
  mapInput : Bool
  setParameter : Bool

structure World where
  offlineBuffers : List OfflineBuffer := []
  log : List (Event OfflineBuffer) := []

def Channel.streamBySrouceHandle (c : Channel) (srcHandle : Nat) : Option Nat :=
  (List.range c.streams.length).find? fun i => c.srcStreamHandles i == srcHandle

/-- The stream that reprocesses the buffer: one of this channel, and not for metadata. -/
def Channel.target (c : Channel) (b : Buf) : Option Nat :=
  (c.streamBySrouceHandle b.streamId).filter fun i =>
    match c.streams[i]? with
    | some s => c.handle == s.channelHandle && !s.metadata
    | none => false

def metaPresent (source : List SourceStream) (frame : List Buf) : Bool :=
  frame.any fun b =>
    match source.find? fun s => s.handle == b.streamId with
    | some s => s.metadata
    | none => false

def metaEntry (s : Nat) : OfflineBuffer := { stream := s, type := .offlineMetaBuf, index := 0 }

def inputEntry (s : Nat) : OfflineBuffer := { stream := s, type := .offlineInputBuf, index := 1 }

def World.map (k : OfflineBuffer) (w : World) : World := { w with log := w.log ++ [.take k] }

def World.record (k : OfflineBuffer) (w : World) : World := { w with offlineBuffers := w.offlineBuffers ++ [k] }

def reprocessBufs (c : Channel) (hasMeta : Bool) : List Buf → World → World
  | [], w => w
  | b :: rest, w =>
    match c.target b with
    | none => reprocessBufs c hasMeta rest w
    | some s =>
      if hasMeta && !b.mapMeta then w
      else
        let w := if hasMeta then w.map (metaEntry s) else w
        let w := w.record (metaEntry s)
        if !b.mapInput then w
        else
          let w := (w.map (inputEntry s)).record (inputEntry s)
          if !b.setParameter then w else reprocessBufs c hasMeta rest w

def doReprocessOffline (c : Channel) (frame : Option (List Buf)) (w : World) : World :=
  if c.streams.length < 1 then w
  else
    match c.srcChannel, frame with
    | some source, some bufs => reprocessBufs c (metaPresent source bufs) bufs w
    | _, _ => w

/-- An unmapping that fails is logged and not tried again. -/
def stop (w : World) : World := { offlineBuffers := [], log := w.log ++ gives w.offlineBuffers }

inductive Request
  | reprocess (frame : Option (List Buf))
  | stop

def World.handle (c : Channel) (w : World) : Request → World
  | .reprocess frame => doReprocessOffline c frame w
  | .stop => OfflineReprocess.stop w

/-- The entries recorded are those mapped, each once, and nothing was mapped while it was mapped or
unmapped while it was not. -/
structure Kept (w : World) : Prop where
  nodup : w.offlineBuffers.Nodup
  out : Out (· ∈ w.offlineBuffers) w.log

variable {c : Channel} {w : World} {k : OfflineBuffer} {s : Nat}

def BufsFit (c : Channel) (hasMeta : Bool) : List Buf → List OfflineBuffer → Prop
  | [], _ => True
  | b :: rest, held =>
    match c.target b with
    | none => BufsFit c hasMeta rest held
    | some s =>
      hasMeta = true ∧ (b.mapMeta = true → metaEntry s ∉ held ∧
        (b.mapInput = true → inputEntry s ∉ held ∧
          (b.setParameter = true → BufsFit c hasMeta rest (held ++ [metaEntry s] ++ [inputEntry s]))))

def Request.Fits (c : Channel) (w : World) : Request → Prop
  | .reprocess frame =>
    c.streams.length < 1 ∨
      match c.srcChannel, frame with
      | some source, some bufs => BufsFit c (metaPresent source bufs) bufs w.offlineBuffers
      | _, _ => True
  | .stop => True

theorem Kept.add (h : Kept w) (hk : k ∉ w.offlineBuffers) : Kept ((w.map k).record k) where
  nodup := by
    refine List.nodup_append.mpr ⟨h.nodup, List.nodup_singleton k, fun j hj i hi => ?_⟩
    rw [List.mem_singleton.mp hi]
    rintro rfl
    exact hk hj
  out := (h.out.take hk).congr fun j => by simp [World.record, World.map]

/-- `v` is `w` with more recorded; without metadata no metadata entry is mapped on the way. -/
structure Extends (hasMeta : Bool) (w v : World) : Prop where
  log : ∃ e, v.log = w.log ++ e ∧ (hasMeta = false → ∀ s, story (metaEntry s) e = [])
  offlineBuffers : ∃ l, v.offlineBuffers = w.offlineBuffers ++ l

variable {hasMeta : Bool} {v u : World}

theorem Extends.refl (hasMeta : Bool) (w : World) : Extends hasMeta w w :=
  ⟨⟨[], (List.append_nil _).symm, fun _ _ => rfl⟩, [], (List.append_nil _).symm⟩

theorem Extends.trans (h : Extends hasMeta w v) (h' : Extends hasMeta v u) : Extends hasMeta w u := by
  obtain ⟨⟨e, he, hmeta⟩, l, hl⟩ := h
  obtain ⟨⟨e', he', hmeta'⟩, l', hl'⟩ := h'
  refine ⟨⟨e ++ e', by rw [he', he, List.append_assoc], fun hno s => ?_⟩, l ++ l', by
    rw [hl', hl, List.append_assoc]⟩
  rw [story_append, hmeta hno s, hmeta' hno s]
  rfl

theorem extends_record (hasMeta : Bool) (w : World) (k : OfflineBuffer) : Extends hasMeta w (w.record k) :=
  ⟨⟨[], (List.append_nil _).symm, fun _ _ => rfl⟩, [k], rfl⟩

theorem extends_map (hk : hasMeta = false → ∀ s, k ≠ metaEntry s) (w : World) : Extends hasMeta w (w.map k) := by
  refine ⟨⟨[.take k], rfl, fun hno s => ?_⟩, [], (List.append_nil _).symm⟩
  rw [story_take, if_neg (hk hno s)]
  rfl

theorem extends_input (hasMeta : Bool) (s : Nat) (w : World) :
    Extends hasMeta w ((w.map (inputEntry s)).record (inputEntry s)) :=
  (extends_map (fun _ t => by simp [inputEntry, metaEntry]) w).trans (extends_record ..)

theorem reprocessBufs_extends (c : Channel) (hasMeta : Bool) (bufs : List Buf) (w : World) :
    Extends hasMeta w (reprocessBufs c hasMeta bufs w) := by
  induction bufs generalizing w with
  | nil => exact Extends.refl hasMeta w
  | cons b rest ih =>
    rw [reprocessBufs]
    cases htarget : c.target b with
    | none => exact ih w
    | some s =>
      dsimp only
      split
      · exact Extends.refl hasMeta w
      · have hentry : Extends hasMeta w
            ((if hasMeta = true then w.map (metaEntry s) else w).record (metaEntry s)) := by
          cases hasMeta with
          | true =>
            have hmap : Extends true w (w.map (metaEntry s)) := extends_map (fun h => by cases h) w
            exact hmap.trans (extends_record ..)
          | false => exact extends_record ..
        split
        · exact hentry
        split
        · exact hentry.trans (extends_input hasMeta s _)
        · exact (hentry.trans (extends_input hasMeta s _)).trans (ih _)

theorem not_kept_of_mapped_twice (hasMeta : Bool) (h : Kept w) (hk : k ∈ w.offlineBuffers)
    (hv : Extends hasMeta (w.map k) v) : ¬Kept v := by
  intro hkept
  obtain ⟨⟨e, he, -⟩, -⟩ := hv
  obtain ⟨held, hheld, -⟩ := hkept.out k
  obtain ⟨held', hheld', hiff⟩ := h.out k
  have hmapped : held' = true := hiff.mpr hk
  have htwice : status k (w.map k).log = none := by
    change status k (w.log ++ [.take k]) = none
    rw [status_append, hheld', hmapped]
    simp
  rw [he, status_append, htwice] at hheld
  cases hheld

theorem not_kept_of_no_meta (h : Kept w) (hv : Extends false (w.record (metaEntry s)) v) : ¬Kept v := by
  intro hkept
  obtain ⟨⟨e, he, hmeta⟩, l, hl⟩ := hv
  have hmem : metaEntry s ∈ v.offlineBuffers := by
    rw [hl]
    exact List.mem_append_left _ (List.mem_append_right _ (List.mem_singleton.mpr rfl))
  obtain ⟨held, hheld, hiff⟩ := hkept.out (metaEntry s)
  obtain ⟨held', hheld', hiff'⟩ := h.out (metaEntry s)
  have hsame : status (metaEntry s) v.log = status (metaEntry s) w.log := by
    rw [he]
    change status (metaEntry s) (w.log ++ e) = _
    rw [status_append, hheld', hmeta rfl s]
    rfl
  have hbefore : metaEntry s ∈ w.offlineBuffers := by
    obtain rfl := Option.some.inj ((hsame.symm.trans hheld).symm.trans hheld').symm
    exact hiff'.mp (hiff.mpr hmem)
  have hnodup := hkept.nodup
  rw [hl] at hnodup
  have hpair := (List.nodup_append.mp (List.nodup_append.mp hnodup).1).2.2
  exact hpair _ hbefore _ (List.mem_singleton.mpr rfl) rfl

theorem reprocessBufs_kept_iff (h : Kept w) (bufs : List Buf) :
    Kept (reprocessBufs c hasMeta bufs w) ↔ BufsFit c hasMeta bufs w.offlineBuffers := by
  induction bufs generalizing w with
  | nil => exact iff_true_intro h
  | cons b rest ih =>
    rw [reprocessBufs, BufsFit]
    cases htarget : c.target b with
    | none => exact ih h
    | some s =>
      dsimp only
      cases hasMeta with
      | false =>
        refine iff_of_false ?_ (fun hfit => Bool.false_ne_true hfit.1)
        rw [Bool.false_and, if_neg Bool.false_ne_true, if_neg Bool.false_ne_true]
        apply not_kept_of_no_meta h (s := s)
        split
        · exact Extends.refl ..
        split
        · exact extends_input ..
        · exact (extends_input ..).trans (reprocessBufs_extends ..)
      | true =>
        rw [Bool.true_and, if_pos rfl, and_iff_right rfl]
        cases b.mapMeta with
        | false => exact iff_of_true h (fun hno => absurd hno Bool.false_ne_true)
        | true =>
          rw [if_neg (by decide), forall_prop_of_true rfl]
          by_cases hmeta : metaEntry s ∈ w.offlineBuffers
          · refine iff_of_false ?_ (fun hfit => hfit.1 hmeta)
            apply not_kept_of_mapped_twice true h hmeta
            split
            · exact extends_record ..
            split
            · exact (extends_record ..).trans (extends_input ..)
            · exact ((extends_record ..).trans (extends_input ..)).trans (reprocessBufs_extends ..)
          · rw [and_iff_right hmeta]
            have hfirst := h.add hmeta
            cases b.mapInput with
            | false => exact iff_of_true hfirst (fun hno => absurd hno Bool.false_ne_true)
            | true =>
              rw [if_neg (by decide), forall_prop_of_true rfl]
              have hiff : inputEntry s ∈ ((w.map (metaEntry s)).record (metaEntry s)).offlineBuffers ↔
                  inputEntry s ∈ w.offlineBuffers := by
                simp [World.record, World.map, inputEntry, metaEntry]
              by_cases hinput : inputEntry s ∈ w.offlineBuffers
              · refine iff_of_false ?_ (fun hfit => hfit.1 hinput)
                apply not_kept_of_mapped_twice true hfirst (hiff.mpr hinput)
                split
                · exact extends_record ..
                · exact (extends_record ..).trans (reprocessBufs_extends ..)
              · rw [and_iff_right hinput]
                have hsecond := hfirst.add (mt hiff.mp hinput)
                cases b.setParameter with
                | false => exact iff_of_true hsecond (fun hno => absurd hno Bool.false_ne_true)
                | true =>
                  rw [if_neg (by decide), forall_prop_of_true rfl]
                  exact ih hsecond

theorem Kept.settled_stop (h : Kept w) : Settled (stop w).log := by
  intro k
  obtain ⟨held, hheld, hiff⟩ := h.out k
  change status k (w.log ++ gives w.offlineBuffers) = some false
  rw [status_append, hheld, story_gives k h.nodup]
  by_cases hk : k ∈ w.offlineBuffers
  · rw [if_pos hk, hiff.mpr hk]
    rfl
  · rw [if_neg hk, Bool.eq_false_iff.mpr (mt hiff.mp hk)]
    rfl

theorem Kept.stop (h : Kept w) : Kept (stop w) where
  nodup := List.nodup_nil
  out := (settled_iff_out.mp h.settled_stop).congr fun k => by simp [OfflineReprocess.stop]

theorem handle_kept_iff (h : Kept w) (r : Request) : Kept (w.handle c r) ↔ r.Fits c w := by
  cases r with
  | stop => exact iff_true_intro h.stop
  | reprocess frame =>
    change Kept (doReprocessOffline c frame w) ↔ (c.streams.length < 1 ∨ _)
    unfold doReprocessOffline
    by_cases hnone : c.streams.length < 1
    · rw [if_pos hnone]
      exact iff_of_true h (Or.inl hnone)
    · rw [if_neg hnone, or_iff_right hnone]
      cases c.srcChannel with
      | none => exact iff_true_intro h
      | some source =>
        cases frame with
        | none => exact iff_true_intro h
        | some bufs => exact reprocessBufs_kept_iff h bufs

def World.after (c : Channel) (w : World) (run : List Request) : World := run.foldl (World.handle c) w

theorem kept_init : Kept {} where
  nodup := List.nodup_nil
  out := out_nil.congr fun k => by simp

/-- All along a run exactly the entries recorded are mapped, and stopping settles them, just if each
frame meets the condition. -/
theorem offline_buffers_kept_iff (c : Channel) (run : List Request) :
    Runs.Along (fun w r => some (World.handle c w r)) (fun w r => r.Fits c w) {} run ↔
      ∀ pre post, run = pre ++ post →
        Kept (World.after c {} pre) ∧ Settled (stop (World.after c {} pre)).log := by
  rw [Runs.along_foldl_iff_prefixes handle_kept_iff kept_init]
  exact forall₃_congr fun pre post _ => ⟨fun h => ⟨h, h.settled_stop⟩, fun h => h.1⟩

def oneStream : Channel where
  handle := 1
  streams := [{ channelHandle := 1, metadata := false }]
  srcStreamHandles := fun _ => 5
  srcChannel := some [{ handle := 5, metadata := false }, { handle := 6, metadata := true }]

def snapshotBuf : Buf := { streamId := 5, mapMeta := true, mapInput := true, setParameter := true }

def metaBuf : Buf := { streamId := 6, mapMeta := true, mapInput := true, setParameter := true }

/-- Without metadata an entry is recorded that is not mapped; the second frame maps the entries of
the first again. -/
theorem offline_buffers_not_kept :
    ((World.after oneStream {} [.reprocess (some [snapshotBuf])]).offlineBuffers.head? = some (metaEntry 0) ∧
      status (metaEntry 0) (World.after oneStream {} [.reprocess (some [snapshotBuf])]).log = some false) ∧
    status (inputEntry 0) (World.after oneStream {}
      [.reprocess (some [snapshotBuf, metaBuf]), .reprocess (some [snapshotBuf, metaBuf])]).log = none :=
  ⟨⟨rfl, rfl⟩, rfl⟩

end Wt88047.OfflineReprocess
