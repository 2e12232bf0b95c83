import Wt88047.MmCamera.Stream
import Wt88047.MmCamera.CameraOpen
import Wt88047.MmCamera.SuperbufInvariant

/-! The stream slots of the channels of a camera, over any history of the calls that fill, configure and clear
them, and what `mm_channel_handle_metadata` reads of them when it looks for the snapshot stream. -/

namespace Wt88047.StreamSlots

open Superbuf (StreamType Channel BufInfo BufDef)

/-- A `mm_stream_t`: `streamInfo` is the type in what `stream_info` points at, `chObj` the channel that the
stream was added to. -/
structure StreamObj where
  myHdl : Nat := 0
  state : Stream.StreamState := .notUsed
  chObj : Nat := 0
  streamInfo : Option StreamType := none
  serverStreamId : Nat := 0
  deriving DecidableEq

structure World where
  history : Nat := 0
  streams : Nat → Nat → StreamObj := fun _ _ => {}

def maxStreamNumInBundle : Nat := 4

namespace World

def setStream (w : World) (i j : Nat) (s : StreamObj) : World :=
  { w with streams := fun k l => if k = i ∧ l = j then s else w.streams k l }

def getStreamByHandler (w : World) (i handler : Nat) : Option Nat :=
  (List.range maxStreamNumInBundle).find? fun j =>
    (w.streams i j).state ≠ .notUsed ∧ handler = (w.streams i j).myHdl

def freeStream (w : World) (i : Nat) : Option Nat :=
  (List.range maxStreamNumInBundle).find? fun j => (w.streams i j).state = .notUsed

/-- `mm_channel_add_stream`; `acquired` is the stream's id at the server if it can be acquired. -/
def addStream (i : Nat) (acquired : Option Nat) (w : World) : World :=
  match w.freeStream i with
  | none => w
  | some j =>
    let (handle, history) := Camera.generateHandler j w.history
    match acquired with
    | some id =>
      { w with history := history }.setStream i j
        { myHdl := handle, state := .acquired, chObj := i, serverStreamId := id }
    | none => { w with history := history }.setStream i j {}

/-- `mm_channel_link_stream`: the slot becomes a copy of the stream's. -/
def linkStream (i owner streamId : Nat) (w : World) : World :=
  match w.getStreamByHandler owner streamId, w.freeStream i with
  | some l, some j => w.setStream i j (w.streams owner l)
  | _, _ => w

/-- `mm_channel_config_stream`: `mm_stream_config` sets `stream_info` whatever it returns. -/
def configStream (i streamId : Nat) (type : StreamType) (w : World) : World :=
  match w.getStreamByHandler i streamId with
  | none => w
  | some j =>
    if (w.streams i j).chObj ≠ i then w
    else
      match (w.streams i j).state with
      | .acquired | .cfg => w.setStream i j { w.streams i j with streamInfo := some type, state := .cfg }
      | _ => w

def delStream (i streamId : Nat) (w : World) : World :=
  match w.getStreamByHandler i streamId with
  | none => w
  | some j =>
    if (w.streams i j).chObj ≠ i then w.setStream i j {}
    else
      match (w.streams i j).state with
      | .acquired | .cfg => w.setStream i j {}
      | _ => w

/-- Any other event of a stream: none sets `stream_info`, and none takes a slot into or out of use. -/
def advance (i j : Nat) (state : Stream.StreamState) (w : World) : World :=
  if (w.streams i j).state = .notUsed ∨ state = .notUsed then w
  else w.setStream i j { w.streams i j with state := state }

def slots (w : World) (i : Nat) : List Superbuf.Stream :=
  (List.range maxStreamNumInBundle).map fun j =>
    { used := (w.streams i j).state ≠ .notUsed
      myHdl := (w.streams i j).myHdl
      streamType := (w.streams i j).streamInfo
      serverStreamId := (w.streams i j).serverStreamId
      ownChannel := (w.streams i j).chObj = i }

end World

inductive Op
  | addStream (i : Nat) (acquired : Option Nat)
  | linkStream (i owner streamId : Nat)
  | configStream (i streamId : Nat) (type : StreamType)
  | delStream (i streamId : Nat)
  | advance (i j : Nat) (state : Stream.StreamState)

def step (w : World) : Op → World
  | .addStream i acquired => w.addStream i acquired
  | .linkStream i owner streamId => w.linkStream i owner streamId
  | .configStream i streamId type => w.configStream i streamId type
  | .delStream i streamId => w.delStream i streamId
  | .advance i j state => w.advance i j state

def run (ops : List Op) : World := ops.foldl step {}

def InfoInUse (w : World) : Prop :=
  ∀ i j, (w.streams i j).streamInfo ≠ none → (w.streams i j).state ≠ .notUsed

theorem InfoInUse.setStream {w : World} (h : InfoInUse w) (i j : Nat) {s : StreamObj}
    (hs : s.streamInfo ≠ none → s.state ≠ .notUsed) : InfoInUse (w.setStream i j s) := by
  intro k l
  simp only [World.setStream]
  split
  · exact hs
  · exact h k l

theorem InfoInUse.step {w : World} (h : InfoInUse w) (op : Op) : InfoInUse (step w op) := by
  cases op with
  | addStream i acquired =>
    simp only [StreamSlots.step, World.addStream]
    cases w.freeStream i with
    | none => exact h
    | some j =>
      have hw : InfoInUse { w with history := (Camera.generateHandler j w.history).2 } := h
      cases acquired with
      | none => exact hw.setStream i j fun hs => absurd rfl hs
      | some id => exact hw.setStream i j fun hs => absurd rfl hs
  | linkStream i owner streamId =>
    simp only [StreamSlots.step, World.linkStream]
    split
    · exact h.setStream i _ (h owner _)
    · exact h
  | configStream i streamId type =>
    simp only [StreamSlots.step, World.configStream]
    cases w.getStreamByHandler i streamId with
    | none => exact h
    | some j =>
      dsimp only
      split
      · exact h
      · split
        · exact h.setStream i j fun _ => by simp
        · exact h.setStream i j fun _ => by simp
        · exact h
  | delStream i streamId =>
    simp only [StreamSlots.step, World.delStream]
    cases w.getStreamByHandler i streamId with
    | none => exact h
    | some j =>
      have hclear := h.setStream i j (s := {}) fun hs => absurd rfl hs
      dsimp only
      split
      · exact hclear
      · split
        · exact hclear
        · exact hclear
        · exact h
  | advance i j state =>
    simp only [StreamSlots.step, World.advance]
    split
    · exact h
    · next hno =>
      exact h.setStream i j fun _ hs => hno (.inr hs)

theorem run_infoInUse (ops : List Op) : InfoInUse (run ops) := by
  have hrun : ∀ w, InfoInUse w → InfoInUse (ops.foldl step w) := by
    induction ops with
    | nil => exact fun w h => h
    | cons op ops ih => exact fun w h => ih _ (h.step op)
  exact hrun {} fun i j hs => absurd rfl hs

/-- The entries whose `stream_info` the search for the snapshot stream reads. -/
def walked : List Superbuf.Stream → List Superbuf.Stream
  | [] => []
  | s :: rest => s :: if s.streamType = none ∨ s.streamType = some .snapshot then [] else walked rest

/-- `mm_channel_handle_metadata` comes to the search. -/
def searches (ch : Channel) (info : BufInfo) : Bool :=
  match Superbuf.utilGetStreamByHandler ch info.streamId, info.buf.bind (·.metadata) with
  | some s, some m => s.streamType = some .metadata ∧ m.isMetaInvalid = false ∧ s.ownChannel = true
  | _, _ => false

def slotsRead (ch : Channel) (info : BufInfo) : List Superbuf.Stream :=
  if searches ch info then walked ch.streams else []

/-- Each slot has a `stream_info`, or those up to a snapshot stream do. -/
def Configured (streams : List Superbuf.Stream) : Prop :=
  (∀ s ∈ streams, s.streamType ≠ none) ∨
    ∃ pre s post, streams = pre ++ s :: post ∧ s.streamType = some .snapshot ∧ ∀ t ∈ pre, t.streamType ≠ none

theorem Configured.cons {s : Superbuf.Stream} {rest : List Superbuf.Stream} (h : Configured rest)
    (hs : s.streamType ≠ none) : Configured (s :: rest) := by
  rcases h with hall | ⟨pre, t, post, rfl, ht, hpre⟩
  · exact .inl (List.forall_mem_cons.mpr ⟨hs, hall⟩)
  · exact .inr ⟨s :: pre, t, post, rfl, ht, List.forall_mem_cons.mpr ⟨hs, hpre⟩⟩

theorem Configured.tail {s : Superbuf.Stream} {rest : List Superbuf.Stream} (h : Configured (s :: rest))
    (hs : s.streamType ≠ some .snapshot) : Configured rest := by
  rcases h with hall | ⟨pre, t, post, heq, ht, hpre⟩
  · exact .inl fun u hu => hall u (List.mem_cons_of_mem _ hu)
  · cases pre with
    | nil =>
      obtain ⟨rfl, rfl⟩ := List.cons.inj heq
      exact absurd ht hs
    | cons u pre =>
      obtain ⟨rfl, rfl⟩ := List.cons.inj heq
      exact .inr ⟨pre, t, post, rfl, ht, (List.forall_mem_cons.mp hpre).2⟩

theorem Configured.head {s : Superbuf.Stream} {rest : List Superbuf.Stream} (h : Configured (s :: rest)) :
    s.streamType ≠ none := by
  rcases h with hall | ⟨pre, t, post, heq, ht, hpre⟩
  · exact hall s (List.mem_cons_self ..)
  · cases pre with
    | nil =>
      obtain ⟨rfl, rfl⟩ := List.cons.inj heq
      simp [ht]
    | cons u pre =>
      obtain ⟨rfl, rfl⟩ := List.cons.inj heq
      exact hpre s (List.mem_cons_self ..)

theorem walked_configured (streams : List Superbuf.Stream) :
    (∀ s ∈ walked streams, s.streamType ≠ none) ↔ Configured streams := by
  induction streams with
  | nil => simp [walked, Configured]
  | cons s rest ih =>
    rw [walked, List.forall_mem_cons]
    by_cases hnone : s.streamType = none
    · exact ⟨fun h => absurd hnone h.1, fun h => absurd hnone h.head⟩
    by_cases hsnap : s.streamType = some .snapshot
    · rw [if_pos (.inr hsnap)]
      constructor
      · exact fun _ => .inr ⟨[], s, rest, rfl, hsnap, by simp⟩
      · exact fun _ => ⟨hnone, by simp⟩
    · rw [if_neg (by simp [hnone, hsnap]), ih]
      exact ⟨fun h => h.2.cons h.1, fun h => ⟨h.head, h.tail hsnap⟩⟩

theorem walked_subset {s : Superbuf.Stream} {streams : List Superbuf.Stream} (h : s ∈ walked streams) :
    s ∈ streams := by
  induction streams with
  | nil => exact h
  | cons t rest ih =>
    rw [walked, List.mem_cons] at h
    rcases h with rfl | h
    · exact List.mem_cons_self ..
    · split at h
      · cases h
      · exact List.mem_cons_of_mem _ (ih h)

theorem snapshotStreamId_eq_none (streams : List Superbuf.Stream) :
    Superbuf.snapshotStreamId streams = none ↔ ∃ s ∈ walked streams, s.streamType = none := by
  induction streams with
  | nil => simp [walked, Superbuf.snapshotStreamId]
  | cons s rest ih =>
    rw [walked, List.exists_mem_cons_iff, Superbuf.snapshotStreamId]
    cases ht : s.streamType with
    | none => simp
    | some t =>
      by_cases hsnap : t = .snapshot
      · simp [hsnap]
      · simp [hsnap, ih]

theorem handleMetadata_searches {ch : Channel} (b : BufDef) (h : Superbuf.Shape ch.queue) :
    if searches ch b.info then
      ∃ m c, Superbuf.handleMetadata ch b.info = Superbuf.handleOwnMetadata m b.frameIdx c ∧
        c.streams = ch.streams ∧ Superbuf.Shape c.queue
    else Superbuf.handleMetadata ch b.info ≠ none := by
  cases hs : Superbuf.utilGetStreamByHandler ch b.streamId with
  | none => simp [searches, Superbuf.handleMetadata, BufDef.info, hs]
  | some s =>
    cases hm : b.metadata with
    | none =>
      cases ht : s.streamType with
      | none => simp [searches, Superbuf.handleMetadata, BufDef.info, hs, hm, ht]
      | some t =>
        by_cases hmeta : t = .metadata
        · simp [searches, Superbuf.handleMetadata, BufDef.info, hs, hm, ht, hmeta]
        · simp [searches, Superbuf.handleMetadata, BufDef.info, hs, hm, ht, hmeta]
    | some m =>
      cases ht : s.streamType with
      | none => simp [searches, Superbuf.handleMetadata, BufDef.info, hs, hm, ht]
      | some t =>
        by_cases hmeta : t = .metadata
        · obtain ⟨c, hc, hp⟩ := Superbuf.handleFrameIdReset_ends True m h
          have hcall : Superbuf.handleMetadata ch b.info = if m.isMetaInvalid then some (-1, c)
              else if s.ownChannel then Superbuf.handleOwnMetadata m b.frameIdx c else some (0, c) := by
            simp [Superbuf.handleMetadata, BufDef.info, hs, ht, hmeta, hm, hc]
          rw [hcall]
          cases hinvalid : m.isMetaInvalid
          all_goals cases hown : s.ownChannel
          all_goals simp [searches, BufDef.info, hs, hm, ht, hmeta, hinvalid, hown]
          exact ⟨m, c, rfl, hp.frame.1, hp.shape h⟩
        · simp [searches, Superbuf.handleMetadata, BufDef.info, hs, hm, ht, hmeta]

theorem InfoInUse.slots {w : World} (h : InfoInUse w) (i : Nat) :
    ∀ s ∈ w.slots i, s.streamType ≠ none → s.used = true := by
  intro s hs ht
  obtain ⟨j, -, rfl⟩ := List.mem_map.mp hs
  exact decide_eq_true (h i j ht)

/-- After any history the search reads `stream_info` of slots in use only, and no null one, exactly where it is
not reached or all slots up to a snapshot stream are configured. -/
theorem metadata_reads_used_iff (ops : List Op) (i : Nat) (ch : Channel) (info : BufInfo) :
    (∀ s ∈ slotsRead { ch with streams := (run ops).slots i } info, s.used = true ∧ s.streamType ≠ none) ↔
      (searches { ch with streams := (run ops).slots i } info = true → Configured ((run ops).slots i)) := by
  have hused := (run_infoInUse ops).slots i
  unfold slotsRead
  split
  · next hsearch =>
    simp only [hsearch, forall_const]
    rw [← walked_configured]
    constructor
    · exact fun h s hs => (h s hs).2
    · exact fun h s hs => ⟨hused s (walked_subset hs) (h s hs), h s hs⟩
  · next hsearch =>
    simp [hsearch]

def plainMetadata : Superbuf.MetadataInfo := ⟨false, false, false, [], false, false, false, 0, 0⟩

/-- A channel with a metadata and a preview stream: the search reads the unused third slot. -/
theorem unused_slot_read : ¬ ∀ (ops : List Op) (i : Nat) (ch : Channel) (info : BufInfo),
    ∀ s ∈ slotsRead { ch with streams := (run ops).slots i } info, s.used = true ∧ s.streamType ≠ none := by
  intro h
  have hread := h [.addStream 0 (some 7), .configStream 0 256 .metadata, .addStream 0 (some 8),
    .configStream 0 513 .preview] 0 Superbuf.twoStreamChannel
    (BufDef.info ⟨256, .metadata, 0, 1, some plainMetadata⟩) ⟨false, 0, none, 0, true⟩ (by decide)
  exact absurd hread.1 (by decide)

end Wt88047.StreamSlots
