import Mathlib.Data.List.Forall2
import Mathlib.Data.List.Perm.Basic
import Mathlib.Data.Nat.Basic
import Wt88047.Lib.ReadyQueue
import Wt88047.MmCamera.ChannelThread

/-! What a superbuf and the queue look like between two operations: the slots of one node
carry one frame, complete nodes come first, and the others ascend by frame number. Every operation of the
channel thread is made of the moves, so an invariant of the thread is an invariant of these. -/

namespace Wt88047.Superbuf

open ReadyQueue

def SlotOk (frameIdx streamId : Nat) (s : BufInfo) : Prop :=
  s = .empty ∨ ∃ b : BufDef, s = b.info ∧ b.streamId = streamId ∧ b.frameIdx = frameIdx

structure NodeOk (bundled : List Nat) (n : QueueNode) : Prop where
  slots : List.Forall₂ (SlotOk n.frameIdx) bundled n.superBuf
  full : n.matched = true → ∀ s ∈ n.superBuf, s.buf.isSome

def QueueNode.framedBufs (n : QueueNode) : List BufDef := n.framed.filterMap (·.buf)

variable {slots : List BufInfo}

theorem map_buf_of_isSome (h : ∀ s ∈ slots, s.buf.isSome) :
    slots.map (·.buf) = (slots.filterMap (·.buf)).map some := by
  induction slots with
  | nil => rfl
  | cons s slots ih =>
    obtain ⟨b, hb⟩ := Option.isSome_iff_exists.mp (h s (List.mem_cons_self ..))
    simp [hb, ih fun t ht => h t (List.mem_cons_of_mem _ ht)]

theorem slots_framed {f : Nat} {sids : List Nat} (h : List.Forall₂ (SlotOk f) sids slots) :
    ∀ s ∈ slots, s.frameIdx ≠ 0 → s.buf.isSome := by
  induction h with
  | nil => simp
  | cons hs _ ih =>
    intro t ht hf
    rcases List.mem_cons.mp ht with rfl | ht
    · rcases hs with rfl | ⟨b, rfl, _⟩
      · exact absurd rfl hf
      · rfl
    · exact ih t ht hf

variable {b : BufDef}

theorem slots_set {f : Nat} {sids : List Nat} (h : List.Forall₂ (SlotOk f) sids slots)
    (hm : b.streamId ∈ sids) (hb : b.frameIdx = f) :
    List.Forall₂ (SlotOk f) sids (slots.set (sids.idxOf b.streamId) b.info) := by
  induction h with
  | nil => simp at hm
  | @cons sid s sids slots hs ht ih =>
    by_cases he : sid = b.streamId
    · subst he
      simpa using ⟨Or.inr ⟨b, rfl, rfl, hb⟩, ht⟩
    · rw [List.idxOf_cons_ne _ he, List.set_cons_succ]
      exact .cons hs (ih ((List.mem_cons.mp hm).resolve_left (Ne.symm he)))

theorem slots_set_held {i : Nat} (h : slots[i]? = some .empty) :
    ((slots.set i b.info).filterMap (·.buf)).Perm (b :: slots.filterMap (·.buf)) := by
  induction slots generalizing i with
  | nil => simp at h
  | cons s slots ih =>
    cases i with
    | zero =>
      obtain rfl : s = .empty := by simpa using h
      simp [BufDef.info, BufInfo.empty]
    | succ i =>
      have hh := ih (by simpa using h)
      cases hs : s.buf with
      | none => simpa [hs] using hh
      | some d =>
        simp only [List.set_cons_succ, List.filterMap_cons, hs]
        exact (hh.cons d).trans (.swap b d _)

variable {n : QueueNode}

theorem NodeOk.framed {bundled : List Nat} (h : NodeOk bundled n) :
    n.framed.map (·.buf) = n.framedBufs.map some :=
  map_buf_of_isSome fun s hs => by
    obtain ⟨hmem, hf⟩ := List.mem_filter.mp hs
    exact slots_framed h.slots s hmem (by simpa using hf)

theorem NodeOk.map_buf {bundled : List Nat} (h : NodeOk bundled n) (hm : n.matched = true) :
    n.superBuf.map (·.buf) = n.heldBufs.map some :=
  map_buf_of_isSome (h.full hm)

theorem NodeOk.numOfBufs {bundled : List Nat} (h : NodeOk bundled n) :
    n.numOfBufs = bundled.length := h.slots.length_eq.symm

theorem NodeOk.fill {bundled : List Nat} {n : QueueNode} {b : BufDef} (h : NodeOk bundled n)
    (hm : b.streamId ∈ bundled) (hb : b.frameIdx = n.frameIdx) :
    NodeOk bundled (n.fill (bundled.idxOf b.streamId) b.info) := by
  have hslots := slots_set h.slots hm hb
  refine ⟨hslots, fun hall s hs => slots_framed hslots s hs ?_⟩
  simpa using List.all_eq_true.mp hall s hs

theorem slots_clear (f : Nat) (sids : List Nat) :
    List.Forall₂ (SlotOk f) sids (List.replicate sids.length BufInfo.empty) := by
  induction sids with
  | nil => exact .nil
  | cons sid sids ih => exact .cons (Or.inl rfl) ih

variable {q : ChannelQueue}

theorem NodeOk.newNode (hm : b.streamId ∈ q.bundledStreams) :
    NodeOk q.bundledStreams (newNode q (q.bundledStreams.idxOf b.streamId) b.info) := by
  have hlt := List.idxOf_lt_length_of_mem hm
  refine ⟨slots_set (slots_clear _ _) hm rfl, fun h1 s hs => ?_⟩
  have h1' : q.numStreams = 1 := by simpa [Superbuf.newNode] using h1
  have h0 : q.bundledStreams.idxOf b.streamId = 0 := Nat.lt_one_iff.mp (h1' ▸ hlt)
  obtain rfl : s = b.info := by simpa [Superbuf.newNode, h1', h0] using hs
  rfl

theorem newNode_held (hm : b.streamId ∈ q.bundledStreams) :
    (newNode q (q.bundledStreams.idxOf b.streamId) b.info).heldBufs.Perm [b] := by
  have hlt := List.idxOf_lt_length_of_mem hm
  have hclear : (List.replicate q.numStreams BufInfo.empty)[q.bundledStreams.idxOf b.streamId]? =
      some .empty := by simp [hlt, ChannelQueue.numStreams]
  have hh := slots_set_held (b := b) hclear
  simpa [QueueNode.heldBufs, Superbuf.newNode, BufInfo.empty] using hh

abbrev InOrder (ms us : List QueueNode) : Prop :=
  Split (fun n : QueueNode => n.matched = true) QueueNode.frameIdx ms us

structure Shape (q : ChannelQueue) : Prop where
  order : ∃ ms us, q.que = ms ++ us ∧ InOrder ms us
  matchCnt : q.matchCnt = q.que.countP (·.matched)
  size : q.size = q.que.length
  nodes : ∀ n ∈ q.que, NodeOk q.bundledStreams n
  single : q.numStreams = 1 → ∀ n ∈ q.que, n.matched = true

theorem Shape.congr {r : ChannelQueue} (h : Shape q) (hq : r.que = q.que) (hs : r.size = q.size)
    (hm : r.matchCnt = q.matchCnt) (hb : r.bundledStreams = q.bundledStreams) : Shape r :=
  ⟨hq ▸ h.order, by rw [hm, hq, h.matchCnt], by rw [hs, hq, h.size], by rw [hb, hq]; exact h.nodes,
    by rw [ChannelQueue.numStreams, hb, hq]; exact h.single⟩

theorem InOrder.matchedCount {ms us : List QueueNode} (h : InOrder ms us) :
    (ms ++ us).countP (·.matched) = ms.length := by
  have hm : ms.countP (·.matched) = ms.length := List.countP_eq_length.mpr h.ready
  have hu : us.countP (·.matched) = 0 := List.countP_eq_zero.mpr h.waiting
  rw [List.countP_append, hm, hu, Nat.add_zero]

theorem Shape.head_matched (h : Shape q) (hc : 0 < q.matchCnt) :
    ∃ n rest, q.que = n :: rest ∧ n.matched = true := by
  obtain ⟨ms, us, hq, ho⟩ := h.order
  have hl : q.matchCnt = ms.length := by rw [h.matchCnt, hq, ho.matchedCount]
  cases ms with
  | nil => simp [hl] at hc
  | cons m ms => exact ⟨m, ms ++ us, hq, ho.ready m (List.mem_cons_self ..)⟩

def ChannelQueue.pop (q : ChannelQueue) (n : QueueNode) (rest : List QueueNode) : ChannelQueue :=
  { q with que := rest, size := q.size - 1, matchCnt := q.matchCnt - n.matched.toNat }

inductive Fate
  | sent | lost | back
  deriving DecidableEq

def Channel.serve (ch : Channel) (mode : NotifyMode) (fate : Fate) (n : QueueNode)
    (rest : List QueueNode) (allocs : List (Bool × Bool)) : Channel := { ch with
  queue := ch.queue.pop n rest
  mem.dispatch := allocs
  pendingCnt := if mode = .burst then ch.pendingCnt - 1 else ch.pendingCnt
  trace.history := ch.trace.history ++ (if mode = .burst then [.countDown] else []) ++
    if fate = .sent then [.dispatched mode] else []
  trace.cbQueue := ch.trace.cbQueue ++ if fate = .sent then [n.toSuperBuf] else []
  trace.lost := ch.trace.lost ++ if fate = .lost then [n.toSuperBuf] else []
  trace.qbufs := ch.trace.qbufs ++ if fate = .back then n.heldBufs else [] }

def Channel.unlink (ch : Channel) (l older r : List QueueNode) : Channel := { ch with
  queue.que := l ++ r
  queue.size := ch.queue.size - older.length
  trace.qbufs := ch.trace.qbufs ++ older.flatMap QueueNode.framedBufs
  trace.released := ch.trace.released ++ older }

/-- One move; only a lossy one leaves buffers with nobody. -/
inductive Move (lossy : Prop) : Channel → Channel → Prop
  | give {ch : Channel} {n : QueueNode} {rest : List QueueNode} {back gone : List BufDef}
      (hq : ch.queue.que = n :: rest) (hp : (back ++ gone).Perm n.heldBufs)
      (hl : gone = [] ∨ lossy) :
      Move lossy ch { ch with
        queue := ch.queue.pop n rest
        trace.qbufs := ch.trace.qbufs ++ back
        trace.dropped := ch.trace.dropped ++ gone }
  | serve {ch : Channel} {n : QueueNode} {rest : List QueueNode} {allocs : List (Bool × Bool)}
      (mode : NotifyMode) (fate : Fate)
      (hq : ch.queue.que = n :: rest) (hm : n.matched = true)
      (hp : mode = .burst → 0 < ch.pendingCnt) (ha : allocs ⊆ ch.mem.dispatch)
      (hs : fate = .sent → ch.superBufNotifyCb = true) (hl : fate = .lost → lossy) :
      Move lossy ch (ch.serve mode fate n rest allocs)
  | evict {ch : Channel} {l r : List QueueNode} {n : QueueNode}
      (hq : ch.queue.que = l ++ n :: r) (hn : n.matched = false) :
      Move lossy ch (ch.unlink l [n] r)
  | retarget {ch : Channel} (id idWithoutLed : Nat) :
      Move lossy ch (ch.retarget id idWithoutLed)
  | request {ch : Channel} (num : Nat) :
      Move lossy ch { ch with
        pendingCnt := num, trace.history := ch.trace.history ++ [.request num] }
  | config {ch : Channel} (mode : NotifyMode) :
      Move lossy ch { ch with queue.attr.notifyMode := mode }
  | control {ch : Channel} {manual called led flash zoom : Bool} {skip : Nat}
      {bracketing : BracketingState} {calls : List ZslCall} :
      Move lossy ch { ch with
        manualZSLSnapshot := manual
        startZSlSnapshotCalled := called
        needLEDFlash := led
        previewSkipCnt := skip
        bracketingState := bracketing
        isFlashBracketingEnabled := flash
        isZoom1xFrameRequested := zoom
        trace.zslCalls := calls }

abbrev Path (lossy : Prop) := Relation.ReflTransGen (Move lossy)

inductive Settle (b : BufDef) : Channel → Channel → Prop
  | reject {ch : Channel} :
      Settle b ch { ch with trace.qbufs := ch.trace.qbufs ++ [b] }
  | fill {ch : Channel} {l r : List QueueNode} {n : QueueNode}
      (hq : ch.queue.que = l ++ n :: r) (hn : n.matched = false) (hf : b.frameIdx = n.frameIdx)
      (hb : (n.fill (ch.queue.bundledStreams.idxOf b.streamId) b.info).matched = false) :
      Settle b ch { ch with
        queue.que := l ++ n.fill (ch.queue.bundledStreams.idxOf b.streamId) b.info :: r }
  | complete {ch : Channel} {ms older r : List QueueNode} {n : QueueNode}
      (hq : ch.queue.que = ms ++ (older ++ n :: r)) (ho : InOrder ms (older ++ n :: r))
      (hf : b.frameIdx = n.frameIdx) (he : ch.queue.expectedFrameId ≤ b.frameIdx)
      (hb : (n.fill (ch.queue.bundledStreams.idxOf b.streamId) b.info).matched = true) :
      Settle b ch (countMatch b.frameIdx (ch.unlink ms older
        (n.fill (ch.queue.bundledStreams.idxOf b.streamId) b.info :: r)))
  | insert {ch : Channel} {ms l r : List QueueNode}
      (hq : ch.queue.que = ms ++ (l ++ r)) (ho : InOrder ms (l ++ r))
      (hl : ∀ n ∈ l, n.frameIdx < b.frameIdx) (hr : ∀ n ∈ r, b.frameIdx < n.frameIdx)
      (h1 : ch.queue.numStreams ≠ 1) :
      Settle b ch { ch with
        queue.que := ms ++ (l ++
          newNode ch.queue (ch.queue.bundledStreams.idxOf b.streamId) b.info :: r)
        queue.size := ch.queue.size + 1 }
  | single {ch : Channel} (he : ch.queue.expectedFrameId ≤ b.frameIdx)
      (h1 : ch.queue.numStreams = 1) (hm : ∀ n ∈ ch.queue.que, n.matched = true) :
      Settle b ch (countSingle b.frameIdx { ch with
        queue.que := ch.queue.que ++
          [newNode ch.queue (ch.queue.bundledStreams.idxOf b.streamId) b.info]
        queue.size := ch.queue.size + 1 })

theorem Shape.pop {rest : List QueueNode} (h : Shape q) (hq : q.que = n :: rest) :
    Shape (q.pop n rest) := by
  have hmem : ∀ m ∈ rest, m ∈ q.que := fun m hm => hq ▸ List.mem_cons_of_mem _ hm
  refine ⟨?_, ?_, ?_, fun m hm => h.nodes m (hmem m hm), fun h1 m hm => h.single h1 m (hmem m hm)⟩
  · obtain ⟨ms, us, hs, ho⟩ := h.order
    cases ms with
    | nil =>
      have hu : us = [] ++ n :: rest := hs.symm.trans hq
      exact ⟨[], rest, rfl, (hu ▸ ho).erase⟩
    | cons m ms =>
      obtain ⟨rfl, hr⟩ := List.cons.inj (hs.symm.trans hq)
      exact ⟨ms, us, hr.symm, ho.pop⟩
  · change q.matchCnt - n.matched.toNat = rest.countP (·.matched)
    rw [h.matchCnt, hq, List.countP_cons]
    cases n.matched <;> simp
  · change q.size - 1 = rest.length
    rw [h.size, hq, List.length_cons, Nat.add_sub_cancel]

theorem Shape.open_at {l r : List QueueNode} (h : Shape q) (hq : q.que = l ++ n :: r)
    (hn : n.matched = false) : ∃ ms k, l = ms ++ k ∧ InOrder ms (k ++ n :: r) := by
  obtain ⟨ms, us, hs, ho⟩ := h.order
  obtain ⟨k, rfl, rfl⟩ | ⟨k, rfl, hk⟩ := List.append_eq_append_iff.mp (hs.symm.trans hq)
  · exact ⟨ms, k, rfl, ho⟩
  · cases k with
    | nil =>
      rw [List.append_nil] at ho
      exact ⟨l, [], (List.append_nil l).symm, hk ▸ ho⟩
    | cons m k =>
      obtain ⟨rfl, _⟩ := List.cons.inj hk
      have hm := ho.ready n (by simp)
      simp [hn] at hm

variable {ch : Channel}

theorem Shape.unlink {l r : List QueueNode} (h : Shape ch.queue) (hq : ch.queue.que = l ++ n :: r)
    (hn : n.matched = false) : Shape (ch.unlink l [n] r).queue := by
  have hmem : ∀ m ∈ l ++ r, m ∈ ch.queue.que := by
    intro m hm
    rw [hq]
    simp only [List.mem_append, List.mem_cons] at hm ⊢
    exact hm.imp id Or.inr
  refine ⟨?_, ?_, ?_, fun m hm => h.nodes m (hmem m hm), fun h1 m hm => h.single h1 m (hmem m hm)⟩
  · obtain ⟨ms, k, rfl, ho⟩ := h.open_at hq hn
    exact ⟨ms, k ++ r, List.append_assoc .., ho.erase⟩
  · change ch.queue.matchCnt = (l ++ r).countP (·.matched)
    rw [h.matchCnt, hq]
    simp [hn]
  · change ch.queue.size - 1 = (l ++ r).length
    rw [h.size, hq]
    simp only [List.length_append, List.length_cons]
    omega

variable {lossy : Prop} {ch' : Channel}

theorem Move.bundled (h : Move lossy ch ch') :
    ch'.queue.bundledStreams = ch.queue.bundledStreams := by
  cases h <;> rfl

theorem Move.shape (h : Move lossy ch ch') (hs : Shape ch.queue) : Shape ch'.queue := by
  cases h with
  | give hq => exact hs.pop hq
  | serve mode fate hq => exact hs.pop hq
  | evict hq hn => exact hs.unlink hq hn
  | retarget | request | config | control => exact hs.congr rfl rfl rfl rfl

theorem Move.frame (h : Move lossy ch ch') :
    ch'.streams = ch.streams ∧ ch'.superBufNotifyCb = ch.superBufNotifyCb ∧
      ch'.trace.delivered = ch.trace.delivered ∧ ch'.trace.notified = ch.trace.notified ∧
      ch'.mem.dispatch ⊆ ch.mem.dispatch := by
  cases h with
  | serve mode fate hq hm hp ha => exact ⟨rfl, rfl, rfl, rfl, ha⟩
  | give | evict | retarget | request | config | control =>
    exact ⟨rfl, rfl, rfl, rfl, List.Subset.refl _⟩

theorem Path.frame (h : Path lossy ch ch') :
    ch'.streams = ch.streams ∧ ch'.superBufNotifyCb = ch.superBufNotifyCb ∧
      ch'.trace.delivered = ch.trace.delivered ∧ ch'.trace.notified = ch.trace.notified ∧
      ch'.mem.dispatch ⊆ ch.mem.dispatch := by
  induction h with
  | refl => exact ⟨rfl, rfl, rfl, rfl, List.Subset.refl _⟩
  | tail _ hm ih =>
    obtain ⟨h1, h2, h3, h4, h5⟩ := hm.frame
    obtain ⟨i1, i2, i3, i4, i5⟩ := ih
    exact ⟨h1.trans i1, h2.trans i2, h3.trans i3, h4.trans i4, List.Subset.trans h5 i5⟩

theorem Path.shape (h : Path lossy ch ch') (hs : Shape ch.queue) : Shape ch'.queue := by
  induction h with
  | refl => exact hs
  | tail _ hm ih => exact hm.shape ih

theorem Path.bundled (h : Path lossy ch ch') :
    ch'.queue.bundledStreams = ch.queue.bundledStreams := by
  induction h with
  | refl => rfl
  | tail _ hm ih => exact hm.bundled.trans ih

def Ends (lossy : Prop) (ch : Channel) (r : Option Channel) : Prop :=
  ∃ ch', r = some ch' ∧ Path lossy ch ch'

theorem Ends.here : Ends lossy ch (some ch) := ⟨ch, rfl, .refl⟩

theorem Ends.one (h : Move lossy ch ch') : Ends lossy ch (some ch') := ⟨ch', rfl, .single h⟩

theorem Ends.after {r : Option Channel} (hm : Move lossy ch ch') (h : Ends lossy ch' r) :
    Ends lossy ch r := by
  obtain ⟨c, rfl, hp⟩ := h
  exact ⟨c, rfl, .head hm hp⟩

theorem Ends.bind {r : Option Channel} {f : Channel → Option Channel} (h : Ends lossy ch r)
    (hf : ∀ c, Path lossy ch c → Ends lossy c (f c)) : Ends lossy ch (r.bind f) := by
  obtain ⟨c, rfl, hc⟩ := h
  obtain ⟨d, hd, hp⟩ := hf c hc
  exact ⟨d, hd, hc.trans hp⟩

theorem Ends.map {r : Option Channel} {f : Channel → Channel} (h : Ends lossy ch r)
    (hf : ∀ c, Move lossy c (f c)) : Ends lossy ch (r.map f) := by
  obtain ⟨c, rfl, hc⟩ := h
  exact ⟨f c, rfl, hc.tail (hf c)⟩

theorem Settle.bundled (h : Settle b ch ch') :
    ch'.queue.bundledStreams = ch.queue.bundledStreams := by
  cases h with
  | single => simp only [countSingle]; split <;> rfl
  | reject | fill | complete | insert => rfl

theorem Shape.rewrite {l r : List QueueNode} {m : QueueNode} (h : Shape q)
    (hq : q.que = l ++ n :: r) (hn : n.matched = false) (hm : m.matched = false)
    (hf : m.frameIdx = n.frameIdx) (hok : NodeOk q.bundledStreams m) :
    Shape { q with que := l ++ m :: r } := by
  have hmany : q.numStreams ≠ 1 := fun h1 => by
    have hh := h.single h1 n (hq ▸ by simp)
    simp [hn] at hh
  refine ⟨?_, ?_, ?_, fun k hk => ?_, fun h1 => absurd h1 hmany⟩
  · obtain ⟨ms, k, rfl, ho⟩ := h.open_at hq hn
    exact ⟨ms, k ++ m :: r, List.append_assoc .., ho.rewrite (by simp [hm]) hf⟩
  · change q.matchCnt = (l ++ m :: r).countP (·.matched)
    rw [h.matchCnt, hq]
    simp [hn, hm]
  · change q.size = (l ++ m :: r).length
    rw [h.size, hq, List.length_append, List.length_append, List.length_cons, List.length_cons]
  · rcases List.mem_append.mp hk with hk | hk
    · exact h.nodes k (hq ▸ List.mem_append_left _ hk)
    · rcases List.mem_cons.mp hk with rfl | hk
      · exact hok
      · exact h.nodes k (hq ▸ List.mem_append_right l (List.mem_cons_of_mem _ hk))

theorem Shape.complete {q : ChannelQueue} {ms older r : List QueueNode} {n m : QueueNode}
    (h : Shape q) (hq : q.que = ms ++ (older ++ n :: r)) (ho : InOrder ms (older ++ n :: r))
    (hm : m.matched = true) (hok : NodeOk q.bundledStreams m) :
    Shape { q with
      que := ms ++ m :: r, size := q.size - older.length, matchCnt := q.matchCnt + 1 } := by
  have hr : InOrder (ms ++ [m]) r := (ho.drop_front (l := older)).finish_front hm
  have hmany : q.numStreams ≠ 1 := fun h1 =>
    ho.waiting n (by simp) (h.single h1 n (hq ▸ by simp))
  refine ⟨⟨ms ++ [m], r, by simp, hr⟩, ?_, ?_, fun k hk => ?_, fun h1 => absurd h1 hmany⟩
  · change q.matchCnt + 1 = (ms ++ m :: r).countP (·.matched)
    rw [h.matchCnt, hq, ho.matchedCount, List.append_cons, hr.matchedCount, List.length_append,
      List.length_singleton]
  · change q.size - older.length = (ms ++ m :: r).length
    rw [h.size, hq]
    simp only [List.length_append, List.length_cons]
    omega
  · rcases List.mem_append.mp hk with hk | hk
    · exact h.nodes k (hq ▸ List.mem_append_left _ hk)
    · rcases List.mem_cons.mp hk with rfl | hk
      · exact hok
      · refine h.nodes k (hq ▸ List.mem_append_right ms (List.mem_append_right older ?_))
        exact List.mem_cons_of_mem _ hk

theorem Shape.insert {q : ChannelQueue} {ms l r : List QueueNode} {m : QueueNode} (h : Shape q)
    (hq : q.que = ms ++ (l ++ r)) (ho : InOrder ms (l ++ m :: r)) (hok : NodeOk q.bundledStreams m)
    (hmany : q.numStreams ≠ 1) :
    Shape { q with que := ms ++ (l ++ m :: r), size := q.size + 1 } := by
  have hm : m.matched = false := by simpa using ho.waiting m (by simp)
  refine ⟨⟨ms, _, rfl, ho⟩, ?_, ?_, fun k hk => ?_, fun h1 => absurd h1 hmany⟩
  · change q.matchCnt = (ms ++ (l ++ m :: r)).countP (·.matched)
    rw [h.matchCnt, hq, ho.matchedCount, InOrder.matchedCount ho.erase]
  · change q.size + 1 = (ms ++ (l ++ m :: r)).length
    rw [h.size, hq]
    simp only [List.length_append, List.length_cons]
    omega
  · have hk' : k ∈ ms ++ (l ++ m :: r) := hk
    by_cases he : k = m
    · exact he ▸ hok
    · refine h.nodes k (hq ▸ ?_)
      simpa [he] using hk'

theorem Shape.append_matched {m : QueueNode} {id : Nat} (h : Shape q)
    (hall : ∀ n ∈ q.que, n.matched = true) (hm : m.matched = true) (hok : NodeOk q.bundledStreams m)
    :
    Shape { q with
      que := q.que ++ [m], size := q.size + 1, expectedFrameId := id, matchCnt := q.matchCnt + 1 } := by
  have hall' : ∀ n ∈ q.que ++ [m], n.matched = true := by
    intro n hn
    rcases List.mem_append.mp hn with hn | hn
    · exact hall n hn
    · rwa [List.mem_singleton.mp hn]
  refine ⟨⟨q.que ++ [m], [], (List.append_nil _).symm, hall', by simp, .nil⟩, ?_, ?_, fun k hk => ?_,
    fun _ => hall'⟩
  · change q.matchCnt + 1 = (q.que ++ [m]).countP (·.matched)
    rw [h.matchCnt, List.countP_append, List.countP_singleton, if_pos hm]
  · change q.size + 1 = (q.que ++ [m]).length
    rw [h.size, List.length_append, List.length_singleton]
  · rcases List.mem_append.mp hk with hk | hk
    · exact h.nodes k hk
    · rwa [List.mem_singleton.mp hk]

theorem Settle.shape (h : Settle b ch ch') (hs : Shape ch.queue)
    (hm : b.streamId ∈ ch.queue.bundledStreams) : Shape ch'.queue := by
  have hnew := NodeOk.newNode hm
  cases h with
  | reject => exact hs
  | @fill l r n hq hn hf hu =>
    have hok := (hs.nodes n (hq ▸ List.mem_append_right l (List.mem_cons_self ..))).fill hm hf
    exact hs.rewrite hq hn hu rfl hok
  | @complete ms older r n hq ho hf he hb =>
    have hok := (hs.nodes n (hq ▸ by simp)).fill hm hf
    exact (hs.complete hq ho hb hok).congr rfl rfl rfl rfl
  | insert hq ho hl hr h1 =>
    exact hs.insert hq (ho.insert (by simpa [newNode] using h1) hl hr) hnew h1
  | single he h1 hmatched =>
    have h1' : ch.queue.bundledStreams.length = 1 := h1
    simp only [countSingle, ChannelQueue.numStreams, h1', if_true]
    exact hs.append_matched hmatched (by simp [newNode, h1]) hnew

theorem Move.nodes {P : QueueNode → Prop} (h : Move lossy ch ch') (hn : ∀ n ∈ ch.queue.que, P n) :
    ∀ n ∈ ch'.queue.que, P n := by
  cases h with
  | give hq => exact fun m hm => hn m (hq ▸ List.mem_cons_of_mem _ hm)
  | serve mode fate hq => exact fun m hm => hn m (hq ▸ List.mem_cons_of_mem _ hm)
  | @evict l r n hq =>
    intro m hm
    have hm' : m ∈ l ++ r := hm
    refine hn m (hq ▸ ?_)
    simp only [List.mem_append, List.mem_cons] at hm' ⊢
    exact hm'.imp id Or.inr
  | retarget | request | config | control => exact hn

end Wt88047.Superbuf
