import Wt88047.MmCamera.SuperbufMoves

/-! Every operation on a well-shaped queue ends, dereferences no null pointer of the queue,
and is a sequence of moves. -/

namespace Wt88047.Superbuf

open ReadyQueue

variable {matchedOnly : Bool}

theorem superbufDequeueInternal_some {q q' : ChannelQueue} {n : QueueNode} (h : Shape q)
    (hd : superbufDequeueInternal q matchedOnly = (some n, q')) :
    ∃ rest, q.que = n :: rest ∧ q' = q.pop n rest ∧ (matchedOnly = true → n.matched = true) := by
  have hsize := h.size
  have hcnt := h.matchCnt
  cases hq : q.que with
  | nil => simp [superbufDequeueInternal, hq] at hd
  | cons m rest =>
    rw [hq, List.length_cons] at hsize
    rw [hq, List.countP_cons] at hcnt
    simp only [superbufDequeueInternal, hq] at hd
    split at hd
    · simp at hd
    · rename_i hguard
      simp only [Prod.mk.injEq, Option.some.injEq] at hd
      obtain ⟨rfl, rfl⟩ := hd
      refine ⟨rest, rfl, ?_, fun hm => by simpa [hm] using hguard⟩
      cases hm : m.matched with
      | false => simp [ChannelQueue.pop, hm, hsize]
      | true => simp [ChannelQueue.pop, hm, hsize, hcnt]

theorem superbufDequeueInternal_none {q q' : ChannelQueue}
    (hd : superbufDequeueInternal q matchedOnly = (none, q')) :
    q.que = [] ∨ ∃ n rest, q.que = n :: rest ∧ n.matched = false := by
  cases hq : q.que with
  | nil => exact Or.inl rfl
  | cons m rest =>
    simp only [superbufDequeueInternal, hq] at hd
    split at hd
    · rename_i hguard
      exact Or.inr ⟨m, rest, rfl, by simp at hguard; exact hguard.2⟩
    · simp at hd

theorem superbufDequeueInternal_same {q q' : ChannelQueue}
    (hd : superbufDequeueInternal q matchedOnly = (none, q')) : q' = q := by
  unfold superbufDequeueInternal at hd
  split at hd
  · exact (congrArg Prod.snd hd).symm
  · split at hd
    · exact (congrArg Prod.snd hd).symm
    · simp at hd

variable {ch : Channel}

theorem releaseTurn_move (lossy : Prop) {limit : Nat} {ch' : Channel} (h : Shape ch.queue)
    (hb : releaseTurn limit ch = some ch') :
    Move lossy ch ch' ∧ ch'.queue.que.length < ch.queue.que.length := by
  by_cases hc : limit < ch.queue.matchCnt
  · simp only [releaseTurn, hc, if_true] at hb
    obtain ⟨n, rest, hq, hn⟩ := h.head_matched (by omega)
    cases hd : superbufDequeueInternal ch.queue true with
    | mk o q =>
      cases o with
      | none =>
        obtain he | ⟨m, rest', he, hm⟩ := superbufDequeueInternal_none hd
        · simp [hq] at he
        · obtain ⟨rfl, _⟩ := List.cons.inj (hq.symm.trans he)
          simp [hn] at hm
      | some m =>
        obtain ⟨rest', hq', rfl, _⟩ := superbufDequeueInternal_some h hd
        simp only [hd, Option.some.injEq] at hb
        subst hb
        have hperm : (m.heldBufs ++ []).Perm m.heldBufs := by simp
        have hmove := @Move.give lossy ch m rest' m.heldBufs [] hq' hperm (Or.inl rfl)
        refine ⟨by simpa using hmove, ?_⟩
        simp [ChannelQueue.pop, hq']
  · simp [releaseTurn, hc] at hb

variable {lossy : Prop}

theorem releaseAbove_ends (limit : Nat) (h : Shape ch.queue) :
    Ends lossy ch (releaseAbove limit ch) := by
  by_cases hmode : ch.queue.attr.notifyMode = .continuous
  · exact ⟨ch, by simp [releaseAbove, hmode], .refl⟩
  · have hstep : ∀ s t, (Path lossy ch s ∧ Shape s.queue) → releaseTurn limit s = some t →
        (Path lossy ch t ∧ Shape t.queue) ∧ t.queue.que.length < s.queue.que.length := by
      intro s t hs ht
      obtain ⟨hm, hl⟩ := releaseTurn_move lossy hs.2 ht
      exact ⟨⟨hs.1.tail hm, hm.shape hs.2⟩, hl⟩
    obtain ⟨ch', hrun⟩ := Loop.run_total hstep (s := ch) ⟨.refl, h⟩ (Nat.le_refl _)
    refine ⟨ch', by simp [releaseAbove, hmode, hrun], ?_⟩
    exact (Loop.run_invariant (fun s t hs ht => (hstep s t hs ht).1) ⟨.refl, h⟩ hrun).1

theorem drainTurn_move {lossy matchedOnly} {back : BufDef → Bool} {ch' : Channel}
    (h : Shape ch.queue) (hl : (∀ b, back b = true) ∨ lossy)
    (hb : drainTurn matchedOnly back ch = some ch') :
    Move lossy ch ch' ∧ ch'.queue.que.length < ch.queue.que.length := by
  cases hd : superbufDequeueInternal ch.queue matchedOnly with
  | mk o q =>
    cases o with
    | none => simp [drainTurn, hd] at hb
    | some n =>
      obtain ⟨rest, hq, rfl, _⟩ := superbufDequeueInternal_some h hd
      simp only [drainTurn, hd, Option.some.injEq] at hb
      subst hb
      refine ⟨.give hq (List.filter_append_perm back n.heldBufs) (hl.imp (fun hall => ?_) id), ?_⟩
      · simp [hall]
      · simp [ChannelQueue.pop, hq]

theorem drain_ends (matchedOnly : Bool) {back : BufDef → Bool} (h : Shape ch.queue)
    (hl : (∀ b, back b = true) ∨ lossy) : Ends lossy ch (drain matchedOnly back ch) := by
  have hstep : ∀ s t, (Path lossy ch s ∧ Shape s.queue) → drainTurn matchedOnly back s = some t →
      (Path lossy ch t ∧ Shape t.queue) ∧ t.queue.que.length < s.queue.que.length := by
    intro s t hs ht
    obtain ⟨hm, hlt⟩ := drainTurn_move hs.2 hl ht
    exact ⟨⟨hs.1.tail hm, hm.shape hs.2⟩, hlt⟩
  obtain ⟨ch', hrun⟩ := Loop.run_total hstep (s := ch) ⟨.refl, h⟩ (Nat.le_refl _)
  exact ⟨ch', hrun, (Loop.run_invariant (fun s t hs ht => (hstep s t hs ht).1) ⟨.refl, h⟩ hrun).1⟩

theorem superbufFlush_ends (lossy : Prop) (ch : Channel) (camType : StreamType)
    (h : Shape ch.queue) (hl : camType = .default ∨ lossy) :
    Ends lossy ch (superbufFlush camType ch) :=
  drain_ends false h (hl.imp (fun hd b => by simp [hd]) id)

theorem superbufFlushMatched_ends (h : Shape ch.queue) : Ends lossy ch (superbufFlushMatched ch) :=
  drain_ends true h (Or.inl fun _ => rfl)

theorem handleFrameIdReset_ends (lossy : Prop) (m : MetadataInfo) (h : Shape ch.queue) :
    Ends lossy ch (handleFrameIdReset m ch) := by
  unfold handleFrameIdReset
  split
  · exact (superbufFlush_ends _ _ _ h (Or.inl rfl)).map fun c => .retarget 1 _
  · exact .here

theorem handleZoom1x_ends (lossy : Prop) (found : Bool) (frameIdx : Nat) (h : Shape ch.queue) :
    Ends lossy ch (handleZoom1x found frameIdx ch) := by
  unfold handleZoom1x
  split
  · exact .after .control (.one (.retarget _ _))
  · exact .after (.retarget _ _) (superbufFlushMatched_ends (h.congr rfl rfl rfl rfl))

theorem handlePrepSnapshot_ends (lossy : Prop) (m : MetadataInfo) (h : Shape ch.queue) :
    Ends lossy ch (handlePrepSnapshot m ch) := by
  unfold handlePrepSnapshot
  split
  · split
    · have hf := superbufFlush_ends lossy ch.expectFuture .default (h.congr rfl rfl rfl rfl)
        (Or.inl rfl)
      exact .after (.retarget _ _) (hf.map fun c => .control)
    · exact .one .control
  · split
    · exact .one (.retarget _ _)
    · split
      · exact (superbufFlushMatched_ends h).map fun c => .retarget _ _
      · exact .here

theorem handleGoodFrameRange_path (m : MetadataInfo) (ch : Channel) :
    Path lossy ch (handleGoodFrameRange m ch) := by
  unfold handleGoodFrameRange
  split
  · exact .single (.retarget _ _)
  · split
    · exact .head (.retarget _ _) (.single .control)
    · exact .refl

theorem handleOwnMetadata_path (lossy : Prop) (m : MetadataInfo) (frameIdx : Nat)
    (h : Shape ch.queue) :
    (handleOwnMetadata m frameIdx ch = none ∧ snapshotStreamId ch.streams = none) ∨
      ∃ rc ch', handleOwnMetadata m frameIdx ch = some (rc, ch') ∧ Path lossy ch ch' := by
  unfold handleOwnMetadata
  cases hid : snapshotStreamId ch.streams with
  | none => exact Or.inl ⟨rfl, rfl⟩
  | some id =>
    right
    rw [Option.bind_some]
    split
    · exact ⟨-1, ch, rfl, .refl⟩
    · split
      · obtain ⟨c, hc, hp⟩ := handleZoom1x_ends lossy (isCrop1xFound m id) frameIdx h
        exact ⟨0, c, by rw [hc]; rfl, hp⟩
      · obtain ⟨c, hc, hp⟩ := handlePrepSnapshot_ends lossy m h
        exact ⟨0, _, by rw [hc]; rfl, hp.trans (handleGoodFrameRange_path m c)⟩

theorem handleMetadata_path (lossy : Prop) (b : BufDef) (h : Shape ch.queue) :
    (handleMetadata ch b.info = none ∧ snapshotStreamId ch.streams = none) ∨
      ∃ rc ch', handleMetadata ch b.info = some (rc, ch') ∧ Path lossy ch ch' := by
  cases hs : utilGetStreamByHandler ch b.streamId with
  | none => exact Or.inr ⟨-1, ch, by simp [handleMetadata, BufDef.info, hs], .refl⟩
  | some s =>
    cases ht : s.streamType with
    | none => exact Or.inr ⟨-1, ch, by simp [handleMetadata, BufDef.info, hs, ht], .refl⟩
    | some t =>
      by_cases hmeta : t = .metadata
      · cases hm : b.metadata with
        | none =>
          exact Or.inr ⟨-1, ch, by simp [handleMetadata, BufDef.info, hs, ht, hmeta, hm], .refl⟩
        | some m =>
          obtain ⟨c, hc, hp⟩ := handleFrameIdReset_ends lossy m h
          have hstep : handleMetadata ch b.info = if m.isMetaInvalid then some (-1, c)
              else if s.ownChannel then handleOwnMetadata m b.frameIdx c else some (0, c) := by
            simp [handleMetadata, BufDef.info, hs, ht, hmeta, hm, hc]
          rw [hstep, ← hp.frame.1]
          split
          · exact Or.inr ⟨-1, c, rfl, hp⟩
          · split
            · refine (handleOwnMetadata_path lossy m b.frameIdx (hp.shape h)).imp id ?_
              rintro ⟨rc, d, hd, hq⟩
              exact ⟨rc, d, hd, hp.trans hq⟩
            · exact Or.inr ⟨0, c, rfl, hp⟩
      · exact Or.inr ⟨0, ch, by simp [handleMetadata, BufDef.info, hs, ht, hmeta], .refl⟩

end Wt88047.Superbuf
