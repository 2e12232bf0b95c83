import Wt88047.MmCamera.SuperbufInvariant

/-! The rule that carries an invariant of the queue over the runs of the channel thread, and what the arrival of
one buffer does to the queue, branch by branch. -/

namespace Wt88047.Superbuf

open ReadyQueue

def ThreadEvent.arrival (ch : Channel) : ThreadEvent → Option (BufDef × Channel)
  | .op (.compAndEnqueue b) mem => some (b, { ch with mem := mem, trace.delivered := ch.trace.delivered ++ [b] })
  | .event (.command (.dataCb b) mem) =>
    some (b, { ch with mem := mem, trace.delivered := ch.trace.delivered ++ [b] })
  | _ => none

variable {ch : Channel} {b : BufDef}

theorem ThreadEvent.arrival_eq {c : Channel} {e : ThreadEvent} (h : e.arrival ch = some (b, c)) :
    e.delivery = some b ∧ c.queue = ch.queue ∧ c.trace.released = ch.trace.released := by
  unfold ThreadEvent.arrival at h
  split at h
  · obtain ⟨rfl, rfl⟩ := Prod.mk.inj (Option.some.inj h)
    exact ⟨rfl, rfl, rfl⟩
  · obtain ⟨rfl, rfl⟩ := Prod.mk.inj (Option.some.inj h)
    exact ⟨rfl, rfl, rfl⟩
  · cases h

def Channel.back (b : BufDef) (ch : Channel) : Channel := { ch with trace.qbufs := ch.trace.qbufs ++ [b] }

/-- The buffer gets a node of its own between `l` and `r`, or goes back when there is no memory for one. -/
def Channel.place (l r : List QueueNode) (b : BufDef) (ch : Channel) : Channel :=
  if ch.mem.newBuf && ch.mem.newNode then
    countSingle b.frameIdx { ch with
      queue.que := l ++ newNode ch.queue (ch.queue.bundledStreams.idxOf b.streamId) b.info :: r
      queue.size := ch.queue.size + 1 }
  else ch.back b

def ChannelQueue.openCount (q : ChannelQueue) : Nat := q.que.countP (!·.matched)

theorem scanQueue_unmatched (f : Nat) {que : List QueueNode} {pos : Nat} {r : Scan}
    (h : (scanQueue f que pos r).found = none) (hr : r.unmatchedBundles < 2 ^ 8) :
    (scanQueue f que pos r).unmatchedBundles = (r.unmatchedBundles + que.countP (!·.matched)) % 2 ^ 8 := by
  induction que generalizing pos r with
  | nil =>
    rw [List.countP_nil, Nat.add_zero, Nat.mod_eq_of_lt hr]
    rfl
  | cons n que ih =>
    unfold scanQueue at h ⊢
    by_cases hn : n.matched = true
    · rw [if_pos hn] at h ⊢
      rw [ih h hr, List.countP_cons_of_neg (by simp [hn])]
    · rw [if_neg hn] at h ⊢
      by_cases hf : f = n.frameIdx
      · rw [if_pos hf] at h
        cases h
      · rw [if_neg hf] at h ⊢
        rw [ih h (Nat.mod_lt _ (by decide)), List.countP_cons_of_pos (by simpa using hn)]
        show ((r.unmatchedBundles + 1) % 2 ^ 8 + _) % 2 ^ 8 = _
        omega

theorem place_eq {l r : List QueueNode} {pos : Nat} (hq : ch.queue.que = l ++ r)
    (hpos : pos = l.length) :
    (if ch.mem.newBuf && ch.mem.newNode then
      some (countSingle b.info.frameIdx { ch with
        queue.que := ch.queue.que.insertIdx pos
          (newNode ch.queue (ch.queue.bundledStreams.idxOf b.streamId) b.info)
        queue.size := ch.queue.size + 1 })
    else qbufAll ch [b.info.buf]) = some (ch.place l r b) := by
  rw [hpos, hq, insertIdx_append_length]
  unfold Channel.place
  split <;> rfl

theorem enqueueNew_eq {ms l r : List QueueNode} {s : Scan} (h : Shape ch.queue)
    (hq : ch.queue.que = ms ++ (l ++ r))
    (hlast : s.lastBuf = if l = [] then none else some ms.length)
    (hins : s.insertBeforeBuf = if r = [] then none else some (ms ++ l).length) :
    enqueueNew (ch.queue.bundledStreams.idxOf b.streamId) s b.info ch =
      some (if ch.queue.attr.maxUnmatchedFrames < s.unmatchedBundles then
        match l with
        | [] => ch.back b
        | n :: l => (ch.unlink ms [n] (l ++ r)).place (ms ++ l) r b
      else ch.place (ms ++ l) r b) := by
  unfold enqueueNew
  by_cases hmax : ch.queue.attr.maxUnmatchedFrames < s.unmatchedBundles
  · rw [if_pos hmax]
    cases l with
    | nil =>
      rw [if_pos ⟨hmax, by simpa using hlast⟩]
      rfl
    | cons n l =>
      have hlast' : s.lastBuf = some ms.length := by simpa using hlast
      have hpos := insertPosition_eq (c := ch.unlink ms [n] (l ++ r)) (l := l) hlast' hins hmax
      rw [if_neg (by simp [hlast']), evictOldest_eq h hq hlast' hmax, Option.bind_some]
      exact place_eq (List.append_assoc ..).symm hpos
  · have hev : evictOldest s ch = some ch := by simp [evictOldest, hmax]
    have hpos : insertPosition s ch ch.queue.que.length = (ms ++ l).length := by
      by_cases hnil : r = []
      · simp [insertPosition, hins, hnil, hq]
      · simp [insertPosition, hins, hnil, hmax]
    rw [if_neg hmax, if_neg (fun hc => hmax hc.1), hev, Option.bind_some]
    exact place_eq (by rw [hq, List.append_assoc]) hpos

/-- The buffer passes the checks in front of the matching; `c` is the state then. -/
structure Admitted (b : BufDef) (ch c : Channel) : Prop where
  bundled : b.streamId ∈ ch.queue.bundledStreams
  handled : ∃ rc, handleMetadata ch b.info = some (rc, c) ∧ 0 ≤ rc
  expected : c.queue.expectedFrameId ≤ b.frameIdx

def Channel.join (ms l : List QueueNode) (n : QueueNode) (r : List QueueNode) (b : BufDef) (ch : Channel) :
    Channel :=
  if (n.fill (ch.queue.bundledStreams.idxOf b.streamId) b.info).matched then
    countMatch b.frameIdx (ch.unlink ms l (n.fill (ch.queue.bundledStreams.idxOf b.streamId) b.info :: r))
  else
    { ch with queue.que := ms ++ (l ++ n.fill (ch.queue.bundledStreams.idxOf b.streamId) b.info :: r) }

inductive Arrived (b : BufDef) (ch : Channel) : Channel → Prop
  | unbundled (hb : b.streamId ∉ ch.queue.bundledStreams) : Arrived b ch ch
  | refused {rc : Int} {c : Channel} (hc : handleMetadata ch b.info = some (rc, c))
      (hno : rc < 0 ∨ b.frameIdx < c.queue.expectedFrameId) : Arrived b ch (c.back b)
  | joined {c : Channel} {ms l r : List QueueNode} {n : QueueNode} (ha : Admitted b ch c)
      (hq : c.queue.que = ms ++ (l ++ n :: r)) (ho : InOrder ms (l ++ n :: r)) (hf : n.frameIdx = b.frameIdx) :
      Arrived b ch (c.join ms l n r b)
  | older {c : Channel} {ms r : List QueueNode} (ha : Admitted b ch c) (hq : c.queue.que = ms ++ r)
      (ho : InOrder ms r) (hr : ∀ n ∈ r, b.frameIdx < n.frameIdx)
      (hfull : c.queue.attr.maxUnmatchedFrames < c.queue.openCount % 2 ^ 8) : Arrived b ch (c.back b)
  | evicting {c : Channel} {ms l r : List QueueNode} {n : QueueNode} (ha : Admitted b ch c)
      (hq : c.queue.que = ms ++ n :: (l ++ r)) (ho : InOrder ms (n :: (l ++ r)))
      (hl : ∀ m ∈ n :: l, m.frameIdx < b.frameIdx) (hr : ∀ m ∈ r, b.frameIdx < m.frameIdx)
      (hfull : c.queue.attr.maxUnmatchedFrames < c.queue.openCount % 2 ^ 8) :
      Arrived b ch ((c.unlink ms [n] (l ++ r)).place (ms ++ l) r b)
  | placed {c : Channel} {ms l r : List QueueNode} (ha : Admitted b ch c) (hq : c.queue.que = ms ++ (l ++ r))
      (ho : InOrder ms (l ++ r)) (hl : ∀ m ∈ l, m.frameIdx < b.frameIdx) (hr : ∀ m ∈ r, b.frameIdx < m.frameIdx)
      (hroom : ¬ c.queue.attr.maxUnmatchedFrames < c.queue.openCount % 2 ^ 8) :
      Arrived b ch (c.place (ms ++ l) r b)

theorem handleMetadata_some {c : Channel} {rc : Int} (h : Shape ch.queue)
    (hc : handleMetadata ch b.info = some (rc, c)) : Path True ch c := by
  rcases handleMetadata_path True b h with ⟨hnone, -⟩ | ⟨rc', c', hc', hp⟩
  · rw [hnone] at hc
    cases hc
  · rw [hc'] at hc
    obtain ⟨-, rfl⟩ := Prod.mk.inj (Option.some.inj hc)
    exact hp

theorem Admitted.path {c : Channel} (ha : Admitted b ch c) (h : Shape ch.queue) :
    Path True ch c := by
  obtain ⟨rc, hc, -⟩ := ha.handled
  exact handleMetadata_some h hc

theorem locked_arrived {c c' : Channel} (ha : Admitted b ch c) (h : Shape c.queue)
    (hc : compAndEnqueueLocked (c.queue.bundledStreams.idxOf b.streamId) b.info c = some c') :
    Arrived b ch c' := by
  simp only [compAndEnqueueLocked] at hc
  cases scanQueue_spec h b.info.frameIdx with
  | hit ms l n r hq ho hf hfound hlast =>
    rw [hfound, hlast] at hc
    simp only [fillNode_eq h hq, Option.some.injEq] at hc
    subst hc
    exact .joined ha hq ho hf
  | miss ms l r hq ho hl hr hfound hlast hins =>
    rw [hfound] at hc
    simp only [enqueueNew_eq h hq hlast hins, Option.some.injEq] at hc
    subst hc
    have hcount : (scanQueue b.info.frameIdx c.queue.que 0 ⟨none, 0, none, none⟩).unmatchedBundles =
        c.queue.openCount % 2 ^ 8 := by
      rw [scanQueue_unmatched b.info.frameIdx hfound (by decide), Nat.zero_add]
      rfl
    rw [hcount]
    split
    · next hfull =>
      cases l with
      | nil => exact .older ha hq ho hr hfull
      | cons n l => exact .evicting ha hq ho hl hr hfull
    · next hroom => exact .placed ha hq ho hl hr hroom

theorem superbufCompAndEnqueue_unbundled (hb : b.streamId ∉ ch.queue.bundledStreams) :
    superbufCompAndEnqueue ch b.info = some ch := by
  have hslot : ch.queue.bundledStreams.idxOf b.info.streamId = ch.queue.numStreams := List.idxOf_eq_length hb
  simp only [superbufCompAndEnqueue, hslot, if_true]

variable {ch' : Channel}

theorem superbufCompAndEnqueue_arrived (h : Shape ch.queue)
    (hc : superbufCompAndEnqueue ch b.info = some ch') : Arrived b ch ch' := by
  by_cases hb : b.streamId ∈ ch.queue.bundledStreams
  · simp only [superbufCompAndEnqueue] at hc
    have hslot : ch.queue.bundledStreams.idxOf b.info.streamId ≠ ch.queue.numStreams :=
      Nat.ne_of_lt (List.idxOf_lt_length_of_mem hb)
    rw [if_neg hslot] at hc
    rcases handleMetadata_path True b h with ⟨hnone, -⟩ | ⟨rc, c, hmeta, hp⟩
    · rw [hnone] at hc
      cases hc
    · rw [hmeta, Option.bind_some] at hc
      dsimp only at hc
      split at hc
      · next hneg =>
        obtain rfl := Option.some.inj hc
        exact .refused hmeta (.inl hneg)
      · next hrc =>
        split at hc
        · next hold =>
          obtain rfl := Option.some.inj hc
          exact .refused hmeta (.inr hold)
        · next hexp =>
          have ha : Admitted b ch c := ⟨hb, ⟨rc, hmeta, Int.not_lt.mp hrc⟩, Nat.not_lt.mp hexp⟩
          refine locked_arrived ha (hp.shape h) ?_
          rw [hp.bundled]
          exact hc
  · obtain rfl := Option.some.inj ((superbufCompAndEnqueue_unbundled hb).symm.trans hc)
    exact .unbundled hb

theorem superbufCompAndEnqueue_shape (h : Shape ch.queue)
    (hc : superbufCompAndEnqueue ch b.info = some ch') : Shape ch'.queue := by
  by_cases hb : b.streamId ∈ ch.queue.bundledStreams
  · rcases superbufCompAndEnqueue_settle True ch h hb with ⟨hnone, -⟩ | ⟨mid, c, hsome, hpath, hsettle⟩
    · rw [hnone] at hc
      cases hc
    · rw [hsome] at hc
      obtain rfl := Option.some.inj hc
      exact hsettle.shape (hpath.shape h) (hpath.bundled ▸ hb)
  · exact Option.some.inj ((superbufCompAndEnqueue_unbundled hb).symm.trans hc) ▸ h

theorem Effect.path {lossy : Prop} {cmd : Cmd} (h : Effect lossy cmd ch ch')
    (hcmd : ∀ b, cmd ≠ .dataCb b) : Path lossy ch ch' := by
  cases cmd with
  | dataCb b => exact absurd rfl (hcmd b)
  | reqDataCb | startZsl | stopZsl | configNotify | flushQueue | general => exact h

/-- An invariant of the moves, that a dequeue keeps too and that only the queue and the released nodes
matter for. -/
structure Kept (I : Channel → Prop) : Prop where
  move : ∀ {ch ch'}, Move True ch ch' → Shape ch.queue → I ch → I ch'
  frame : ∀ {ch ch' : Channel}, ch'.queue = ch.queue → ch'.trace.released = ch.trace.released → I ch → I ch'
  pop : ∀ {ch : Channel} {n rest}, ch.queue.que = n :: rest → I ch → I { ch with queue := ch.queue.pop n rest }

variable {I : Channel → Prop}

theorem Kept.path (hk : Kept I) (h : Path True ch ch') (hs : Shape ch.queue) (hi : I ch) :
    I ch' := by
  induction h with
  | refl => exact hi
  | tail hp hm ih => exact hk.move hm (Path.shape hp hs) ih

theorem Kept.ends (hk : Kept I) {r : Option Channel} (hend : Ends True ch r) (hr : r = some ch')
    (hs : Shape ch.queue) (hi : I ch) : Shape ch'.queue ∧ I ch' := by
  obtain ⟨c, rfl, hp⟩ := hend
  obtain rfl := Option.some.inj hr
  exact ⟨hp.shape hs, hk.path hp hs hi⟩

theorem Kept.dequeue (hk : Kept I) (hs : Shape ch.queue) (hi : I ch) :
    Shape (superbufDequeue ch.queue).2 ∧ I { ch with queue := (superbufDequeue ch.queue).2 } := by
  cases hdq : superbufDequeueInternal ch.queue true with
  | mk r q =>
    have hq : (superbufDequeue ch.queue).2 = q := congrArg Prod.snd hdq
    rw [hq]
    cases r with
    | none =>
      rw [superbufDequeueInternal_same hdq]
      exact ⟨hs, hi⟩
    | some n =>
      obtain ⟨rest, hque, rfl, -⟩ := superbufDequeueInternal_some hs hdq
      exact ⟨hs.pop hque, hk.pop hque hi⟩

theorem Kept.step (hk : Kept I) {e : ThreadEvent} (hs : Shape ch.queue) (hi : I ch)
    (harr : ∀ b c c', e.arrival ch = some (b, c) → Shape c.queue → I c → Arrived b c c' → I c')
    (h : threadStep ch e = some ch') : Shape ch'.queue ∧ I ch' := by
  have hframe : ∀ c : Channel, c.queue = ch.queue → c.trace.released = ch.trace.released →
      Shape c.queue ∧ I c := fun c hq hr => ⟨hq ▸ hs, hk.frame hq hr hi⟩
  have henter : ∀ b c c', e.arrival ch = some (b, c) → c.queue = ch.queue →
      c.trace.released = ch.trace.released → superbufCompAndEnqueue c b.info = some c' → Shape c'.queue ∧ I c' := by
    intro b c c' ha hq hr hc
    obtain ⟨hcs, hci⟩ := hframe c hq hr
    exact ⟨superbufCompAndEnqueue_shape hcs hc, harr b c c' ha hcs hci (superbufCompAndEnqueue_arrived hcs hc)⟩
  cases e with
  | op o mem =>
    obtain ⟨hms, hmi⟩ := hframe { ch with mem := mem } rfl rfl
    cases o with
    | compAndEnqueue b => exact henter b _ ch' rfl rfl rfl h
    | dequeue =>
      obtain rfl := Option.some.inj h
      exact hk.dequeue hms hmi
    | bufdoneOverflow => exact hk.ends (releaseAbove_ends _ hms) h hms hmi
    | skip => exact hk.ends (releaseAbove_ends _ hms) h hms hmi
    | flush camType => exact hk.ends (superbufFlush_ends _ _ _ hms (Or.inr trivial)) h hms hmi
    | flushMatched => exact hk.ends (superbufFlushMatched_ends hms) h hms hmi
  | event e =>
    cases e with
    | callback =>
      obtain rfl := Option.some.inj h
      obtain ⟨hq, -, hr⟩ := dispatchSuperBuf_queue ch
      exact hframe _ hq hr
    | command cmd mem =>
      obtain ⟨hms, hmi⟩ := hframe { ch with mem := mem } rfl rfl
      by_cases hcmd : ∃ b, cmd = .dataCb b
      · obtain ⟨b, rfl⟩ := hcmd
        obtain ⟨c, hc, hrest⟩ := Option.bind_eq_some_iff.mp h
        obtain ⟨hcs, hci⟩ := henter b _ c rfl rfl rfl hc
        exact hk.ends (afterCmd_ends hcs (Or.inr trivial)) hrest hcs hci
      · have hne : ∀ b, cmd ≠ .dataCb b := fun b hb => hcmd ⟨b, hb⟩
        rcases processStreamBuf_effect True { ch with mem := mem } cmd hms (fun b hb => absurd hb (hne b))
          (Or.inr trivial) (Or.inr trivial) with ⟨hb, -⟩ | ⟨c, hc, heff⟩
        · exact absurd hb hcmd
        · obtain rfl := Option.some.inj (hc.symm.trans h)
          exact ⟨(heff.path hne).shape hms, hk.path (heff.path hne) hms hmi⟩

end Wt88047.Superbuf
