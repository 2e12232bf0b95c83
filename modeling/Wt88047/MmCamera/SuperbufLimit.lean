import Wt88047.MmCamera.SuperbufSlots

/-! The limit on open superbufs: how many there can be, and which one leaves when a new frame arrives with the
limit reached. -/

namespace Wt88047.Superbuf

def NewFrame (b : BufDef) (q : ChannelQueue) : Prop :=
  ∀ n ∈ q.que, n.matched = false → n.frameIdx ≠ b.frameIdx

def ChannelQueue.limitReached (q : ChannelQueue) : Prop := q.attr.maxUnmatchedFrames < q.openCount

/-- A new frame finds a number of open superbufs that a `uint8_t` can count, and with the limit reached the
oldest of them is not that of frame 0. -/
def Countable (ch : Channel) (e : ThreadEvent) : Prop :=
  ∀ b c₀ c, e.arrival ch = some (b, c₀) → Admitted b c₀ c → NewFrame b c.queue →
    c.queue.openCount < 2 ^ 8 ∧
      (c.queue.limitReached → ∀ n ∈ c.queue.que.find? (!·.matched), 0 < n.frameIdx)

inductive EvictsOldest (b : BufDef) (c c' : Channel) : Prop
  | placed {l s t : List QueueNode} {n m : QueueNode} (hq : c.queue.que = l ++ n :: (s ++ t))
      (hl : ∀ k ∈ l, k.matched = true) (hn : n.matched = false)
      (ht : ∀ k ∈ s ++ t, k.matched = false ∧ n.frameIdx < k.frameIdx) (hm : m.heldBufs = [b])
      (hq' : c'.queue.que = l ++ (s ++ m :: t)) (hback : c'.trace.qbufs = c.trace.qbufs ++ n.heldBufs)
  | noMemory {l r : List QueueNode} {n : QueueNode} (hq : c.queue.que = l ++ n :: r)
      (hl : ∀ k ∈ l, k.matched = true) (hn : n.matched = false)
      (hr : ∀ k ∈ r, k.matched = false ∧ n.frameIdx < k.frameIdx) (hq' : c'.queue.que = l ++ r)
      (hback : c'.trace.qbufs = c.trace.qbufs ++ n.heldBufs ++ [b])

def OlderThanOpen (b : BufDef) (q : ChannelQueue) : Prop :=
  ∀ n ∈ q.que, n.matched = false → b.frameIdx < n.frameIdx

/-- A buffer that the metadata check or the expected frame number refuses goes back at once; one of a new frame
that passes with the limit reached goes back as older than all open superbufs, or the oldest makes room. -/
def LimitKept (ch : Channel) (e : ThreadEvent) : Prop :=
  ∀ b c₀ c', e.arrival ch = some (b, c₀) → b.streamId ∈ c₀.queue.bundledStreams →
    superbufCompAndEnqueue c₀ b.info = some c' → ∃ rc c, handleMetadata c₀ b.info = some (rc, c) ∧
      ((rc < 0 ∨ b.frameIdx < c.queue.expectedFrameId) ∧ c' = c.back b ∨
        Admitted b c₀ c ∧ (NewFrame b c.queue → c.queue.limitReached →
          OlderThanOpen b c.queue ∧ c' = c.back b ∨ EvictsOldest b c c'))

def Limited (ch : Channel) : Prop := ch.queue.openCount ≤ ch.queue.attr.maxUnmatchedFrames + 1

variable {ch : Channel}

theorem Limited.sublist {ch' : Channel} (h : Limited ch) (hq : ch'.queue.que.Sublist ch.queue.que)
    (ha : ch'.queue.attr.maxUnmatchedFrames = ch.queue.attr.maxUnmatchedFrames) : Limited ch' := by
  have hcount : ch'.queue.openCount ≤ ch.queue.openCount := hq.countP_le
  have hmax : ch.queue.openCount ≤ ch.queue.attr.maxUnmatchedFrames + 1 := h
  unfold Limited
  omega

theorem limited_kept : Kept Limited where
  move := by
    intro ch ch' hm hs h
    cases hm with
    | give hq => exact h.sublist (hq ▸ List.sublist_cons_self ..) rfl
    | serve mode fate hq => exact h.sublist (hq ▸ List.sublist_cons_self ..) rfl
    | @evict l r n hq =>
      have hsub : (l ++ r).Sublist (l ++ n :: r) := (List.sublist_cons_self n r).append_left l
      exact h.sublist (hq ▸ hsub) rfl
    | retarget | request | config | control => exact h
  frame := by
    intro ch ch' hq _ h
    exact h.sublist (hq ▸ List.Sublist.refl _) (by rw [hq])
  pop := by
    intro ch n rest hq h
    exact h.sublist (hq ▸ List.sublist_cons_self ..) rfl

theorem Limited.back (h : Limited ch) (b : BufDef) : Limited (ch.back b) := h

theorem Channel.place_cases (ch : Channel) (l r : List QueueNode) (b : BufDef) :
    ((ch.place l r b).queue.que =
        l ++ newNode ch.queue (ch.queue.bundledStreams.idxOf b.streamId) b.info :: r ∧
      (ch.place l r b).queue.attr = ch.queue.attr ∧ (ch.place l r b).trace.qbufs = ch.trace.qbufs) ∨
    ch.place l r b = ch.back b := by
  unfold Channel.place
  split
  · left
    unfold countSingle
    split <;> exact ⟨rfl, rfl, rfl⟩
  · exact .inr rfl

theorem Limited.place {l r : List QueueNode} (h : Limited ch) (hq : ch.queue.que = l ++ r)
    (hroom : ch.queue.openCount ≤ ch.queue.attr.maxUnmatchedFrames) (b : BufDef) :
    Limited (ch.place l r b) := by
  rcases ch.place_cases l r b with ⟨hque, hattr, -⟩ | hback
  · have hcount : (ch.place l r b).queue.openCount ≤ ch.queue.openCount + 1 := by
      unfold ChannelQueue.openCount
      rw [hque, hq, List.countP_append, List.countP_append, List.countP_cons]
      split <;> omega
    unfold Limited
    rw [hattr]
    omega
  · rw [hback]
    exact h

theorem Limited.join {ms l r : List QueueNode} {n : QueueNode} (h : Limited ch)
    (hq : ch.queue.que = ms ++ (l ++ n :: r)) (hn : n.matched = false) (b : BufDef) :
    Limited (ch.join ms l n r b) := by
  have hmax : ch.queue.openCount ≤ ch.queue.attr.maxUnmatchedFrames + 1 := h
  have hopen : ch.queue.openCount = (ms ++ l).countP (!·.matched) + (r.countP (!·.matched) + 1) := by
    unfold ChannelQueue.openCount
    rw [hq, ← List.append_assoc, List.countP_append, List.countP_cons_of_pos (by simp [hn])]
  have hfill : ∀ k : QueueNode, (k :: r).countP (!·.matched) ≤ r.countP (!·.matched) + 1 := by
    intro k
    rw [List.countP_cons]
    split <;> omega
  unfold Channel.join
  split
  · show (ms ++ n.fill _ b.info :: r).countP (!·.matched) ≤ ch.queue.attr.maxUnmatchedFrames + 1
    have hk := hfill (n.fill (ch.queue.bundledStreams.idxOf b.streamId) b.info)
    rw [List.countP_append] at hopen ⊢
    omega
  · show (ms ++ (l ++ n.fill _ b.info :: r)).countP (!·.matched) ≤ ch.queue.attr.maxUnmatchedFrames + 1
    have hk := hfill (n.fill (ch.queue.bundledStreams.idxOf b.streamId) b.info)
    rw [← List.append_assoc, List.countP_append]
    omega

variable {b : BufDef}

theorem newFrame_of_apart {q : ChannelQueue} {ms us : List QueueNode} (hq : q.que = ms ++ us)
    (ho : InOrder ms us) (h : ∀ n ∈ us, n.frameIdx ≠ b.frameIdx) : NewFrame b q := by
  intro n hn hopen
  rw [hq] at hn
  rcases List.mem_append.mp hn with hn | hn
  · rw [ho.ready n hn] at hopen
    cases hopen
  · exact h n hn

variable {e : ThreadEvent}

theorem Limited.arrived {c c' : Channel} (hc : Countable ch e) (he : e.arrival ch = some (b, c))
    (hs : Shape c.queue) (h : Limited c) (ha : Arrived b c c') : Limited c' := by
  cases ha with
  | unbundled => exact h
  | refused hmeta => exact (limited_kept.path (handleMetadata_some hs hmeta) hs h).back b
  | joined ha hq ho =>
    have hwait := ho.waiting _ (List.mem_append_right _ (List.mem_cons_self ..))
    exact (limited_kept.path (ha.path hs) hs h).join hq (by simpa using hwait) b
  | older ha => exact (limited_kept.path (ha.path hs) hs h).back b
  | @evicting d ms l r n ha hq ho =>
    have hd : Limited d := limited_kept.path (ha.path hs) hs h
    have hmax : d.queue.openCount ≤ d.queue.attr.maxUnmatchedFrames + 1 := hd
    have hwait := ho.waiting n (List.mem_cons_self ..)
    have hopen : d.queue.openCount = (d.unlink ms [n] (l ++ r)).queue.openCount + 1 := by
      show d.queue.que.countP _ = (ms ++ (l ++ r)).countP _ + 1
      rw [hq, List.countP_append, List.countP_append, List.countP_cons_of_pos (by simpa using hwait)]
      omega
    have hless : (d.unlink ms [n] (l ++ r)).queue.openCount ≤ d.queue.attr.maxUnmatchedFrames := by omega
    have hgone : Limited (d.unlink ms [n] (l ++ r)) := Nat.le_succ_of_le hless
    exact hgone.place (List.append_assoc ..).symm hless b
  | @placed d ms l r ha hq ho hl hr hroom =>
    have hd : Limited d := limited_kept.path (ha.path hs) hs h
    have hnew : NewFrame b d.queue := by
      refine newFrame_of_apart hq ho ?_
      intro n hn
      rcases List.mem_append.mp hn with hn | hn
      · exact Nat.ne_of_lt (hl n hn)
      · exact Nat.ne_of_gt (hr n hn)
    -- the count has not wrapped
    have hcount := (hc b c d he ha hnew).1
    rw [Nat.mod_eq_of_lt hcount] at hroom
    exact hd.place (by rw [hq, List.append_assoc]) (Nat.not_lt.mp hroom) b

theorem evictsOldest_of_unlink {ms l r : List QueueNode} {n : QueueNode} (hs : Shape ch.queue)
    (hb : b.streamId ∈ ch.queue.bundledStreams) (hq : ch.queue.que = ms ++ n :: (l ++ r))
    (ho : InOrder ms (n :: (l ++ r))) (hpos : 0 < n.frameIdx) :
    EvictsOldest b ch ((ch.unlink ms [n] (l ++ r)).place (ms ++ l) r b) := by
  have hn : n.matched = false := by simpa using ho.waiting n (List.mem_cons_self ..)
  have hrest : ∀ k ∈ l ++ r, k.matched = false ∧ n.frameIdx < k.frameIdx := by
    intro k hk
    have hwait := ho.waiting k (List.mem_cons_of_mem _ hk)
    exact ⟨by simpa using hwait, (List.pairwise_cons.mp ho.ascending).1 k hk⟩
  have hback : (ch.unlink ms [n] (l ++ r)).trace.qbufs = ch.trace.qbufs ++ n.heldBufs := by
    have heq := (hs.nodes n (by rw [hq]; simp)).framedBufs_eq hpos
    show ch.trace.qbufs ++ [n].flatMap QueueNode.framedBufs = _
    rw [List.flatMap_singleton, heq]
  rcases (ch.unlink ms [n] (l ++ r)).place_cases (ms ++ l) r b with ⟨hque, -, hqbufs⟩ | hno
  · have hheld := List.perm_singleton.mp (newNode_held (q := (ch.unlink ms [n] (l ++ r)).queue) hb)
    exact .placed hq ho.ready hn hrest hheld (hque.trans (List.append_assoc ..)) (hqbufs.trans hback)
  · rw [hno]
    refine .noMemory hq ho.ready hn hrest rfl ?_
    show (ch.unlink ms [n] (l ++ r)).trace.qbufs ++ [b] = _
    rw [hback]

theorem find_open {ms us : List QueueNode} {n : QueueNode} (ho : InOrder ms (n :: us)) :
    (ms ++ n :: us).find? (!·.matched) = some n := by
  have hms : ms.find? (!·.matched) = none := by
    rw [List.find?_eq_none]
    intro k hk
    simp [ho.ready k hk]
  have hn := ho.waiting n (List.mem_cons_self ..)
  rw [List.find?_append, hms, Option.none_or, List.find?_cons_of_pos (by simpa using hn)]

theorem limitKept_of_countable (hs : Shape ch.queue) (hcount : Countable ch e) :
    LimitKept ch e := by
  intro b c₀ c' he hb hc
  obtain ⟨-, hq₀, -⟩ := ThreadEvent.arrival_eq he
  have hs₀ : Shape c₀.queue := hq₀ ▸ hs
  cases superbufCompAndEnqueue_arrived hs₀ hc with
  | unbundled hno => exact absurd hb hno
  | @refused rc c hmeta hno => exact ⟨rc, c, hmeta, .inl ⟨hno, rfl⟩⟩
  | @joined c ms l r n ha hq ho hf =>
    obtain ⟨rc, hmeta, -⟩ := ha.handled
    refine ⟨rc, c, hmeta, .inr ⟨ha, ?_⟩⟩
    intro hnew
    have hwait := ho.waiting n (List.mem_append_right _ (List.mem_cons_self ..))
    exact absurd hf (hnew n (by rw [hq]; simp) (by simpa using hwait))
  | @older c ms r ha hq ho hr hfull =>
    obtain ⟨rc, hmeta, -⟩ := ha.handled
    refine ⟨rc, c, hmeta, .inr ⟨ha, fun _ _ => .inl ⟨?_, rfl⟩⟩⟩
    intro n hn hopen
    rw [hq] at hn
    rcases List.mem_append.mp hn with hn | hn
    · rw [ho.ready n hn] at hopen
      cases hopen
    · exact hr n hn
  | @evicting c ms l r n ha hq ho hl hr hfull =>
    obtain ⟨rc, hmeta, -⟩ := ha.handled
    refine ⟨rc, c, hmeta, .inr ⟨ha, ?_⟩⟩
    intro hnew hlimit
    have hpos := (hcount b c₀ c he ha hnew).2 hlimit n (hq ▸ find_open ho)
    have hp := ha.path hs₀
    exact .inr (evictsOldest_of_unlink (hp.shape hs₀) (hp.bundled.symm ▸ hb) hq ho hpos)
  | @placed c ms l r ha hq ho hl hr hroom =>
    obtain ⟨rc, hmeta, -⟩ := ha.handled
    refine ⟨rc, c, hmeta, .inr ⟨ha, ?_⟩⟩
    intro hnew hlimit
    have hsmall := (hcount b c₀ c he ha hnew).1
    rw [Nat.mod_eq_of_lt hsmall] at hroom
    exact absurd hlimit hroom

theorem Started.limited (h : Started ch) : Limited ch := by
  unfold Limited ChannelQueue.openCount
  rw [h.que]
  exact Nat.zero_le _

/-- There is at most one open superbuf above the limit, and a new frame that passes the checks while there is
one goes back as older than all of them or takes the place of the oldest. -/
theorem open_superbufs_limited {ch ch' : Channel} {es : List ThreadEvent} (hstart : Started ch)
    (hc : Runs.Along threadStep Countable ch es) (hrun : Runs.play threadStep ch es = some ch') :
    ch'.queue.openCount ≤ ch'.queue.attr.maxUnmatchedFrames + 1 ∧ Runs.Along threadStep LimitKept ch es := by
  have hstep : ∀ c e c', Shape c.queue ∧ Limited c → Countable c e → threadStep c e = some c' →
      Shape c'.queue ∧ Limited c' := fun c e c' hi hce h =>
    limited_kept.step hi.1 hi.2 (fun b d d' he hs hl ha => hl.arrived hce he hs ha) h
  have hinit : Shape ch.queue ∧ Limited ch := ⟨hstart.shape, hstart.limited⟩
  constructor
  · exact (Runs.play_invariant hstep hinit hc hrun).2
  · exact Runs.Along.of_invariant hstep (fun c e hi hce => limitKept_of_countable hi.1 hce) hinit hc

theorem maxUnmatched_kept (limit : Nat) : Kept fun ch => ch.queue.attr.maxUnmatchedFrames = limit where
  move := by
    intro ch ch' hm _ h
    cases hm <;> exact h
  frame := by
    intro ch ch' hq _ h
    rw [hq]
    exact h
  pop := fun _ h => h

theorem Channel.place_maxUnmatched (ch : Channel) (l r : List QueueNode) (b : BufDef) :
    (ch.place l r b).queue.attr.maxUnmatchedFrames = ch.queue.attr.maxUnmatchedFrames := by
  rcases ch.place_cases l r b with ⟨-, hattr, -⟩ | hback
  · rw [hattr]
  · rw [hback]
    rfl

theorem Channel.join_maxUnmatched (ch : Channel) (ms l r : List QueueNode) (n : QueueNode) (b : BufDef) :
    (ch.join ms l n r b).queue.attr.maxUnmatchedFrames = ch.queue.attr.maxUnmatchedFrames := by
  unfold Channel.join
  split <;> rfl

theorem Arrived.maxUnmatched {c c' : Channel} {limit : Nat} (ha : Arrived b c c')
    (hs : Shape c.queue) (h : c.queue.attr.maxUnmatchedFrames = limit) :
    c'.queue.attr.maxUnmatchedFrames = limit := by
  have hpath : ∀ d : Channel, Path True c d → d.queue.attr.maxUnmatchedFrames = limit :=
    fun d hp => (maxUnmatched_kept limit).path hp hs h
  cases ha with
  | unbundled => exact h
  | @refused rc d hmeta => exact hpath d (handleMetadata_some hs hmeta)
  | @joined d ms l r n ha => exact (Channel.join_maxUnmatched ..).trans (hpath d (ha.path hs))
  | @older d ms r ha => exact hpath d (ha.path hs)
  | @evicting d ms l r n ha => exact (Channel.place_maxUnmatched ..).trans (hpath d (ha.path hs))
  | @placed d ms l r ha => exact (Channel.place_maxUnmatched ..).trans (hpath d (ha.path hs))

theorem countable_of_limited (hs : Shape ch.queue) (hl : Limited ch) (hj : AllJudged ch)
    (hmax : ch.queue.attr.maxUnmatchedFrames < 255) : Countable ch e := by
  intro b c₀ c he ha _
  obtain ⟨-, hq, hr⟩ := ThreadEvent.arrival_eq he
  have hs₀ : Shape c₀.queue := hq ▸ hs
  have hp := ha.path hs₀
  have hlim : c.queue.openCount ≤ c.queue.attr.maxUnmatchedFrames + 1 :=
    limited_kept.path hp hs₀ (limited_kept.frame hq hr hl)
  have hsame := (maxUnmatched_kept _).path hp hs₀ (congrArg (·.attr.maxUnmatchedFrames) hq)
  have hnodes := (allJudged_kept.path hp hs₀ (allJudged_kept.frame hq hr hj)).nodes
  constructor
  · omega
  · intro _ n hn
    exact (hnodes n (List.mem_of_find?_eq_some hn)).pos

theorem countable_of_pos {es : List ThreadEvent} (hstart : Started ch)
    (hmax : ch.queue.attr.maxUnmatchedFrames < 255)
    (hpos : ∀ e ∈ es, ∀ b ∈ e.delivery, 0 < b.frameIdx) :
    Runs.Along threadStep Countable ch es := by
  have hstep : ∀ c e c', (Shape c.queue ∧ Limited c ∧ AllJudged c ∧ c.queue.attr.maxUnmatchedFrames =
      ch.queue.attr.maxUnmatchedFrames) → (∀ b ∈ e.delivery, 0 < b.frameIdx) → threadStep c e = some c' →
      Shape c'.queue ∧ Limited c' ∧ AllJudged c' ∧
        c'.queue.attr.maxUnmatchedFrames = ch.queue.attr.maxUnmatchedFrames := by
    rintro c e c' ⟨hs, hl, hj, hm⟩ hpe h
    have hc : Countable c e := countable_of_limited hs hl hj (hm.symm ▸ hmax)
    have hz : ZeroKeptOut c e := zeroKeptOut_of_pos hpe c
    obtain ⟨hs', hl'⟩ := limited_kept.step hs hl (fun b d d' he hsd hi ha => hi.arrived hc he hsd ha) h
    obtain ⟨-, hj'⟩ := allJudged_kept.step hs hj (fun b d d' he hsd hi ha => hi.arrived hz he hsd ha) h
    obtain ⟨-, hm'⟩ := (maxUnmatched_kept _).step hs hm (fun b d d' _ hsd hi ha => ha.maxUnmatched hsd hi) h
    exact ⟨hs', hl', hj', hm'⟩
  refine Runs.Along.of_invariant hstep ?_ ⟨hstart.shape, hstart.limited, hstart.allJudged, rfl⟩
    (Runs.Along.of_forall (fun e he _ => hpos e he) ch)
  rintro c e ⟨hs, hl, hj, hm⟩ -
  exact countable_of_limited hs hl hj (hm.symm ▸ hmax)

theorem open_superbufs_limited_out_of_order :
    ∃ c, Runs.play threadStep twoStreamChannel outOfOrder = some c ∧ c.queue.openCount = 1 ∧
      Runs.Along threadStep LimitKept twoStreamChannel outOfOrder :=
  ⟨_, rfl, by decide, (@open_superbufs_limited twoStreamChannel _ outOfOrder ⟨rfl, rfl, rfl, rfl, rfl⟩
    (countable_of_pos ⟨rfl, rfl, rfl, rfl, rfl⟩ (by decide) (by decide)) rfl).2⟩

/-- Frame 3 is complete and the next superbuf is to be of frame 8 at least; frames 5 and 9 are open, which is one
above the limit, when a buffer of frame 6 arrives. It goes back, though frame 5 is older. -/
theorem skipped_frame_goes_back : ¬ ∀ (ch ch' : Channel) (es : List ThreadEvent), Started ch →
    Runs.play threadStep ch es = some ch' → Runs.Along threadStep (fun ch e => ∀ b c₀ c c',
      e.arrival ch = some (b, c₀) → b.streamId ∈ c₀.queue.bundledStreams →
      (∃ rc, handleMetadata c₀ b.info = some (rc, c)) → superbufCompAndEnqueue c₀ b.info = some c' →
      NewFrame b c.queue → c.queue.limitReached →
      OlderThanOpen b c.queue ∧ c' = c.back b ∨ EvictsOldest b c c') ch es := by
  intro h
  have hall := h { twoStreamChannel with queue.attr.postFrameSkip := 5, queue.attr.maxUnmatchedFrames := 1 } _
    ([ThreadEvent.op (.compAndEnqueue (previewBuf 3)) ⟨true, true, []⟩,
      .op (.compAndEnqueue (previewBuf 5)) ⟨true, true, []⟩,
      .op (.compAndEnqueue (snapshotBuf 3)) ⟨true, true, []⟩,
      .op (.compAndEnqueue (previewBuf 9)) ⟨true, true, []⟩] ++
      [ThreadEvent.op (.compAndEnqueue (previewBuf 6)) ⟨true, true, []⟩]) ⟨rfl, rfl, rfl, rfl, rfl⟩ rfl
  have hlast := (hall.append_right rfl).head (previewBuf 6) _ _ _ rfl (by decide) ⟨0, rfl⟩ rfl
    (by unfold NewFrame; decide) (by unfold ChannelQueue.limitReached; decide)
  rcases hlast with ⟨holder, -⟩ | hev
  · have hfive := holder ⟨[(previewBuf 5).info, .empty], false, 5⟩ (by decide) rfl
    exact absurd hfive (by decide)
  · cases hev with
    | @placed l s t n m hq hl hn ht hm hq' =>
      -- no node of the queue holds the buffer
      have hno : ∀ k ∈ [QueueNode.mk [(previewBuf 3).info, (snapshotBuf 3).info] true 3,
          ⟨[(previewBuf 5).info, .empty], false, 5⟩, ⟨[(previewBuf 9).info, .empty], false, 9⟩],
          k.heldBufs ≠ [previewBuf 6] := by decide
      refine absurd hm (hno m ?_)
      have hmem : m ∈ l ++ (s ++ m :: t) := by simp
      rw [← hq'] at hmem
      exact hmem
    | @noMemory l r n hq hl hn hr hq' =>
      have hlen := congrArg List.length (hq.symm.trans hq')
      simp at hlen

end Wt88047.Superbuf
