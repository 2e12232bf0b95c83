import Wt88047.MmCamera.SuperbufInvariant

/-! Where every delivered buffer is: in a slot of the queue, back at its stream, on its way to
the client, or, after a lossy move only, with nobody. -/

namespace Wt88047.Superbuf

def BufDef.key (b : BufDef) : Nat × Nat := (b.streamId, b.frameIdx)

def Channel.slots (ch : Channel) : List BufDef := ch.queue.que.flatMap QueueNode.heldBufs

/-- The buffers of the superbufs handed to the callback thread, called back or still to be. -/
def Channel.sent (ch : Channel) : List BufDef :=
  (ch.trace.cbQueue ++ ch.trace.notified).flatMap SuperBuf.heldBufs

def Channel.lostBufs (ch : Channel) : List BufDef := ch.trace.lost.flatMap SuperBuf.heldBufs

theorem toSuperBuf_held (n : QueueNode) : n.toSuperBuf.heldBufs = n.heldBufs := by
  show (n.superBuf.map BufInfo.buf).filterMap id = n.superBuf.filterMap BufInfo.buf
  rw [List.filterMap_map]
  rfl

def Ledger (hand : List BufDef) (ch : Channel) : Prop :=
  ∀ b, ch.trace.delivered.count b = hand.count b + ch.slots.count b + ch.trace.qbufs.count b +
    ch.trace.dropped.count b + ch.sent.count b + ch.lostBufs.count b

def Numbered (ch : Channel) : Prop := ∀ n ∈ ch.queue.que, 0 < n.frameIdx

variable {bundled : List Nat} {n : QueueNode}

theorem NodeOk.framedBufs_eq (h : NodeOk bundled n) (hp : 0 < n.frameIdx) :
    n.framedBufs = n.heldBufs := by
  have hslots : ∀ {sids slots}, List.Forall₂ (SlotOk n.frameIdx) sids slots →
      (slots.filter (·.frameIdx != 0)).filterMap (·.buf) = slots.filterMap (·.buf) := by
    intro sids slots hs
    induction hs with
    | nil => rfl
    | cons hslot _ ih =>
      rcases hslot with rfl | ⟨b, rfl, _, hb⟩
      · simpa [BufInfo.empty] using ih
      · simpa [BufDef.info, hb, Nat.ne_of_gt hp] using ih
  exact hslots h.slots

variable {lossy : Prop} {ch ch' : Channel}

theorem Move.numbered (h : Move lossy ch ch') (hn : Numbered ch) : Numbered ch' := h.nodes hn

theorem Path.numbered (h : Path lossy ch ch') (hn : Numbered ch) : Numbered ch' := by
  induction h with
  | refl => exact hn
  | tail _ hm ih => exact hm.numbered ih

variable {b : BufDef}

theorem Settle.numbered (h : Settle b ch ch') (hn : Numbered ch) (hb : 0 < b.frameIdx) :
    Numbered ch' := by
  cases h with
  | reject => exact hn
  | @fill l r n hq =>
    rw [Numbered, hq] at hn
    simp only [List.forall_mem_append, List.forall_mem_cons] at hn
    change ∀ m ∈ l ++ n.fill _ b.info :: r, 0 < m.frameIdx
    simp only [List.forall_mem_append, List.forall_mem_cons]
    exact ⟨hn.1, hn.2.1, hn.2.2⟩
  | @complete ms older r n hq =>
    rw [Numbered, hq] at hn
    simp only [List.forall_mem_append, List.forall_mem_cons] at hn
    change ∀ m ∈ ms ++ n.fill _ b.info :: r, 0 < m.frameIdx
    simp only [List.forall_mem_append, List.forall_mem_cons]
    exact ⟨hn.1, hn.2.2.1, hn.2.2.2⟩
  | @insert ms l r hq =>
    rw [Numbered, hq] at hn
    simp only [List.forall_mem_append] at hn
    change ∀ m ∈ ms ++ (l ++ newNode _ _ b.info :: r), 0 < m.frameIdx
    simp only [List.forall_mem_append, List.forall_mem_cons]
    exact ⟨hn.1, hn.2.1, hb, hn.2.2⟩
  | single he h1 =>
    have h1' : ch.queue.bundledStreams.length = 1 := h1
    simp only [countSingle, ChannelQueue.numStreams, h1', if_true]
    change ∀ m ∈ ch.queue.que ++ [newNode _ _ b.info], 0 < m.frameIdx
    simp only [List.forall_mem_append, List.forall_mem_singleton]
    exact ⟨hn, hb⟩

theorem framedBufs_flatMap (hs : Shape ch.queue) (hn : Numbered ch) {l : List QueueNode}
    (hl : ∀ n ∈ l, n ∈ ch.queue.que) :
    l.flatMap QueueNode.framedBufs = l.flatMap QueueNode.heldBufs :=
  List.flatMap_congr fun n hmem => (hs.nodes n (hl n hmem)).framedBufs_eq (hn n (hl n hmem))

theorem slots_pop {rest : List QueueNode} (hq : ch.queue.que = n :: rest) :
    ch.slots = n.heldBufs ++ rest.flatMap QueueNode.heldBufs := by
  simp [Channel.slots, hq]

variable {hand : List BufDef}

theorem Move.ledger (h : Move lossy ch ch') (hsh : Shape ch.queue) (hn : Numbered ch)
    (hl : Ledger hand ch) : Ledger hand ch' := by
  intro b
  have hb := hl b
  cases h with
  | @give n rest back gone hq hp =>
    have hc := hp.count_eq b
    rw [slots_pop hq] at hb
    simp only [List.count_append] at hb hc
    change ch.trace.delivered.count b = hand.count b + (rest.flatMap QueueNode.heldBufs).count b +
      (ch.trace.qbufs ++ back).count b + (ch.trace.dropped ++ gone).count b + ch.sent.count b +
      ch.lostBufs.count b
    simp only [List.count_append]
    omega
  | @serve n rest allocs mode fate hq =>
    rw [slots_pop hq] at hb
    simp only [Channel.sent, Channel.lostBufs, List.flatMap_append, List.count_append] at hb
    simp only [Channel.serve, Channel.slots, ChannelQueue.pop, Channel.sent, Channel.lostBufs,
      List.flatMap_append, List.count_append]
    cases fate <;> simp [toSuperBuf_held] <;> omega
  | @evict l r n hq =>
    have hs : ch.slots = l.flatMap QueueNode.heldBufs ++ (n.heldBufs ++ r.flatMap QueueNode.heldBufs) := by
      simp [Channel.slots, hq]
    have hframed := framedBufs_flatMap hsh hn (l := [n]) (by simp [hq])
    rw [hs] at hb
    simp only [List.count_append] at hb
    change ch.trace.delivered.count b = hand.count b + ((l ++ r).flatMap QueueNode.heldBufs).count b +
      (ch.trace.qbufs ++ [n].flatMap QueueNode.framedBufs).count b + ch.trace.dropped.count b +
      ch.sent.count b + ch.lostBufs.count b
    rw [hframed]
    simp only [List.flatMap_append, List.flatMap_singleton, List.count_append]
    omega
  | retarget | request | config | control => exact hb

theorem Path.ledger (h : Path lossy ch ch') (hsh : Shape ch.queue) (hn : Numbered ch)
    (hl : Ledger hand ch) : Ledger hand ch' := by
  induction h with
  | refl => exact hl
  | tail hp hm ih => exact hm.ledger (Path.shape hp hsh) (Path.numbered hp hn) ih

theorem Move.slots_sublist (h : Move lossy ch ch') : ch'.slots.Sublist ch.slots := by
  cases h with
  | give hq =>
    rw [slots_pop hq]
    exact List.sublist_append_right _ _
  | serve mode fate hq =>
    rw [slots_pop hq]
    exact List.sublist_append_right _ _
  | @evict l r n hq =>
    have hs : ch.slots = l.flatMap QueueNode.heldBufs ++ (n.heldBufs ++ r.flatMap QueueNode.heldBufs) := by
      simp [Channel.slots, hq]
    change ((l ++ r).flatMap QueueNode.heldBufs).Sublist _
    rw [hs, List.flatMap_append]
    exact (List.Sublist.refl _).append (List.sublist_append_right _ _)
  | retarget | request | config | control => exact List.Sublist.refl _

theorem Path.slots_sublist (h : Path lossy ch ch') : ch'.slots.Sublist ch.slots := by
  induction h with
  | refl => exact List.Sublist.refl _
  | tail _ hm ih => exact hm.slots_sublist.trans ih

def Fresh (b : BufDef) (ch : Channel) : Prop := ∀ d ∈ ch.slots, d.key ≠ b.key

theorem slots_clear_at {f : Nat} {sids : List Nat} {slots : List BufInfo}
    (h : List.Forall₂ (SlotOk f) sids slots) (hm : b.streamId ∈ sids) (hf : b.frameIdx = f)
    (hfresh : ∀ d ∈ slots.filterMap (·.buf), d.key ≠ b.key) :
    slots[sids.idxOf b.streamId]? = some .empty := by
  induction h with
  | nil => simp at hm
  | @cons sid s sids slots hs ht ih =>
    by_cases he : sid = b.streamId
    · subst he
      rcases hs with rfl | ⟨d, rfl, hd, hdf⟩
      · simp
      · exact absurd (by simp [BufDef.key, hd, hdf, hf]) (hfresh d (by simp [BufDef.info]))
    · rw [List.idxOf_cons_ne _ he, List.getElem?_cons_succ]
      refine ih ((List.mem_cons.mp hm).resolve_left (Ne.symm he)) fun d hd => hfresh d ?_
      obtain ⟨i, hi, hib⟩ := List.mem_filterMap.mp hd
      exact List.mem_filterMap.mpr ⟨i, List.mem_cons_of_mem _ hi, hib⟩

theorem NodeOk.fill_held (h : NodeOk bundled n) (hm : b.streamId ∈ bundled)
    (hf : b.frameIdx = n.frameIdx) (hfresh : ∀ d ∈ n.heldBufs, d.key ≠ b.key) :
    (n.fill (bundled.idxOf b.streamId) b.info).heldBufs.Perm (b :: n.heldBufs) :=
  slots_set_held (slots_clear_at h.slots hm hf hfresh)

theorem Settle.ledger (h : Settle b ch ch') (hs : Shape ch.queue) (hn : Numbered ch)
    (hm : b.streamId ∈ ch.queue.bundledStreams) (hfresh : Fresh b ch) (hl : Ledger (b :: hand) ch) :
    Ledger hand ch' := by
  intro d
  have hd := hl d
  simp only [List.count_cons] at hd
  cases h with
  | reject =>
    change ch.trace.delivered.count d = hand.count d + ch.slots.count d +
      (ch.trace.qbufs ++ [b]).count d + ch.trace.dropped.count d + ch.sent.count d + ch.lostBufs.count d
    simp only [List.count_append, List.count_singleton]
    omega
  | @fill l r n hq hopen hf =>
    have hmem : n ∈ ch.queue.que := hq ▸ by simp
    have hheld := ((hs.nodes n hmem).fill_held hm hf fun e he =>
      hfresh e (List.mem_flatMap.mpr ⟨n, hmem, he⟩)).count_eq d
    simp only [Channel.slots, hq, List.flatMap_append, List.flatMap_cons, List.count_append,
      List.count_cons] at hd hheld
    change ch.trace.delivered.count d = hand.count d +
      ((l ++ n.fill _ b.info :: r).flatMap QueueNode.heldBufs).count d + _ + _ + ch.sent.count d +
      ch.lostBufs.count d
    simp only [List.flatMap_append, List.flatMap_cons, List.count_append]
    omega
  | @complete ms older r n hq ho hf =>
    have hmem : n ∈ ch.queue.que := hq ▸ by simp
    have hheld := ((hs.nodes n hmem).fill_held hm hf fun e he =>
      hfresh e (List.mem_flatMap.mpr ⟨n, hmem, he⟩)).count_eq d
    have hframed := framedBufs_flatMap hs hn (l := older) fun m hm => hq ▸ by simp [hm]
    simp only [Channel.slots, hq, List.flatMap_append, List.flatMap_cons, List.count_append,
      List.count_cons] at hd hheld
    change ch.trace.delivered.count d = hand.count d +
      ((ms ++ n.fill _ b.info :: r).flatMap QueueNode.heldBufs).count d +
      (ch.trace.qbufs ++ older.flatMap QueueNode.framedBufs).count d + ch.trace.dropped.count d +
      ch.sent.count d + ch.lostBufs.count d
    rw [hframed]
    simp only [List.flatMap_append, List.flatMap_cons, List.count_append]
    omega
  | @insert ms l r hq =>
    have hnew := (newNode_held (q := ch.queue) hm).count_eq d
    simp only [Channel.slots, hq, List.flatMap_append, List.count_append, List.count_singleton]
      at hd hnew
    change ch.trace.delivered.count d = hand.count d +
      ((ms ++ (l ++ newNode _ _ b.info :: r)).flatMap QueueNode.heldBufs).count d + _ + _ +
      ch.sent.count d + ch.lostBufs.count d
    simp only [List.flatMap_append, List.flatMap_cons, List.count_append]
    omega
  | single he h1 =>
    have hnew := (newNode_held (q := ch.queue) hm).count_eq d
    have h1' : ch.queue.bundledStreams.length = 1 := h1
    simp only [Channel.slots, List.count_singleton] at hd hnew
    simp only [countSingle, ChannelQueue.numStreams, h1', if_true]
    change ch.trace.delivered.count d = hand.count d +
      ((ch.queue.que ++ [newNode _ _ b.info]).flatMap QueueNode.heldBufs).count d + _ + _ +
      ch.sent.count d + ch.lostBufs.count d
    simp only [List.flatMap_append, List.flatMap_singleton, List.count_append]
    omega

theorem Move.lossless (h : Move False ch ch') :
    ch'.trace.dropped = ch.trace.dropped ∧ ch'.trace.lost = ch.trace.lost := by
  cases h with
  | give hq hp hl =>
    rcases hl with rfl | hl
    · exact ⟨List.append_nil _, rfl⟩
    · exact hl.elim
  | serve mode fate hq hm hp ha hs hl =>
    cases fate with
    | lost => exact (hl rfl).elim
    | sent | back => exact ⟨rfl, List.append_nil _⟩
  | evict | retarget | request | config | control => exact ⟨rfl, rfl⟩

theorem Path.lossless (h : Path False ch ch') :
    ch'.trace.dropped = ch.trace.dropped ∧ ch'.trace.lost = ch.trace.lost := by
  induction h with
  | refl => exact ⟨rfl, rfl⟩
  | tail _ hm ih => exact ⟨hm.lossless.1.trans ih.1, hm.lossless.2.trans ih.2⟩

theorem Settle.outputs (h : Settle b ch ch') :
    ch'.trace.dropped = ch.trace.dropped ∧ ch'.trace.lost = ch.trace.lost ∧
      ch'.trace.cbQueue = ch.trace.cbQueue ∧ ch.trace.qbufs.Sublist ch'.trace.qbufs := by
  cases h with
  | single => simp only [countSingle]; split <;> exact ⟨rfl, rfl, rfl, List.Sublist.refl _⟩
  | reject | complete => exact ⟨rfl, rfl, rfl, List.sublist_append_left _ _⟩
  | fill | insert => exact ⟨rfl, rfl, rfl, List.Sublist.refl _⟩

theorem Settle.slots_subperm (h : Settle b ch ch') (hl : Ledger [b] ch) (hl' : Ledger [] ch') :
    ch'.slots.Subperm (b :: ch.slots) := by
  refine List.subperm_ext_iff.mpr fun d _ => ?_
  obtain ⟨hdrop, hlost, hcb, hq⟩ := h.outputs
  obtain ⟨_, _, hdel, hnot, _⟩ := h.frame
  have h1 := hl d
  have h2 := hl' d
  have h3 := hq.count_le d
  have hsent : ch'.sent = ch.sent := by simp only [Channel.sent, hcb, hnot]
  have hlb : ch'.lostBufs = ch.lostBufs := by simp only [Channel.lostBufs, hlost]
  rw [hdel, hdrop, hsent, hlb] at h2
  simp only [List.count_cons, List.count_nil] at h1 h2 ⊢
  omega

/-- Messages wait for the callback thread only while there is a client to call. -/
def ClientReady (ch : Channel) : Prop := ch.superBufNotifyCb = true ∨ ch.trace.cbQueue = []

theorem Move.clientReady (h : Move lossy ch ch') (hr : ClientReady ch) : ClientReady ch' := by
  cases h with
  | serve mode fate hq hm hp ha hs =>
    cases fate with
    | sent => exact Or.inl (hs rfl)
    | lost | back => exact hr.imp id fun he => by simp [Channel.serve, he]
  | give | evict | retarget | request | config | control => exact hr

theorem Path.clientReady (h : Path lossy ch ch') (hr : ClientReady ch) : ClientReady ch' := by
  induction h with
  | refl => exact hr
  | tail _ hm ih => exact hm.clientReady ih

theorem Settle.clientReady (h : Settle b ch ch') (hr : ClientReady ch) : ClientReady ch' := by
  cases h with
  | single => simp only [countSingle]; split <;> exact hr
  | reject | fill | complete | insert => exact hr

/-- The books balance, nothing is with nobody and no two slots hold the same frame of the
same stream. -/
structure Balanced (bundled : List Nat) (ch : Channel) : Prop where
  sound : Sound bundled ch
  numbered : Numbered ch
  ledger : Ledger [] ch
  dropped : ch.trace.dropped = []
  lost : ch.trace.lost = []
  client : ClientReady ch
  slots : ∀ k, ch.slots.countP (·.key == k) ≤ 1

theorem slots_unique {l l' : List BufDef} (hsub : l'.Subperm (b :: l))
    (hfresh : ∀ d ∈ l, d.key ≠ b.key) (hl : ∀ k, l.countP (·.key == k) ≤ 1) (k : Nat × Nat) :
    l'.countP (·.key == k) ≤ 1 := by
  have hle := hsub.countP_le (·.key == k)
  rw [List.countP_cons] at hle
  by_cases hk : b.key = k
  · have hzero : l.countP (·.key == k) = 0 :=
      List.countP_eq_zero.mpr fun d hd => by simpa [hk] using hfresh d hd
    rw [hzero] at hle
    exact hle.trans (by split <;> simp)
  · have hone := hl k
    simp only [hk, beq_iff_eq, if_false] at hle
    omega

theorem Path.balanced (h : Path False ch ch') (hb : Balanced bundled ch) : Balanced bundled ch' :=
  ⟨h.sound hb.sound, h.numbered hb.numbered, h.ledger hb.sound.shape hb.numbered hb.ledger, h.lossless.1.trans hb.dropped, h.lossless.2.trans hb.lost,
    h.clientReady hb.client, fun k => h.slots_sublist.countP_le.trans (hb.slots k)⟩

theorem Effect.balanced {cmd : Cmd} (h : Effect False cmd ch ch') (hb : Balanced bundled ch)
    (hd : cmd.Delivers bundled) (hfresh : ∀ b, cmd = .dataCb b → 0 < b.frameIdx ∧ Fresh b ch) :
    Balanced bundled ch' := by
  cases cmd with
  | dataCb b =>
    obtain ⟨mid, mid', hpath, hsettle, hrest⟩ := h
    have hm := hd b rfl
    obtain ⟨hpos, hfree⟩ := hfresh b rfl
    have hin : Ledger [b] { ch with trace.delivered := ch.trace.delivered ++ [b] } := by
      intro d
      have hd := hb.ledger d
      change (ch.trace.delivered ++ [b]).count d = [b].count d + ch.slots.count d +
        ch.trace.qbufs.count d + ch.trace.dropped.count d + ch.sent.count d + ch.lostBufs.count d
      simp only [List.count_append, List.count_nil] at hd ⊢
      omega
    have hsound : Sound bundled mid :=
      hpath.sound ⟨hb.sound.shape, hb.sound.bundled, hb.sound.released⟩
    have hsub : mid.slots.Sublist ch.slots := hpath.slots_sublist
    have hnum : Numbered mid := hpath.numbered hb.numbered
    have hmid : Ledger [b] mid := hpath.ledger hb.sound.shape hb.numbered hin
    have hclear : Fresh b mid := fun d hd => hfree d (hsub.subset hd)
    have hmid' : Ledger [] mid' :=
      hsettle.ledger hsound.shape hnum (hsound.bundled ▸ hm) hclear hmid
    refine hrest.balanced
      ⟨hsettle.sound hsound hm, hsettle.numbered hnum hpos, hmid', ?_, ?_, ?_, ?_⟩
    · exact (hsettle.outputs.1.trans hpath.lossless.1).trans hb.dropped
    · exact (hsettle.outputs.2.1.trans hpath.lossless.2).trans hb.lost
    · exact hsettle.clientReady (hpath.clientReady hb.client)
    · exact slots_unique (hsettle.slots_subperm hmid hmid') hclear
        fun k => hsub.countP_le.trans (hb.slots k)
  | reqDataCb | startZsl | stopZsl | configNotify | flushQueue | general => exact Path.balanced h hb

theorem dispatchSuperBuf_balanced (hb : Balanced bundled ch) :
    Balanced bundled (dispatchSuperBuf ch) := by
  unfold dispatchSuperBuf
  split
  · exact hb
  · rename_i sb rest hcb
    have hclient : ch.superBufNotifyCb = true := hb.client.resolve_right (by simp [hcb])
    refine ⟨⟨hb.sound.shape, hb.sound.bundled, hb.sound.released⟩, hb.numbered, fun d => ?_, hb.dropped,
      hb.lost, Or.inl hclient, hb.slots⟩
    have hd := hb.ledger d
    simp only [Channel.sent, hcb, hclient, if_true, List.flatMap_append, List.flatMap_cons,
      List.flatMap_nil, List.count_append, List.append_nil] at hd ⊢
    change ch.trace.delivered.count d = [].count d + ch.slots.count d + ch.trace.qbufs.count d +
      ch.trace.dropped.count d + _ + ch.lostBufs.count d
    omega

def Event.DeliversOnce (bundled : List Nat) (ch : Channel) (e : Event) : Prop :=
  ∀ b ∈ e.delivery, b.streamId ∈ bundled ∧ 0 < b.frameIdx ∧
    ch.trace.delivered.countP (·.key == b.key) =
      ch.trace.qbufs.countP (·.key == b.key) + ch.sent.countP (·.key == b.key)

instance (bundled : List Nat) (ch : Channel) (e : Event) : Decidable (e.DeliversOnce bundled ch) :=
  inferInstanceAs (Decidable (∀ b ∈ e.delivery, _ ∧ _ ∧ _ = _))

/-- The queue is flushed for all streams or not at all, and no message is lost for want of memory. -/
def Event.Lossless : Event → Prop
  | .command cmd mem => cmd.FlushAll ∧ mem.EnqOk
  | .callback => True

theorem Balanced.account (h : Balanced bundled ch) (k : Nat × Nat) :
    ch.trace.delivered.countP (·.key == k) = ch.slots.countP (·.key == k) +
      ch.trace.qbufs.countP (·.key == k) + ch.sent.countP (·.key == k) := by
  have hp : ch.trace.delivered.Perm (ch.slots ++ ch.trace.qbufs ++ ch.sent) := by
    refine List.perm_iff_count.mpr fun d => ?_
    have hd := h.ledger d
    simp only [h.dropped, Channel.lostBufs, h.lost, List.flatMap_nil, List.count_nil] at hd
    simp only [List.count_append]
    omega
  rw [hp.countP_eq, List.countP_append, List.countP_append]

theorem step_balanced {e : Event} (hb : Balanced bundled ch) (hd : e.DeliversOnce bundled ch)
    (hl : e.Lossless) (h : step ch e = some ch') : Balanced bundled ch' := by
  cases e with
  | callback =>
    obtain rfl := Option.some.inj h
    exact dispatchSuperBuf_balanced hb
  | command cmd mem =>
    have hdel : cmd.Delivers bundled := by
      rintro b rfl
      exact (hd b rfl).1
    have hfresh : ∀ b, cmd = .dataCb b → 0 < b.frameIdx ∧ Fresh b ch := by
      rintro b rfl
      refine ⟨(hd b rfl).2.1, fun d hmem hk => ?_⟩
      have hacc := hb.account b.key
      have hzero : ch.slots.countP (·.key == b.key) = 0 := by
        have hh := (hd b rfl).2.2
        omega
      exact List.countP_eq_zero.mp hzero d hmem (by simp [hk])
    rcases processStreamBuf_effect False { ch with mem := mem } cmd
      hb.sound.shape (hb.sound.bundled ▸ hdel) (Or.inl hl.1) (Or.inl hl.2) with
      ⟨_, hn, _⟩ | ⟨c, hc, heff⟩
    · exact absurd (hn.symm.trans h) (by simp)
    · obtain rfl := Option.some.inj (hc.symm.trans h)
      have hb' : Balanced bundled { ch with mem := mem } :=
        ⟨⟨hb.sound.shape, hb.sound.bundled, hb.sound.released⟩, hb.numbered, hb.ledger, hb.dropped, hb.lost,
          hb.client, hb.slots⟩
      exact heff.balanced hb' hdel hfresh

theorem Started.balanced (h : Started ch) : Balanced ch.queue.bundledStreams ch := by
  have hs : ch.slots = [] := by simp [Channel.slots, h.que]
  refine ⟨h.sound, by simp [Numbered, h.que], fun d => ?_, by simp [h.trace, Trace.empty], by simp [h.trace, Trace.empty],
    Or.inr (by simp [h.trace, Trace.empty]), fun k => by simp [hs]⟩
  simp [hs, Channel.sent, Channel.lostBufs, h.trace, Trace.empty]

/-- Every delivered buffer is in one slot of one superbuf, back at its stream, or in one
superbuf sent to the client. -/
theorem superbuf_buffers_conserved {ch ch' : Channel} {es : List Event} (hstart : Started ch)
    (hdel : Runs.Along step (fun c e => e.DeliversOnce ch.queue.bundledStreams c) ch es)
    (hloss : ∀ e ∈ es, e.Lossless) (hrun : Runs.play step ch es = some ch') (k : Nat × Nat) :
    ch'.trace.delivered.countP (·.key == k) = ch'.slots.countP (·.key == k) +
        ch'.trace.qbufs.countP (·.key == k) + ch'.sent.countP (·.key == k) ∧
      ch'.slots.countP (·.key == k) ≤ 1 ∧
      (ch'.trace.delivered.countP (·.key == k) = 1 →
        (ch'.slots.countP (·.key == k), ch'.trace.qbufs.countP (·.key == k),
          ch'.sent.countP (·.key == k)) ∈ [(1, 0, 0), (0, 1, 0), (0, 0, 1)]) := by
  have hb : Balanced ch.queue.bundledStreams ch' :=
    Runs.play_invariant (P := fun c e => e.DeliversOnce ch.queue.bundledStreams c ∧ e.Lossless)
      (fun _ _ _ hs he h => step_balanced hs he.1 he.2 h) hstart.balanced
      (hdel.and (Runs.Along.of_forall (fun e he _ => hloss e he) ch)) hrun
  have hacc := hb.account k
  refine ⟨hacc, hb.slots k, fun hone => ?_⟩
  simp only [List.mem_cons, Prod.mk.injEq, List.not_mem_nil, or_false]
  omega

def burstOfOne : List Event :=
  [.command (.dataCb (previewBuf 5)) ⟨true, true, []⟩,
    .command (.dataCb (snapshotBuf 4)) ⟨true, true, []⟩,
    .command (.dataCb (snapshotBuf 5)) ⟨true, true, []⟩,
    .command (.reqDataCb 1) ⟨true, true, [(true, true)]⟩,
    .callback]

theorem superbuf_buffers_conserved_burst :
    ∃ c, Runs.play step twoStreamChannel burstOfOne = some c ∧
      c.sent = [previewBuf 5, snapshotBuf 5] ∧ c.trace.qbufs = [snapshotBuf 4] ∧
      c.slots.countP (·.key == (2, 4)) ≤ 1 := by
  refine ⟨_, rfl, rfl, rfl, ?_⟩
  refine (@superbuf_buffers_conserved twoStreamChannel _ burstOfOne
    ⟨rfl, rfl, rfl, rfl, rfl⟩ (by decide) ?_ rfl (2, 4)).2.1
  simp [burstOfOne, Event.Lossless, Cmd.FlushAll, Mem.EnqOk]

/-- What `mm_channel_stop` posts for a linked snapshot stream while a preview buffer waits. -/
def typedFlush : List Event :=
  [.command (.dataCb (previewBuf 5)) ⟨true, true, []⟩,
    .command (.flushQueue 0 .snapshot) ⟨true, true, []⟩]

theorem typedFlush_loses_preview :
    Started twoStreamChannel ∧
      Runs.Along step (fun c e => e.DeliversOnce twoStreamChannel.queue.bundledStreams c)
        twoStreamChannel typedFlush ∧
      ∃ c, Runs.play step twoStreamChannel typedFlush = some c ∧
        c.trace.delivered = [previewBuf 5] ∧ c.slots = [] ∧ c.trace.qbufs = [] ∧ c.sent = [] :=
  ⟨⟨rfl, rfl, rfl, rfl, rfl⟩, by decide, _, rfl, rfl, rfl, rfl, rfl⟩

end Wt88047.Superbuf
