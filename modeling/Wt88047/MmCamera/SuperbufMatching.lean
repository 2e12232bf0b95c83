import Wt88047.MmCamera.SuperbufOps

/-! Matching of one delivered buffer: what the walk over the queue finds, the release of
superbufs by position, and the places where the buffer can end. -/

namespace Wt88047.Superbuf

open ReadyQueue

variable {ms : List QueueNode}

theorem scanQueue_ready (f pos : Nat) {us : List QueueNode} {r : Scan}
    (h : ∀ n ∈ ms, n.matched = true) :
    scanQueue f (ms ++ us) pos r = scanQueue f us (pos + ms.length) r := by
  induction ms generalizing pos with
  | nil => rfl
  | cons m ms ih =>
    have hm := h m (List.mem_cons_self ..)
    have hh := ih (pos + 1) fun n hn => h n (List.mem_cons_of_mem _ hn)
    simp only [List.cons_append, scanQueue, hm, if_true, hh, List.length_cons]
    congr 1
    omega

variable {l : List QueueNode}

theorem scanQueue_older (f pos : Nat) (us : List QueueNode) {r : Scan}
    (hw : ∀ n ∈ l, n.matched = false) (hl : ∀ n ∈ l, n.frameIdx < f) :
    ∃ k, scanQueue f (l ++ us) pos r = scanQueue f us (pos + l.length) { r with
      unmatchedBundles := k
      lastBuf := r.lastBuf.or (if l = [] then none else some pos) } := by
  induction l generalizing pos r with
  | nil => exact ⟨r.unmatchedBundles, by simp⟩
  | cons n l ih =>
    have hn := hw n (List.mem_cons_self ..)
    have hlt := hl n (List.mem_cons_self ..)
    have hne : f ≠ n.frameIdx := by omega
    have hng : ¬ f < n.frameIdx := by omega
    obtain ⟨k, hk⟩ := ih (pos + 1)
      (r := { r with
        unmatchedBundles := (r.unmatchedBundles + 1) % 2 ^ 8
        lastBuf := if r.lastBuf = none then some pos else r.lastBuf })
      (fun m hm => hw m (List.mem_cons_of_mem _ hm)) (fun m hm => hl m (List.mem_cons_of_mem _ hm))
    refine ⟨k, ?_⟩
    have hlast : ((if r.lastBuf = none then some pos else r.lastBuf).or
        (if l = [] then none else some (pos + 1))) = r.lastBuf.or (some pos) := by
      cases r.lastBuf <;> simp
    simp only [List.cons_append, scanQueue, hn, hne, hlt, hng, and_true, and_false, if_false,
      Bool.false_eq_true, hk, hlast, List.length_cons, reduceCtorEq]
    congr 1
    omega

theorem scanQueue_newer (f pos : Nat) {us : List QueueNode} {r : Scan}
    (hw : ∀ n ∈ us, n.matched = false) (hu : ∀ n ∈ us, f < n.frameIdx) :
    ∃ k, scanQueue f us pos r = { r with
      unmatchedBundles := k
      insertBeforeBuf := r.insertBeforeBuf.or (if us = [] then none else some pos) } := by
  induction us generalizing pos r with
  | nil => exact ⟨r.unmatchedBundles, by simp [scanQueue]⟩
  | cons n us ih =>
    have hn := hw n (List.mem_cons_self ..)
    have hlt := hu n (List.mem_cons_self ..)
    have hne : f ≠ n.frameIdx := by omega
    have hng : ¬ n.frameIdx < f := by omega
    obtain ⟨k, hk⟩ := ih (pos + 1)
      (r := { r with
        unmatchedBundles := (r.unmatchedBundles + 1) % 2 ^ 8
        insertBeforeBuf := if r.insertBeforeBuf = none then some pos else r.insertBeforeBuf })
      (fun m hm => hw m (List.mem_cons_of_mem _ hm)) (fun m hm => hu m (List.mem_cons_of_mem _ hm))
    refine ⟨k, ?_⟩
    have hins : ((if r.insertBeforeBuf = none then some pos else r.insertBeforeBuf).or
        (if us = [] then none else some (pos + 1))) = r.insertBeforeBuf.or (some pos) := by
      cases r.insertBeforeBuf <;> simp
    simp only [scanQueue, hn, hne, hlt, hng, and_true, and_false, if_false,
      Bool.false_eq_true, hk, hins, reduceCtorEq]

inductive Scanned (f : Nat) (q : ChannelQueue) (s : Scan) : Prop
  | hit (ms l : List QueueNode) (n : QueueNode) (r : List QueueNode)
      (hq : q.que = ms ++ (l ++ n :: r)) (ho : InOrder ms (l ++ n :: r)) (hf : n.frameIdx = f)
      (hfound : s.found = some ((ms ++ l).length, n))
      (hlast : s.lastBuf = if l = [] then none else some ms.length)
  | miss (ms l r : List QueueNode)
      (hq : q.que = ms ++ (l ++ r)) (ho : InOrder ms (l ++ r))
      (hl : ∀ n ∈ l, n.frameIdx < f) (hr : ∀ n ∈ r, f < n.frameIdx)
      (hfound : s.found = none)
      (hlast : s.lastBuf = if l = [] then none else some ms.length)
      (hins : s.insertBeforeBuf = if r = [] then none else some (ms ++ l).length)

theorem scanQueue_spec {q : ChannelQueue} (h : Shape q) (f : Nat) :
    Scanned f q (scanQueue f q.que 0 ⟨none, 0, none, none⟩) := by
  obtain ⟨ms, us, hq, ho⟩ := h.order
  have hopen : ∀ n ∈ us, n.matched = false := fun n hn => by simpa using ho.waiting n hn
  obtain ⟨l, r, rfl, hl, hcut⟩ := ascending_cut ho.ascending f
  obtain ⟨k, hk⟩ := scanQueue_older f (0 + ms.length) r
    (r := ⟨none, 0, none, none⟩) (fun n hn => hopen n (List.mem_append_left r hn)) hl
  rw [← scanQueue_ready f 0 ho.ready, ← hq] at hk
  rcases hcut with hr | ⟨n, r, rfl, hf⟩
  · obtain ⟨j, hj⟩ := scanQueue_newer f (0 + ms.length + l.length)
      (r := ⟨none, k, (if l = [] then none else some (0 + ms.length)), none⟩)
      (fun n hn => hopen n (List.mem_append_right l hn)) hr
    rw [hk]
    simp only [Option.none_or]
    rw [hj]
    exact .miss ms l r hq ho hl hr rfl (by simp) (by simp)
  · have hn := hopen n (List.mem_append_right l (List.mem_cons_self ..))
    rw [hk]
    refine .hit ms l n r hq ho hf ?_ ?_ <;>
      simp [scanQueue, hn, hf]

variable {ch : Channel} {n : QueueNode}

theorem releaseAt_eq {pre post : List QueueNode} (hq : ch.queue.que = pre ++ n :: post)
    (hs : 0 < ch.queue.size) (hok : NodeOk ch.queue.bundledStreams n) :
    releaseAt pre.length ch = some (ch.unlink pre [n] post) := by
  have hget : ch.queue.que[pre.length]? = some n := by simp [hq]
  have herase : (pre ++ n :: post).eraseIdx pre.length = pre ++ post := by
    rw [List.eraseIdx_append_of_length_le (Nat.le_refl _)]
    simp
  rw [releaseAt, hget, Option.bind_some, hok.framed, qbufAll_some]
  simp [Channel.unlink, hq, herase, decr_of_pos hs]

variable {r : List QueueNode}

theorem unlink_nil (hq : ch.queue.que = l ++ r) : ch.unlink l [] r = ch := by
  simp [Channel.unlink, ← hq]

theorem unlink_unlink (ch : Channel) (pre l post : List QueueNode) (n : QueueNode) :
    (ch.unlink pre [n] (l ++ post)).unlink pre l post = ch.unlink pre (n :: l) post := by
  simp [Channel.unlink, Nat.sub_sub, Nat.add_comm]

theorem releaseRange_eq {pre post : List QueueNode} (hq : ch.queue.que = pre ++ (l ++ post))
    (hs : l.length ≤ ch.queue.size) (hok : ∀ n ∈ l, NodeOk ch.queue.bundledStreams n) :
    releaseRange pre.length l.length ch = some (ch.unlink pre l post) := by
  induction l generalizing ch with
  | nil => rw [unlink_nil (r := post) hq]; rfl
  | cons n l ih =>
    simp only [List.length_cons] at hs
    have hq' : ch.queue.que = pre ++ n :: (l ++ post) := hq
    have hn := releaseAt_eq hq' (by omega) (hok n (List.mem_cons_self ..))
    have hrest : releaseRange pre.length l.length (ch.unlink pre [n] (l ++ post)) = _ :=
      ih rfl (by simp only [Channel.unlink, List.length_singleton]; omega)
        fun m hm => hok m (List.mem_cons_of_mem _ hm)
    rw [List.length_cons, releaseRange, hn, Option.bind_some, hrest, unlink_unlink]

theorem fillNode_eq {slot : Nat} {info : BufInfo} (h : Shape ch.queue)
    (hq : ch.queue.que = ms ++ (l ++ n :: r)) :
    fillNode slot (ms ++ l).length n (if l = [] then none else some ms.length) info ch =
      some (if (n.fill slot info).matched
        then countMatch info.frameIdx (ch.unlink ms l (n.fill slot info :: r))
        else { ch with queue.que := ms ++ (l ++ n.fill slot info :: r) }) := by
  have hset : ch.queue.que.set (ms ++ l).length (n.fill slot info) =
      ms ++ (l ++ n.fill slot info :: r) := by
    rw [hq, ← List.append_assoc, List.set_append_right _ _ (Nat.le_refl _), List.append_assoc]
    simp
  rw [fillNode, hset]
  split
  · by_cases hl : l = []
    · subst hl
      simp [releaseOlder, Channel.unlink]
    · have hlen : (ms ++ l).length - ms.length = l.length := by simp
      have hsize : l.length ≤ ch.queue.size := by
        rw [h.size, hq]
        simp only [List.length_append]
        omega
      have hrange : releaseRange ms.length l.length (countMatch info.frameIdx
          { ch with queue.que := ms ++ (l ++ n.fill slot info :: r) }) = _ :=
        releaseRange_eq rfl hsize fun m hm => h.nodes m (by rw [hq]; simp [hm])
      simp only [releaseOlder, hl, if_false, hlen, hrange]
      rfl
  · rfl

theorem insertIdx_append_length (l r : List QueueNode) (m : QueueNode) :
    (l ++ r).insertIdx l.length m = l ++ m :: r := by
  induction l with
  | nil => rfl
  | cons n l ih => simp [ih]

variable {b : BufDef}

theorem enqueue_settle (h : Shape ch.queue) (hq : ch.queue.que = ms ++ (l ++ r))
    (ho : InOrder ms (l ++ r)) (hl : ∀ n ∈ l, n.frameIdx < b.frameIdx)
    (hr : ∀ n ∈ r, b.frameIdx < n.frameIdx) (he : ch.queue.expectedFrameId ≤ b.frameIdx) :
    Settle b ch (countSingle b.frameIdx { ch with
      queue.que := ch.queue.que.insertIdx (ms ++ l).length
        (newNode ch.queue (ch.queue.bundledStreams.idxOf b.streamId) b.info)
      queue.size := ch.queue.size + 1 }) := by
  have hins : ∀ m : QueueNode, ch.queue.que.insertIdx (ms ++ l).length m = ms ++ (l ++ m :: r) := by
    intro m
    rw [hq, ← List.append_assoc, insertIdx_append_length, List.append_assoc]
  by_cases h1 : ch.queue.numStreams = 1
  · have hall := h.single h1
    have hnil : l ++ r = [] := by
      refine List.eq_nil_iff_forall_not_mem.mpr fun n hn => ho.waiting n hn (hall n ?_)
      rw [hq]
      exact List.mem_append_right ms hn
    obtain ⟨rfl, rfl⟩ := List.append_eq_nil_iff.mp hnil
    have hque : ch.queue.que = ms := by simpa using hq
    rw [hins]
    simpa [hque] using Settle.single he h1 hall
  · have h1' : ch.queue.bundledStreams.length ≠ 1 := h1
    simp only [hins, countSingle, ChannelQueue.numStreams, h1', if_false]
    exact .insert hq ho hl hr h1

theorem insertPosition_eq {c : Channel} {s : Scan} (hlast : s.lastBuf = some ms.length)
    (hins : s.insertBeforeBuf = if r = [] then none else some (ms ++ n :: l).length)
    (hmax : c.queue.attr.maxUnmatchedFrames < s.unmatchedBundles) :
    insertPosition s c (ms ++ (l ++ r)).length = (ms ++ l).length := by
  by_cases hr : r = []
  · simp [insertPosition, hins, hr]
  · simp [insertPosition, hins, hr, hlast, hmax]

theorem evictOldest_eq {s : Scan} (h : Shape ch.queue) (hq : ch.queue.que = ms ++ n :: (l ++ r))
    (hlast : s.lastBuf = some ms.length)
    (hmax : ch.queue.attr.maxUnmatchedFrames < s.unmatchedBundles) :
    evictOldest s ch = some (ch.unlink ms [n] (l ++ r)) := by
  have hsize : 0 < ch.queue.size := by
    rw [h.size, hq]
    simp only [List.length_append, List.length_cons]
    omega
  have hrel := releaseAt_eq hq hsize (h.nodes n (by rw [hq]; simp))
  simp [evictOldest, hmax, hlast, hrel]

theorem enqueueNew_settle {lossy : Prop} {s : Scan} (h : Shape ch.queue)
    (hq : ch.queue.que = ms ++ (l ++ r)) (ho : InOrder ms (l ++ r))
    (hl : ∀ n ∈ l, n.frameIdx < b.frameIdx) (hr : ∀ n ∈ r, b.frameIdx < n.frameIdx)
    (he : ch.queue.expectedFrameId ≤ b.frameIdx)
    (hlast : s.lastBuf = if l = [] then none else some ms.length)
    (hins : s.insertBeforeBuf = if r = [] then none else some (ms ++ l).length) :
    ∃ mid ch', enqueueNew (ch.queue.bundledStreams.idxOf b.streamId) s b.info ch = some ch' ∧
      Path lossy ch mid ∧ Settle b mid ch' := by
  have hreject : ∀ c : Channel, qbufAll c [b.info.buf] =
      some { c with trace.qbufs := c.trace.qbufs ++ [b] } := fun c => rfl
  unfold enqueueNew
  split
  · exact ⟨ch, _, hreject ch, .refl, .reject⟩
  · rename_i hkeep
    by_cases hmax : ch.queue.attr.maxUnmatchedFrames < s.unmatchedBundles
    · cases l with
      | nil => exact absurd ⟨hmax, by simpa using hlast⟩ hkeep
      | cons n l =>
        have hlast' : s.lastBuf = some ms.length := by simpa using hlast
        have hn : n.matched = false := by simpa using ho.waiting n (by simp)
        have hmove : Move lossy ch (ch.unlink ms [n] (l ++ r)) := .evict hq hn
        rw [evictOldest_eq h hq hlast' hmax, Option.bind_some]
        split
        · have hpos := insertPosition_eq (c := ch.unlink ms [n] (l ++ r)) (l := l) hlast' hins hmax
          refine ⟨_, _, rfl, .single hmove, ?_⟩
          change Settle b _ (countSingle _ { ch.unlink ms [n] (l ++ r) with
            queue.que := List.insertIdx _ (insertPosition s _ (ms ++ (l ++ r)).length) _
            queue.size := _ })
          rw [hpos]
          exact enqueue_settle (hmove.shape h) rfl (Split.erase (l := []) ho)
            (fun m hm => hl m (List.mem_cons_of_mem _ hm)) hr he
        · exact ⟨_, _, hreject _, .single hmove, .reject⟩
    · have hev : evictOldest s ch = some ch := by simp [evictOldest, hmax]
      rw [hev, Option.bind_some]
      split
      · have hpos : insertPosition s ch ch.queue.que.length = (ms ++ l).length := by
          by_cases hnil : r = []
          · simp [insertPosition, hins, hnil, hq]
          · simp [insertPosition, hins, hnil, hmax]
        refine ⟨ch, _, rfl, .refl, ?_⟩
        simp only [hpos]
        exact enqueue_settle h hq ho hl hr he
      · exact ⟨ch, _, hreject ch, .refl, .reject⟩

theorem compAndEnqueueLocked_settle (lossy : Prop) (h : Shape ch.queue)
    (he : ch.queue.expectedFrameId ≤ b.frameIdx) :
    ∃ mid ch', compAndEnqueueLocked (ch.queue.bundledStreams.idxOf b.streamId) b.info ch = some ch' ∧
      Path lossy ch mid ∧ Settle b mid ch' := by
  simp only [compAndEnqueueLocked]
  cases scanQueue_spec h b.info.frameIdx with
  | hit ms l n r hq ho hf hfound hlast =>
    have hn : n.matched = false := by simpa using ho.waiting n (by simp)
    rw [hfound, hlast]
    refine ⟨ch, _, fillNode_eq h hq, .refl, ?_⟩
    split
    · rename_i hfull
      exact .complete hq ho hf.symm he hfull
    · rename_i hopen
      have hfill := Settle.fill (b := b) (l := ms ++ l) (r := r) (by rw [hq, List.append_assoc])
        hn hf.symm (by simpa using hopen)
      rwa [List.append_assoc] at hfill
  | miss ms l r hq ho hl hr hfound hlast hins =>
    rw [hfound]
    exact enqueueNew_settle h hq ho hl hr he hlast hins

theorem superbufCompAndEnqueue_settle (lossy : Prop) (ch : Channel) (h : Shape ch.queue)
    (hm : b.streamId ∈ ch.queue.bundledStreams) :
    (superbufCompAndEnqueue ch b.info = none ∧ snapshotStreamId ch.streams = none) ∨
      ∃ mid ch', superbufCompAndEnqueue ch b.info = some ch' ∧
        Path lossy ch mid ∧ Settle b mid ch' := by
  have hslot : ch.queue.bundledStreams.idxOf b.info.streamId ≠ ch.queue.numStreams :=
    Nat.ne_of_lt (List.idxOf_lt_length_of_mem hm)
  simp only [superbufCompAndEnqueue, hslot, if_false]
  rcases handleMetadata_path lossy b h with ⟨hnone, hid⟩ | ⟨rc, c, hc, hp⟩
  · exact Or.inl ⟨by rw [hnone]; rfl, hid⟩
  · right
    rw [hc, Option.bind_some]
    simp only
    split
    · exact ⟨c, _, rfl, hp, .reject⟩
    · split
      · exact ⟨c, _, rfl, hp, .reject⟩
      · rename_i hexp
        obtain ⟨mid, ch', hch, hpath, hsettle⟩ :=
          compAndEnqueueLocked_settle lossy (hp.shape h) (Nat.not_lt.mp hexp)
        rw [hp.bundled] at hch
        exact ⟨mid, ch', hch, hp.trans hpath, hsettle⟩

end Wt88047.Superbuf
