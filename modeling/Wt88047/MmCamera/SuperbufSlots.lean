import Wt88047.MmCamera.SuperbufLedger
import Wt88047.MmCamera.SuperbufRuns

/-! The two marks of an empty slot: frame number 0, which the matching logic looks at, and a null buffer, which
everything else looks at. They agree as long as no buffer of frame 0 gets into the queue. -/

namespace Wt88047.Superbuf

/-- No buffer of frame 0 gets into the queue: it is not admitted, or the limit of open superbufs is reached, or
there is no memory for its node. -/
def ZeroKeptOut (ch : Channel) (e : ThreadEvent) : Prop :=
  ∀ b c₀ c, e.arrival ch = some (b, c₀) → b.frameIdx = 0 → Admitted b c₀ c →
    c.queue.attr.maxUnmatchedFrames < c.queue.openCount % 2 ^ 8 ∨ (c.mem.newBuf && c.mem.newNode) = false

/-- Slots are judged alike in the queue, and no node that left it early had a buffer left behind. -/
structure SlotsAgree (ch : Channel) : Prop where
  empty : ∀ n ∈ ch.queue.que, ∀ s ∈ n.superBuf, s.frameIdx = 0 ↔ s.buf = none
  matched : ∀ n ∈ ch.queue.que, n.matched = true ↔ ∀ s ∈ n.superBuf, s.buf.isSome
  released : ∀ n ∈ ch.trace.released, n.framedBufs = n.heldBufs

def ZeroReturned (ch : Channel) (e : ThreadEvent) : Prop :=
  ∀ b c c', e.arrival ch = some (b, c) → b.frameIdx = 0 → b.streamId ∈ c.queue.bundledStreams →
    superbufCompAndEnqueue c b.info = some c' → ∃ mid, Path True c mid ∧ c' = mid.back b

structure Judged (n : QueueNode) : Prop where
  pos : 0 < n.frameIdx
  matched : n.matched = n.superBuf.all (·.frameIdx != 0)

theorem Judged.fill {n : QueueNode} (h : Judged n) (slot : Nat) (info : BufInfo) : Judged (n.fill slot info) :=
  ⟨h.pos, rfl⟩

theorem judged_newNode {q : ChannelQueue} {slot : Nat} {info : BufInfo} (hs : slot < q.numStreams)
    (hf : 0 < info.frameIdx) : Judged (newNode q slot info) := by
  refine ⟨hf, ?_⟩
  by_cases hone : q.numStreams = 1
  · have hzero : slot = 0 := by omega
    simp [newNode, hone, hzero, Nat.ne_of_gt hf]
  · -- another slot of the node is still clear
    obtain ⟨j, hj, hne⟩ : ∃ j, j < q.numStreams ∧ j ≠ slot := by
      by_cases hzero : slot = 0
      · exact ⟨1, by omega, by omega⟩
      · exact ⟨0, by omega, fun h => hzero h.symm⟩
    have hget : ((List.replicate q.numStreams BufInfo.empty).set slot info)[j]? = some BufInfo.empty := by
      rw [List.getElem?_set_ne (Ne.symm hne)]
      simp [hj]
    have hmem := List.mem_of_getElem? hget
    have hopen : ((List.replicate q.numStreams BufInfo.empty).set slot info).all (·.frameIdx != 0) = false := by
      rw [List.all_eq_false]
      exact ⟨_, hmem, by simp [BufInfo.empty]⟩
    simp [newNode, hone, hopen]

theorem slot_empty_iff {f sid : Nat} {s : BufInfo} (h : SlotOk f sid s) (hf : 0 < f) :
    s.frameIdx = 0 ↔ s.buf = none := by
  rcases h with rfl | ⟨b, rfl, -, hb⟩
  · simp [BufInfo.empty]
  · simp [BufDef.info, hb, Nat.ne_of_gt hf]

theorem slots_empty_iff {f : Nat} {sids : List Nat} {slots : List BufInfo}
    (h : List.Forall₂ (SlotOk f) sids slots) (hf : 0 < f) : ∀ s ∈ slots, s.frameIdx = 0 ↔ s.buf = none := by
  induction h with
  | nil => simp
  | cons hs _ ih => exact List.forall_mem_cons.mpr ⟨slot_empty_iff hs hf, ih⟩

structure AllJudged (ch : Channel) : Prop where
  nodes : ∀ n ∈ ch.queue.que, Judged n
  released : ∀ n ∈ ch.trace.released, n.framedBufs = n.heldBufs

variable {ch : Channel}

theorem AllJudged.returns (h : AllJudged ch) (hs : Shape ch.queue) :
    ∀ n ∈ ch.queue.que, n.framedBufs = n.heldBufs :=
  fun n hn => (hs.nodes n hn).framedBufs_eq (h.nodes n hn).pos

theorem AllJudged.slotsAgree (h : AllJudged ch) (hs : Shape ch.queue) : SlotsAgree ch := by
  have hempty : ∀ n ∈ ch.queue.que, ∀ s ∈ n.superBuf, s.frameIdx = 0 ↔ s.buf = none :=
    fun n hn => slots_empty_iff (hs.nodes n hn).slots (h.nodes n hn).pos
  refine ⟨hempty, ?_, h.released⟩
  intro n hn
  rw [(h.nodes n hn).matched, List.all_eq_true]
  refine forall₂_congr fun s hmem => ?_
  rw [bne_iff_ne, Ne, hempty n hn s hmem, Option.isSome_iff_ne_none]

theorem allJudged_kept : Kept AllJudged where
  move := by
    intro ch ch' hm hs h
    refine ⟨hm.nodes h.nodes, ?_⟩
    cases hm with
    | @evict l r n hq hn =>
      intro m hmem
      rcases List.mem_append.mp hmem with hmem | hmem
      · exact h.released m hmem
      · rw [List.mem_singleton.mp hmem]
        exact h.returns hs n (by rw [hq]; simp)
    | give | serve | retarget | request | config | control => exact h.released
  frame := by
    intro ch ch' hq hr h
    exact ⟨by rw [hq]; exact h.nodes, by rw [hr]; exact h.released⟩
  pop := by
    intro ch n rest hq h
    exact ⟨fun m hm => h.nodes m (hq ▸ List.mem_cons_of_mem _ hm), h.released⟩

theorem AllJudged.back (h : AllJudged ch) (b : BufDef) : AllJudged (ch.back b) :=
  ⟨h.nodes, h.released⟩

theorem AllJudged.unlink {l older r : List QueueNode} (h : AllJudged ch) (hs : Shape ch.queue)
    (hq : ch.queue.que = l ++ (older ++ r)) : AllJudged (ch.unlink l older r) := by
  constructor
  · intro m hm
    refine h.nodes m (hq ▸ ?_)
    rcases List.mem_append.mp hm with hm | hm
    · exact List.mem_append_left _ hm
    · exact List.mem_append_right _ (List.mem_append_right _ hm)
  · intro m hm
    rcases List.mem_append.mp hm with hm | hm
    · exact h.released m hm
    · refine h.returns hs m (hq ▸ ?_)
      exact List.mem_append_right _ (List.mem_append_left _ hm)

theorem AllJudged.place {l r : List QueueNode} {b : BufDef} (h : AllJudged ch)
    (hq : ch.queue.que = l ++ r) (hb : b.streamId ∈ ch.queue.bundledStreams)
    (hpos : (ch.mem.newBuf && ch.mem.newNode) = true → 0 < b.frameIdx) :
    AllJudged (ch.place l r b) := by
  unfold Channel.place
  split
  · next hmem =>
    have hslot : ch.queue.bundledStreams.idxOf b.streamId < ch.queue.numStreams := List.idxOf_lt_length_of_mem hb
    have hnew : Judged (newNode ch.queue (ch.queue.bundledStreams.idxOf b.streamId) b.info) :=
      judged_newNode hslot (hpos hmem)
    have hall : AllJudged { ch with
        queue.que := l ++ newNode ch.queue (ch.queue.bundledStreams.idxOf b.streamId) b.info :: r
        queue.size := ch.queue.size + 1 } := by
      refine ⟨?_, h.released⟩
      intro m hm
      rcases List.mem_append.mp hm with hm | hm
      · exact h.nodes m (hq ▸ List.mem_append_left _ hm)
      · rcases List.mem_cons.mp hm with rfl | hm
        · exact hnew
        · exact h.nodes m (hq ▸ List.mem_append_right _ hm)
    unfold countSingle
    split
    · exact ⟨hall.nodes, hall.released⟩
    · exact hall
  · exact h.back b

theorem AllJudged.join {ms l r : List QueueNode} {n : QueueNode} {b : BufDef} (h : AllJudged ch)
    (hs : Shape ch.queue) (hq : ch.queue.que = ms ++ (l ++ n :: r)) :
    AllJudged (ch.join ms l n r b) := by
  have hall : ∀ m ∈ ms ++ (l ++ n :: r), Judged m := hq ▸ h.nodes
  simp only [List.forall_mem_append, List.forall_mem_cons] at hall
  obtain ⟨hms, hl, hn, hr⟩ := hall
  unfold Channel.join
  split
  · have hreleased := (h.unlink hs hq).released
    refine ⟨?_, hreleased⟩
    change ∀ m ∈ ms ++ n.fill _ b.info :: r, Judged m
    simp only [List.forall_mem_append, List.forall_mem_cons]
    exact ⟨hms, hn.fill _ _, hr⟩
  · refine ⟨?_, h.released⟩
    change ∀ m ∈ ms ++ (l ++ n.fill _ b.info :: r), Judged m
    simp only [List.forall_mem_append, List.forall_mem_cons]
    exact ⟨hms, hl, hn.fill _ _, hr⟩

variable {e : ThreadEvent}

theorem AllJudged.arrived {c c' : Channel} {b : BufDef} (hz : ZeroKeptOut ch e)
    (he : e.arrival ch = some (b, c)) (hs : Shape c.queue) (h : AllJudged c) (ha : Arrived b c c') :
    AllJudged c' := by
  cases ha with
  | unbundled => exact h
  | refused hc => exact (allJudged_kept.path (handleMetadata_some hs hc) hs h).back b
  | joined ha hq =>
    have hp := ha.path hs
    exact (allJudged_kept.path hp hs h).join (hp.shape hs) hq
  | older ha => exact (allJudged_kept.path (ha.path hs) hs h).back b
  | @evicting d ms l r n ha hq ho hl =>
    have hp := ha.path hs
    have hd := allJudged_kept.path hp hs h
    have hn := hl n (List.mem_cons_self ..)
    have hgone : AllJudged (d.unlink ms [n] (l ++ r)) := hd.unlink (hp.shape hs) hq
    refine hgone.place (List.append_assoc ..).symm ?_ fun _ => by omega
    exact hp.bundled.symm ▸ ha.bundled
  | @placed d ms l r ha hq ho hl hr hroom =>
    have hp := ha.path hs
    have hd := allJudged_kept.path hp hs h
    refine hd.place (by rw [hq, List.append_assoc]) (hp.bundled.symm ▸ ha.bundled) ?_
    intro hmem
    by_contra hzero
    rcases hz b c d he (by omega) ha with hfull | hno
    · exact hroom hfull
    · rw [hmem] at hno
      cases hno

theorem AllJudged.zeroReturned (hs : Shape ch.queue) (h : AllJudged ch) (hz : ZeroKeptOut ch e) :
    ZeroReturned ch e := by
  intro b c c' he hb hbundled hc
  obtain ⟨-, hq⟩ := ThreadEvent.arrival_eq he
  have hcs : Shape c.queue := hq.1 ▸ hs
  have hci : AllJudged c := allJudged_kept.frame hq.1 hq.2 h
  cases superbufCompAndEnqueue_arrived hcs hc with
  | unbundled hno => exact absurd hbundled hno
  | refused hmeta => exact ⟨_, handleMetadata_some hcs hmeta, rfl⟩
  | older ha => exact ⟨_, ha.path hcs, rfl⟩
  | @joined d ms l r n ha hq ho hf =>
    have hpos := ((allJudged_kept.path (ha.path hcs) hcs hci).nodes n (by rw [hq]; simp)).pos
    omega
  | evicting ha hq ho hl =>
    have hn := hl _ (List.mem_cons_self ..)
    omega
  | @placed d ms l r ha hq ho hl hr hroom =>
    refine ⟨d, ha.path hcs, ?_⟩
    rcases hz b c d he hb ha with hfull | hno
    · exact absurd hfull hroom
    · simp only [Channel.place, hno, Bool.false_eq_true, if_false]

theorem Started.allJudged (h : Started ch) : AllJudged ch :=
  ⟨by simp [h.que], by simp [h.trace, Trace.empty]⟩

/-- While no buffer of frame 0 gets into the queue, the two marks of an empty slot agree in every node, so that
a node is complete just when it holds a buffer of each stream and none is left behind when it is released
early; and the buffers of frame 0 go back to their streams. -/
theorem slots_agree {ch ch' : Channel} {es : List ThreadEvent} (hstart : Started ch)
    (hz : Runs.Along threadStep ZeroKeptOut ch es) (hrun : Runs.play threadStep ch es = some ch') :
    SlotsAgree ch' ∧ Runs.Along threadStep ZeroReturned ch es := by
  have hstep : ∀ c e c', Shape c.queue ∧ AllJudged c → ZeroKeptOut c e → threadStep c e = some c' →
      Shape c'.queue ∧ AllJudged c' := fun c e c' hc hze h =>
    allJudged_kept.step hc.1 hc.2 (fun b d d' he hs hi ha => hi.arrived hze he hs ha) h
  have hinit : Shape ch.queue ∧ AllJudged ch := ⟨hstart.shape, hstart.allJudged⟩
  constructor
  · obtain ⟨hs, hj⟩ := Runs.play_invariant hstep hinit hz hrun
    exact hj.slotsAgree hs
  · exact Runs.Along.of_invariant hstep (fun c e hc hze => hc.2.zeroReturned hc.1 hze) hinit hz

theorem zeroKeptOut_of_pos (h : ∀ b ∈ e.delivery, 0 < b.frameIdx) (ch : Channel) :
    ZeroKeptOut ch e := by
  intro b c₀ c he hb
  have hpos := h b (ThreadEvent.arrival_eq he).1
  omega

theorem slots_agree_out_of_order :
    ∃ c, Runs.play threadStep twoStreamChannel outOfOrder = some c ∧ c.queue.que ≠ [] ∧ SlotsAgree c :=
  ⟨_, rfl, by decide, (@slots_agree twoStreamChannel _ outOfOrder ⟨rfl, rfl, rfl, rfl, rfl⟩
    (Runs.Along.of_forall (fun e he c => zeroKeptOut_of_pos (by revert e; decide) c) _) rfl).1⟩

/-- The two buffers of frame 0 arrive, their superbuf does not become complete, and when frame 5 does it leaves
without them. -/
theorem frame_zero_left_behind : ¬ ∀ (ch ch' : Channel) (es : List ThreadEvent), Started ch →
    Runs.play threadStep ch es = some ch' → SlotsAgree ch' := by
  intro h
  have hs := h twoStreamChannel _ [.op (.compAndEnqueue (previewBuf 0)) ⟨true, true, []⟩,
    .op (.compAndEnqueue (snapshotBuf 0)) ⟨true, true, []⟩, .op (.compAndEnqueue (previewBuf 5)) ⟨true, true, []⟩,
    .op (.compAndEnqueue (snapshotBuf 5)) ⟨true, true, []⟩] ⟨rfl, rfl, rfl, rfl, rfl⟩ rfl
  have hlost := hs.released ⟨[(previewBuf 0).info, (snapshotBuf 0).info], false, 0⟩ (by decide)
  exact absurd hlost (by decide)

end Wt88047.Superbuf
