import Wt88047.MmCamera.SuperbufCommands

/-! The shape of the superbuf queue over whole runs of the channel thread, whose operations
may also be called one by one. -/

namespace Wt88047.Superbuf

inductive QueueOp
  | compAndEnqueue (buf : BufDef)
  | dequeue
  | bufdoneOverflow
  | skip
  | flush (camType : StreamType)
  | flushMatched
  deriving DecidableEq

inductive ThreadEvent
  | op (o : QueueOp) (mem : Mem)
  | event (e : Event)
  deriving DecidableEq

def applyOp (ch : Channel) : QueueOp → Option Channel
  | .compAndEnqueue b =>
    superbufCompAndEnqueue { ch with trace.delivered := ch.trace.delivered ++ [b] } b.info
  | .dequeue => some { ch with queue := (superbufDequeue ch.queue).2 }
  | .bufdoneOverflow => superbufBufdoneOverflow ch
  | .skip => superbufSkip ch
  | .flush camType => superbufFlush camType ch
  | .flushMatched => superbufFlushMatched ch

def threadStep (ch : Channel) : ThreadEvent → Option Channel
  | .op o mem => applyOp { ch with mem := mem } o
  | .event e => step ch e

def ThreadEvent.delivery : ThreadEvent → Option BufDef
  | .op (.compAndEnqueue b) _ => some b
  | .event e => e.delivery
  | _ => none

def ThreadEvent.Delivers (bundled : List Nat) (e : ThreadEvent) : Prop :=
  ∀ b ∈ e.delivery, b.streamId ∈ bundled

instance (bundled : List Nat) (e : ThreadEvent) : Decidable (e.Delivers bundled) :=
  inferInstanceAs (Decidable (∀ b ∈ e.delivery, b.streamId ∈ bundled))

/-- A channel as `mm_channel_start` leaves it the first time: nothing queued, nothing done. -/
structure Started (ch : Channel) : Prop where
  que : ch.queue.que = []
  size : ch.queue.size = 0
  matchCnt : ch.queue.matchCnt = 0
  pendingCnt : ch.pendingCnt = 0
  trace : ch.trace = .empty

/-- The queue is well shaped and only open superbufs were released early. -/
structure Sound (bundled : List Nat) (ch : Channel) : Prop where
  shape : Shape ch.queue
  bundled : ch.queue.bundledStreams = bundled
  released : ∀ n ∈ ch.trace.released, n.matched = false

variable {ch : Channel}

theorem Started.shape (h : Started ch) : Shape ch.queue :=
  ⟨⟨[], [], h.que, by simp, by simp, .nil⟩, by simp [h.que, h.matchCnt], by simp [h.que, h.size],
    by simp [h.que], by simp [h.que]⟩

theorem Started.sound (h : Started ch) : Sound ch.queue.bundledStreams ch :=
  ⟨h.shape, rfl, by simp [h.trace, Trace.empty]⟩

variable {bundled : List Nat} {ch' : Channel}

theorem Move.sound {lossy : Prop} (h : Move lossy ch ch') (hs : Sound bundled ch) :
    Sound bundled ch' := by
  refine ⟨h.shape hs.shape, h.bundled.trans hs.bundled, ?_⟩
  cases h with
  | evict hq hn =>
    intro m hm
    rcases List.mem_append.mp hm with hm | hm
    · exact hs.released m hm
    · rwa [List.mem_singleton.mp hm]
  | give | serve | retarget | request | config | control => exact hs.released

theorem Path.sound {lossy : Prop} (h : Path lossy ch ch') (hs : Sound bundled ch) :
    Sound bundled ch' := by
  induction h with
  | refl => exact hs
  | tail _ hm ih => exact hm.sound ih

theorem Settle.sound {b : BufDef} (h : Settle b ch ch') (hs : Sound bundled ch)
    (hm : b.streamId ∈ bundled) : Sound bundled ch' := by
  refine ⟨h.shape hs.shape (hs.bundled ▸ hm), h.bundled.trans hs.bundled, ?_⟩
  cases h with
  | @complete ms older r n hq ho =>
    intro m hmem
    rcases List.mem_append.mp hmem with hmem | hmem
    · exact hs.released m hmem
    · simpa using ho.waiting m (List.mem_append_left _ hmem)
  | single => simp only [countSingle]; split <;> exact hs.released
  | reject | fill | insert => exact hs.released

theorem Effect.sound {lossy : Prop} {cmd : Cmd} (h : Effect lossy cmd ch ch')
    (hs : Sound bundled ch) (hd : cmd.Delivers bundled) : Sound bundled ch' := by
  cases cmd with
  | dataCb b =>
    obtain ⟨mid, mid', hpath, hsettle, hrest⟩ := h
    have hm := hd b rfl
    have hmid : Sound bundled mid := hpath.sound ⟨hs.shape, hs.bundled, hs.released⟩
    exact hrest.sound (hsettle.sound hmid hm)
  | reqDataCb | startZsl | stopZsl | configNotify | flushQueue | general => exact Path.sound h hs

theorem dispatchSuperBuf_queue (ch : Channel) :
    (dispatchSuperBuf ch).queue = ch.queue ∧ (dispatchSuperBuf ch).streams = ch.streams ∧
      (dispatchSuperBuf ch).trace.released = ch.trace.released := by
  unfold dispatchSuperBuf
  split <;> exact ⟨rfl, rfl, rfl⟩

theorem applyOp_sound {o : QueueOp} {mem : Mem} (hs : Sound bundled ch)
    (hd : (ThreadEvent.op o mem).Delivers bundled) (h : applyOp ch o = some ch') :
    Sound bundled ch' := by
  have hend : ∀ {r : Option Channel}, Ends True ch r → r = some ch' → Sound bundled ch' := by
    rintro r ⟨c, rfl, hp⟩ hr
    exact Option.some.inj hr ▸ hp.sound hs
  cases o with
  | compAndEnqueue b =>
    have hm := hd b rfl
    rcases superbufCompAndEnqueue_settle True
      { ch with trace.delivered := ch.trace.delivered ++ [b] } hs.shape
      (hs.bundled ▸ hm) with ⟨hn, _⟩ | ⟨mid, c, hc, hpath, hsettle⟩
    · exact absurd (hn.symm.trans h) (by simp)
    · obtain rfl := Option.some.inj (hc.symm.trans h)
      have hmid : Sound bundled mid := hpath.sound ⟨hs.shape, hs.bundled, hs.released⟩
      exact hsettle.sound hmid hm
  | dequeue =>
    obtain rfl := Option.some.inj h
    cases hdq : superbufDequeueInternal ch.queue true with
    | mk r q =>
      have hq : (superbufDequeue ch.queue).2 = q := congrArg Prod.snd hdq
      cases r with
      | none =>
        rw [hq, superbufDequeueInternal_same hdq]
        exact ⟨hs.shape, hs.bundled, hs.released⟩
      | some n =>
        obtain ⟨rest, hque, rfl, _⟩ := superbufDequeueInternal_some hs.shape hdq
        rw [hq]
        exact ⟨hs.shape.pop hque, hs.bundled, hs.released⟩
  | bufdoneOverflow => exact hend (releaseAbove_ends _ hs.shape) h
  | skip => exact hend (releaseAbove_ends _ hs.shape) h
  | flush camType => exact hend (superbufFlush_ends _ _ _ hs.shape (Or.inr trivial)) h
  | flushMatched => exact hend (superbufFlushMatched_ends hs.shape) h

theorem threadStep_sound {e : ThreadEvent} (hs : Sound bundled ch) (hd : e.Delivers bundled)
    (h : threadStep ch e = some ch') : Sound bundled ch' := by
  cases e with
  | op o mem =>
    have hin : Sound bundled { ch with mem := mem } := ⟨hs.shape, hs.bundled, hs.released⟩
    exact applyOp_sound hin hd h
  | event e =>
    cases e with
    | command cmd mem =>
      have hdel : cmd.Delivers bundled := by
        rintro b rfl
        exact hd b rfl
      rcases processStreamBuf_effect True { ch with mem := mem } cmd
        hs.shape (hs.bundled ▸ hdel) (Or.inr trivial) (Or.inr trivial) with ⟨_, hn, _⟩ | ⟨c, hc, heff⟩
      · exact absurd (hn.symm.trans h) (by simp)
      · obtain rfl := Option.some.inj (hc.symm.trans h)
        exact heff.sound ⟨hs.shape, hs.bundled, hs.released⟩ hdel
    | callback =>
      obtain rfl := Option.some.inj h
      obtain ⟨hq, _, hr⟩ := dispatchSuperBuf_queue ch
      exact ⟨hq ▸ hs.shape, hq ▸ hs.bundled, hr ▸ hs.released⟩

theorem play_sound {es : List ThreadEvent} (hstart : Started ch)
    (hd : ∀ e ∈ es, e.Delivers ch.queue.bundledStreams)
    (hrun : Runs.play threadStep ch es = some ch') : Sound ch.queue.bundledStreams ch' :=
  Runs.play_invariant (P := fun _ e => e.Delivers ch.queue.bundledStreams)
    (fun _ _ _ hs he h => threadStep_sound hs he h) hstart.sound
    (Runs.Along.of_forall (fun e he _ => hd e he) ch) hrun

theorem releaseTurns_shape {limit : Nat} {c : Channel} (h : Shape ch.queue)
    (hc : Relation.ReflTransGen (fun a b => releaseTurn limit a = some b) ch c) :
    Shape c.queue := by
  induction hc with
  | refl => exact h
  | tail _ ht ih => exact (releaseTurn_move False ih ht).1.shape ih

theorem threadStep_refused {e : ThreadEvent} (hs : Sound bundled ch) (hd : e.Delivers bundled)
    (h : threadStep ch e = none) : e.delivery.isSome ∧ snapshotStreamId ch.streams = none := by
  have hend : ∀ {c : Channel} {r : Option Channel}, Ends True c r → r ≠ none := by
    rintro c r ⟨d, rfl, _⟩
    simp
  cases e with
  | op o mem =>
    cases o with
    | compAndEnqueue b =>
      rcases superbufCompAndEnqueue_settle True
        { ch with mem := mem, trace.delivered := ch.trace.delivered ++ [b] } hs.shape
        (hs.bundled ▸ (hd b rfl)) with ⟨_, hid⟩ | ⟨mid, c, hc, _⟩
      · exact ⟨rfl, hid⟩
      · exact absurd (hc.symm.trans h) (by simp)
    | dequeue => exact absurd h (by simp [threadStep, applyOp])
    | bufdoneOverflow => exact absurd h (hend (releaseAbove_ends _ hs.shape))
    | skip => exact absurd h (hend (releaseAbove_ends _ hs.shape))
    | flush camType => exact absurd h (hend (superbufFlush_ends _ _ _ hs.shape (Or.inr trivial)))
    | flushMatched => exact absurd h (hend (superbufFlushMatched_ends hs.shape))
  | event e =>
    cases e with
    | callback => exact absurd h (by simp [threadStep, step])
    | command cmd mem =>
      have hdel : cmd.Delivers bundled := by
        rintro b rfl
        exact hd b rfl
      rcases processStreamBuf_effect True { ch with mem := mem } cmd
        hs.shape (hs.bundled ▸ hdel) (Or.inr trivial) (Or.inr trivial) with ⟨⟨b, rfl⟩, _, hid⟩ | ⟨c, hc, _⟩
      · exact ⟨rfl, hid⟩
      · exact absurd (hc.symm.trans h) (by simp)

/-- In every state that a run of the thread reaches, complete superbufs stand in front of the
open ones, the open ones ascend by frame number and the counters agree with the list. Hence
the release loops always find a complete head and end, and no complete superbuf is ever
released as an older one. -/
theorem superbuf_queue_shape {ch ch' : Channel} {es : List ThreadEvent} (hstart : Started ch)
    (hd : ∀ e ∈ es, e.Delivers ch.queue.bundledStreams)
    (hrun : Runs.play threadStep ch es = some ch') :
    (∃ ms us, ch'.queue.que = ms ++ us ∧ (∀ n ∈ ms, n.matched = true) ∧
        (∀ n ∈ us, n.matched = false) ∧ us.Pairwise fun a b => a.frameIdx < b.frameIdx) ∧
      ch'.queue.matchCnt = ch'.queue.que.countP (·.matched) ∧
      ch'.queue.size = ch'.queue.que.length ∧
      (∀ limit c, Relation.ReflTransGen (fun a b => releaseTurn limit a = some b) ch' c →
        limit < c.queue.matchCnt → ∃ n rest, c.queue.que = n :: rest ∧ n.matched = true) ∧
      (∀ limit, ∃ c, releaseAbove limit ch' = some c) ∧
      (∀ n ∈ ch'.trace.released, n.matched = false) ∧
      ∀ e, e.Delivers ch.queue.bundledStreams → threadStep ch' e = none →
        e.delivery.isSome ∧ snapshotStreamId ch'.streams = none := by
  have hs := play_sound hstart hd hrun
  obtain ⟨ms, us, hq, ho⟩ := hs.shape.order
  refine ⟨⟨ms, us, hq, ho.ready, fun n hn => by simpa using ho.waiting n hn, ho.ascending⟩,
    hs.shape.matchCnt, hs.shape.size, ?_, ?_, hs.released, fun e he => threadStep_refused hs he⟩
  · intro limit c hc hlim
    exact (releaseTurns_shape hs.shape hc).head_matched (by omega)
  · intro limit
    obtain ⟨c, hc, _⟩ : Ends False ch' (releaseAbove limit ch') := releaseAbove_ends limit hs.shape
    exact ⟨c, hc⟩

def twoStreamChannel : Channel where
  queue := ⟨[], 0, [1, 2], ⟨.burst, 2, 1, 1, 3⟩, 0, 0, 0⟩
  superBufNotifyCb := true
  streams := [⟨true, 1, some .preview, 11, true⟩, ⟨true, 2, some .snapshot, 12, true⟩]
  pendingCnt := 0
  manualZSLSnapshot := false
  startZSlSnapshotCalled := false
  needLEDFlash := false
  previewSkipCnt := 0
  bracketingState := .off
  isFlashBracketingEnabled := false
  isZoom1xFrameRequested := false
  mem := ⟨true, true, []⟩
  trace := .empty

def previewBuf (frame : Nat) : BufDef := ⟨1, .preview, frame % 4, frame, none⟩

def snapshotBuf (frame : Nat) : BufDef := ⟨2, .snapshot, frame % 4, frame, none⟩

def outOfOrder : List ThreadEvent :=
  [.op (.compAndEnqueue (previewBuf 5)) ⟨true, true, []⟩,
    .event (.command (.dataCb (previewBuf 4)) ⟨true, true, []⟩),
    .event (.command (.dataCb (snapshotBuf 5)) ⟨true, true, []⟩),
    .op (.compAndEnqueue (snapshotBuf 7)) ⟨true, true, []⟩]

theorem superbuf_queue_shape_out_of_order :
    ∃ c, Runs.play threadStep twoStreamChannel outOfOrder = some c ∧
      c.queue.que.map (·.matched) = [true, false] ∧ c.trace.qbufs = [previewBuf 4] ∧
      c.queue.matchCnt = c.queue.que.countP (·.matched) :=
  ⟨_, rfl, rfl, rfl,
    (@superbuf_queue_shape twoStreamChannel _ outOfOrder ⟨rfl, rfl, rfl, rfl, rfl⟩
      (by decide) rfl).2.1⟩

end Wt88047.Superbuf
