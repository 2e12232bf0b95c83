import Wt88047.MmCamera.SuperbufInvariant

/-! What the client gets: superbufs with one buffer of every bundled stream and of one frame,
no more of them than a burst asked for, and frame numbers that keep their distance. -/

namespace Wt88047.Superbuf

def WellFormed (bundled : List Nat) (sb : SuperBuf) : Prop :=
  sb.numBufs = bundled.length ∧ ∃ f, List.Forall₂
    (fun sid o => ∃ b : BufDef, o = some b ∧ b.streamId = sid ∧ b.frameIdx = f) bundled sb.bufs

theorem slots_wellFormed {f : Nat} {sids : List Nat} {slots : List BufInfo}
    (h : List.Forall₂ (SlotOk f) sids slots) (hfull : ∀ s ∈ slots, s.buf.isSome) :
    List.Forall₂ (fun sid o => ∃ b : BufDef, o = some b ∧ b.streamId = sid ∧ b.frameIdx = f)
      sids (slots.map (·.buf)) := by
  induction h with
  | nil => exact .nil
  | cons hs _ ih =>
    have hhead := hfull _ (List.mem_cons_self ..)
    rcases hs with rfl | ⟨b, rfl, hsid, hf⟩
    · simp [BufInfo.empty] at hhead
    · exact .cons ⟨b, rfl, hsid, hf⟩ (ih fun s hs => hfull s (List.mem_cons_of_mem _ hs))

variable {bundled : List Nat}

theorem NodeOk.wellFormed {n : QueueNode} (h : NodeOk bundled n) (hm : n.matched = true) :
    WellFormed bundled n.toSuperBuf :=
  ⟨h.numOfBufs, n.frameIdx, slots_wellFormed h.slots (h.full hm)⟩

structure BurstAccount where
  requested : Nat
  counted : Nat
  sent : Nat

def BurstAccount.add (a : BurstAccount) : Mark → BurstAccount
  | .request n => ⟨n, 0, 0⟩
  | .countDown => { a with counted := a.counted + 1 }
  | .dispatched .burst => { a with sent := a.sent + 1 }
  | .dispatched .continuous | .matched _ | .retarget => a

def burstAccount (history : List Mark) : BurstAccount := history.foldl BurstAccount.add ⟨0, 0, 0⟩

structure BurstOk (ch : Channel) : Prop where
  pending : ch.pendingCnt + (burstAccount ch.trace.history).counted =
    (burstAccount ch.trace.history).requested
  counted : (burstAccount ch.trace.history).sent ≤ (burstAccount ch.trace.history).counted

theorem burstAccount_append (history marks : List Mark) :
    burstAccount (history ++ marks) = marks.foldl BurstAccount.add (burstAccount history) :=
  List.foldl_append ..

variable {ch ch' : Channel} {marks : List Mark}

theorem burstOk_quiet (h : BurstOk ch) (hp : ch'.pendingCnt = ch.pendingCnt)
    (hh : ch'.trace.history = ch.trace.history ++ marks)
    (hm : ∀ a, marks.foldl BurstAccount.add a = a) : BurstOk ch' := by
  have he : burstAccount ch'.trace.history = burstAccount ch.trace.history := by
    rw [hh, burstAccount_append, hm]
  exact ⟨by rw [hp, he, h.pending], by rw [he]; exact h.counted⟩

variable {lossy : Prop}

theorem Move.burstOk (h : Move lossy ch ch') (hb : BurstOk ch) : BurstOk ch' := by
  cases h with
  | @serve n rest allocs mode fate hq hm hp =>
    have hpend := hb.pending
    have hcnt := hb.counted
    have hh : burstAccount (ch.serve mode fate n rest allocs).trace.history =
        ((if mode = .burst then [Mark.countDown] else []) ++
          if fate = .sent then [Mark.dispatched mode] else []).foldl BurstAccount.add
            (burstAccount ch.trace.history) := by
      rw [← burstAccount_append, ← List.append_assoc]
      rfl
    cases mode with
    | burst =>
      have hpos := hp rfl
      cases fate <;> refine ⟨?_, ?_⟩ <;> rw [hh] <;>
        simp [Channel.serve, BurstAccount.add] <;> omega
    | continuous =>
      cases fate <;> refine ⟨?_, ?_⟩ <;> rw [hh] <;>
        simpa [Channel.serve, BurstAccount.add]
  | request num =>
    have hh : burstAccount (ch.trace.history ++ [.request num]) = ⟨num, 0, 0⟩ := by
      rw [burstAccount_append]
      rfl
    refine ⟨?_, ?_⟩
    · change num + (burstAccount (ch.trace.history ++ [.request num])).counted = _
      rw [hh]
      rfl
    · change (burstAccount (ch.trace.history ++ [.request num])).sent ≤ _
      rw [hh]
  | retarget => exact burstOk_quiet hb rfl rfl fun _ => rfl
  | give | evict | config | control => exact ⟨hb.pending, hb.counted⟩

theorem Settle.burstOk {b : BufDef} (h : Settle b ch ch') (hb : BurstOk ch) : BurstOk ch' := by
  cases h with
  | complete =>
    refine burstOk_quiet hb rfl rfl fun a => ?_
    split <;> rfl
  | single he h1 =>
    have h1' : ch.queue.bundledStreams.length = 1 := h1
    simp only [countSingle, ChannelQueue.numStreams, h1', if_true]
    exact burstOk_quiet hb rfl rfl fun _ => rfl
  | reject | fill | insert => exact ⟨hb.pending, hb.counted⟩

def lastMatch : Option Nat → List Mark → Option Nat
  | last, [] => last
  | _, .matched f :: ms => lastMatch (some f) ms
  | _, .retarget :: ms => lastMatch none ms
  | last, .request _ :: ms | last, .countDown :: ms | last, .dispatched _ :: ms => lastMatch last ms

def successiveMatches : Option Nat → List Mark → List (Nat × Nat)
  | _, [] => []
  | none, .matched f :: ms => successiveMatches (some f) ms
  | some a, .matched f :: ms => (a, f) :: successiveMatches (some f) ms
  | _, .retarget :: ms => successiveMatches none ms
  | last, .request _ :: ms | last, .countDown :: ms | last, .dispatched _ :: ms =>
    successiveMatches last ms

theorem lastMatch_append (last : Option Nat) (xs ys : List Mark) :
    lastMatch last (xs ++ ys) = lastMatch (lastMatch last xs) ys := by
  induction xs generalizing last with
  | nil => rfl
  | cons x xs ih => cases x <;> simp [lastMatch, ih]

theorem successiveMatches_append (last : Option Nat) (xs ys : List Mark) :
    successiveMatches last (xs ++ ys) =
      successiveMatches last xs ++ successiveMatches (lastMatch last xs) ys := by
  induction xs generalizing last with
  | nil => rfl
  | cons x xs ih => cases x <;> cases last <;> simp [successiveMatches, lastMatch, ih]

structure FramesOk (R : Nat → Nat → Prop) (skip : Nat) (ch : Channel) : Prop where
  attr : ch.queue.attr.postFrameSkip = skip
  expected : ∀ a, lastMatch none ch.trace.history = some a → ch.queue.expectedFrameId = a + skip
  related : ∀ p ∈ successiveMatches none ch.trace.history, R p.1 p.2

theorem lastMatch_quiet (hm : ∀ m ∈ marks, ∀ f, m ≠ .matched f ∧ m ≠ .retarget) (last : Option Nat) :
    lastMatch last marks = last ∧ successiveMatches last marks = [] := by
  induction marks generalizing last with
  | nil => exact ⟨rfl, rfl⟩
  | cons m marks ih =>
    have hh := ih (fun k hk => hm k (List.mem_cons_of_mem _ hk)) last
    have hne := hm m (List.mem_cons_self ..)
    cases m with
    | matched f => exact absurd rfl (hne f).1
    | retarget => exact absurd rfl (hne 0).2
    | request | countDown | dispatched => simpa [lastMatch, successiveMatches] using hh

variable {R : Nat → Nat → Prop} {skip : Nat}

theorem FramesOk.quiet (h : FramesOk R skip ch)
    (hs : ch'.queue.attr.postFrameSkip = ch.queue.attr.postFrameSkip)
    (he : ch'.queue.expectedFrameId = ch.queue.expectedFrameId)
    (hh : ch'.trace.history = ch.trace.history ++ marks)
    (hm : ∀ m ∈ marks, ∀ f, m ≠ .matched f ∧ m ≠ .retarget) :
    FramesOk R skip ch' ∧ lastMatch none ch'.trace.history = lastMatch none ch.trace.history := by
  have hl : lastMatch none ch'.trace.history = lastMatch none ch.trace.history := by
    rw [hh, lastMatch_append, (lastMatch_quiet hm _).1]
  refine ⟨⟨hs.trans h.attr, fun a ha => he.trans (h.expected a (hl ▸ ha)), ?_⟩, hl⟩
  rw [hh, successiveMatches_append, (lastMatch_quiet hm _).2, List.append_nil]
  exact h.related

theorem Move.framesOk (h : Move lossy ch ch') (hf : FramesOk R skip ch) :
    FramesOk R skip ch' ∧ ∀ a, lastMatch none ch'.trace.history = some a →
      lastMatch none ch.trace.history = some a := by
  have hquiet : ∀ {c : Channel} {marks : List Mark},
      c.queue.attr.postFrameSkip = ch.queue.attr.postFrameSkip →
      c.queue.expectedFrameId = ch.queue.expectedFrameId →
      c.trace.history = ch.trace.history ++ marks →
      (∀ m ∈ marks, ∀ f, m ≠ .matched f ∧ m ≠ .retarget) →
      FramesOk R skip c ∧ ∀ a, lastMatch none c.trace.history = some a →
        lastMatch none ch.trace.history = some a := by
    intro c marks hs he hh hm
    obtain ⟨hok, hl⟩ := hf.quiet hs he hh hm
    exact ⟨hok, fun a ha => hl.symm.trans ha⟩
  cases h with
  | @serve n rest allocs mode fate =>
    refine hquiet rfl rfl (List.append_assoc ..) fun m hm f => ?_
    cases mode <;> cases fate <;> simp at hm <;> grind
  | request num => exact hquiet rfl rfl rfl (by simp)
  | retarget id idWithoutLed =>
    have hl : lastMatch none (ch.trace.history ++ [.retarget]) = none := by
      rw [lastMatch_append]
      cases lastMatch none ch.trace.history <;> rfl
    have hs : successiveMatches none (ch.trace.history ++ [.retarget]) =
        successiveMatches none ch.trace.history := by
      rw [successiveMatches_append]
      cases lastMatch none ch.trace.history <;> simp [successiveMatches]
    refine ⟨⟨hf.attr, fun a ha => ?_, fun p hp => hf.related p (hs ▸ hp)⟩, fun a ha => ?_⟩
    · exact absurd (hl.symm.trans ha) (by simp)
    · exact absurd (hl.symm.trans ha) (by simp)
  | give | evict | config | control => exact hquiet rfl rfl (List.append_nil _).symm (by simp)

theorem Path.framesOk (h : Path lossy ch ch') (hf : FramesOk R skip ch) :
    FramesOk R skip ch' ∧ ∀ a, lastMatch none ch'.trace.history = some a →
      lastMatch none ch.trace.history = some a := by
  induction h with
  | refl => exact ⟨hf, fun _ ha => ha⟩
  | tail _ hm ih =>
    obtain ⟨hok, hback⟩ := hm.framesOk ih.1
    exact ⟨hok, fun a ha => ih.2 a (hback a ha)⟩

theorem FramesOk.after_match {f : Nat} (flash : Bool) (h : FramesOk R skip ch)
    (hs : ch'.queue.attr.postFrameSkip = ch.queue.attr.postFrameSkip)
    (he : flash = false → ch'.queue.expectedFrameId = f + skip)
    (hh : ch'.trace.history = ch.trace.history ++ Mark.matched f :: if flash then [.retarget] else [])
    (hR : ∀ a, lastMatch none ch.trace.history = some a → R a f) : FramesOk R skip ch' := by
  refine ⟨hs.trans h.attr, fun a ha => ?_, fun p hp => ?_⟩
  · rw [hh, lastMatch_append] at ha
    cases flash with
    | true => cases lastMatch none ch.trace.history <;> simp [lastMatch] at ha
    | false =>
      obtain rfl : f = a := by
        cases lastMatch none ch.trace.history <;> simpa [lastMatch] using ha
      exact he rfl
  · rw [hh, successiveMatches_append, List.mem_append] at hp
    rcases hp with hp | hp
    · exact h.related p hp
    · cases hl : lastMatch none ch.trace.history with
      | none => cases flash <;> simp [hl, successiveMatches] at hp
      | some a =>
        obtain rfl : p = (a, f) := by
          cases flash <;> simpa [hl, successiveMatches] using hp
        exact hR a hl

theorem Settle.framesOk {b : BufDef} (h : Settle b ch ch') (hf : FramesOk R skip ch)
    (hwrap : b.frameIdx + skip < 2 ^ 32)
    (hR : ∀ a, lastMatch none ch.trace.history = some a → a + skip ≤ b.frameIdx → R a b.frameIdx) :
    FramesOk R skip ch' := by
  have hrel : ch.queue.expectedFrameId ≤ b.frameIdx → ∀ a,
      lastMatch none ch.trace.history = some a → R a b.frameIdx := fun he a ha =>
    hR a ha (hf.expected a ha ▸ he)
  have hmod : (b.frameIdx + ch.queue.attr.postFrameSkip) % 2 ^ 32 = b.frameIdx + skip := by
    rw [hf.attr]
    exact Nat.mod_eq_of_lt hwrap
  cases h with
  | complete hq ho hfr he =>
    refine hf.after_match ch.isFlashBracketingEnabled rfl (fun hoff => ?_) rfl (hrel he)
    simp only [countMatch, Channel.unlink, hoff, Bool.false_eq_true, if_false, hmod]
  | single he h1 =>
    have h1' : ch.queue.bundledStreams.length = 1 := h1
    simp only [countSingle, ChannelQueue.numStreams, h1', if_true]
    exact hf.after_match false rfl (fun _ => hmod) rfl (hrel he)
  | reject | fill | insert => exact ⟨hf.attr, hf.expected, hf.related⟩

def AllWellFormed (bundled : List Nat) (ch : Channel) : Prop :=
  ∀ sb ∈ ch.trace.cbQueue ++ ch.trace.notified, WellFormed bundled sb

theorem Move.allWellFormed (h : Move lossy ch ch') (hs : Shape ch.queue)
    (hw : AllWellFormed ch.queue.bundledStreams ch) :
    AllWellFormed ch'.queue.bundledStreams ch' := by
  cases h with
  | @serve n rest allocs mode fate hq hm =>
    cases fate with
    | sent =>
      intro sb hsb
      have hsb' : sb ∈ (ch.trace.cbQueue ++ [n.toSuperBuf]) ++ ch.trace.notified := hsb
      simp only [List.mem_append, List.mem_singleton] at hsb'
      rcases hsb' with (hsb' | rfl) | hsb'
      · exact hw sb (List.mem_append_left _ hsb')
      · exact (hs.nodes n (hq ▸ List.mem_cons_self ..)).wellFormed hm
      · exact hw sb (List.mem_append_right _ hsb')
    | lost | back => exact fun sb hsb => hw sb (by simpa [Channel.serve] using hsb)
  | give | evict | retarget | request | config | control => exact hw

structure Dispatching (R : Nat → Nat → Prop) (bundled : List Nat) (skip : Nat) (ch : Channel) :
    Prop where
  sound : Sound bundled ch
  formed : AllWellFormed bundled ch
  burst : BurstOk ch
  frames : FramesOk R skip ch

theorem Path.dispatching (h : Path lossy ch ch') (hd : Dispatching R bundled skip ch) :
    Dispatching R bundled skip ch' := by
  induction h with
  | refl => exact hd
  | tail _ hm ih =>
    have hw := hm.allWellFormed ih.sound.shape (ih.sound.bundled ▸ ih.formed)
    have hs := hm.sound ih.sound
    exact ⟨hs, hs.bundled ▸ hw, hm.burstOk ih.burst, (hm.framesOk ih.frames).1⟩

def Follows (R : Nat → Nat → Prop) (skip : Nat) (ch : Channel) (b : BufDef) : Prop :=
  b.frameIdx + skip < 2 ^ 32 ∧
    ∀ a ∈ lastMatch none ch.trace.history, a + skip ≤ b.frameIdx → R a b.frameIdx

theorem Effect.dispatching {cmd : Cmd} (h : Effect lossy cmd ch ch')
    (hd : Dispatching R bundled skip ch) (hdel : cmd.Delivers bundled)
    (hf : ∀ b, cmd = .dataCb b → Follows R skip ch b) : Dispatching R bundled skip ch' := by
  cases cmd with
  | dataCb b =>
    obtain ⟨mid, mid', hpath, hsettle, hrest⟩ := h
    have hm := hdel b rfl
    obtain ⟨hwrap, hR⟩ := hf b rfl
    have hin : Dispatching R bundled skip
        { ch with trace.delivered := ch.trace.delivered ++ [b] } :=
      ⟨⟨hd.sound.shape, hd.sound.bundled, hd.sound.released⟩, hd.formed,
        ⟨hd.burst.pending, hd.burst.counted⟩, ⟨hd.frames.attr, hd.frames.expected, hd.frames.related⟩⟩
    have hmid : Dispatching R bundled skip mid := hpath.dispatching hin
    have hback := (hpath.framesOk hin.frames).2
    refine hrest.dispatching ⟨hsettle.sound hmid.sound hm, ?_, hsettle.burstOk hmid.burst, ?_⟩
    · obtain ⟨_, _, _, hnot, _⟩ := hsettle.frame
      have hcb : mid'.trace.cbQueue = mid.trace.cbQueue := by
        cases hsettle with
        | single => simp only [countSingle]; split <;> rfl
        | reject | fill | complete | insert => rfl
      intro sb hsb
      rw [hnot, hcb] at hsb
      exact hmid.formed sb hsb
    · exact hsettle.framesOk hmid.frames hwrap fun a ha => hR a (hback a ha)
  | reqDataCb | startZsl | stopZsl | configNotify | flushQueue | general =>
    exact Path.dispatching h hd

theorem dispatchSuperBuf_dispatching (hd : Dispatching R bundled skip ch) :
    Dispatching R bundled skip (dispatchSuperBuf ch) := by
  unfold dispatchSuperBuf
  split
  · exact hd
  · rename_i sb rest hcb
    refine ⟨⟨hd.sound.shape, hd.sound.bundled, hd.sound.released⟩, fun s hs => hd.formed s ?_,
      ⟨hd.burst.pending, hd.burst.counted⟩, ⟨hd.frames.attr, hd.frames.expected, hd.frames.related⟩⟩
    rw [hcb]
    simp only [List.mem_append, List.mem_cons] at hs ⊢
    split at hs <;> grind

theorem step_dispatching {e : Event} (hd : Dispatching R bundled skip ch)
    (hdel : ∀ b ∈ e.delivery, b.streamId ∈ bundled ∧ Follows R skip ch b) (h : step ch e = some ch') :
    Dispatching R bundled skip ch' := by
  cases e with
  | callback =>
    obtain rfl := Option.some.inj h
    exact dispatchSuperBuf_dispatching hd
  | command cmd mem =>
    have hcmd : cmd.Delivers bundled := by
      rintro b rfl
      exact (hdel b rfl).1
    have hin : Dispatching R bundled skip { ch with mem := mem } :=
      ⟨⟨hd.sound.shape, hd.sound.bundled, hd.sound.released⟩, hd.formed,
        ⟨hd.burst.pending, hd.burst.counted⟩, ⟨hd.frames.attr, hd.frames.expected, hd.frames.related⟩⟩
    rcases processStreamBuf_effect True { ch with mem := mem } cmd
      hd.sound.shape (hd.sound.bundled ▸ hcmd) (Or.inr trivial) (Or.inr trivial) with
      ⟨_, hn, _⟩ | ⟨c, hc, heff⟩
    · exact absurd (hn.symm.trans h) (by simp)
    · obtain rfl := Option.some.inj (hc.symm.trans h)
      refine heff.dispatching hin hcmd ?_
      rintro b rfl
      exact (hdel b rfl).2

theorem Started.dispatching (h : Started ch) (R : Nat → Nat → Prop) :
    Dispatching R ch.queue.bundledStreams ch.queue.attr.postFrameSkip ch := by
  refine ⟨h.sound, ?_, ⟨?_, ?_⟩, ⟨rfl, ?_, ?_⟩⟩ <;>
    simp [AllWellFormed, h.trace, Trace.empty, burstAccount, h.pendingCnt, lastMatch,
      successiveMatches]

theorem burstAccount_since {pre post : List Mark} {n : Nat} (h : ∀ m, Mark.request m ∉ post) :
    burstAccount (pre ++ .request n :: post) =
      ⟨n, post.count .countDown, post.count (.dispatched .burst)⟩ := by
  have hgo : ∀ a : BurstAccount, post.foldl BurstAccount.add a =
      ⟨a.requested, a.counted + post.count .countDown, a.sent + post.count (.dispatched .burst)⟩ := by
    induction post with
    | nil => exact fun a => rfl
    | cons m post ih =>
      intro a
      have hpost : ∀ k, Mark.request k ∉ post := fun k hk => h k (List.mem_cons_of_mem _ hk)
      rw [List.foldl_cons, ih hpost]
      rcases m with f | _ | k | _ | (_ | _)
      · simp [BurstAccount.add]
      · simp [BurstAccount.add]
      · exact absurd (List.mem_cons_self ..) (h k)
      · simp [BurstAccount.add, Nat.add_assoc, Nat.add_comm 1]
      · simp [BurstAccount.add, Nat.add_assoc, Nat.add_comm 1]
      · simp [BurstAccount.add]
  rw [burstAccount_append, List.foldl_cons, hgo]
  simp [BurstAccount.add]

theorem play_dispatching {es : List Event} (hstart : Started ch)
    (hdel : Runs.Along step (fun c e => ∀ b ∈ e.delivery, b.streamId ∈ ch.queue.bundledStreams ∧ Follows R ch.queue.attr.postFrameSkip c b) ch es)
    (hrun : Runs.play step ch es = some ch') :
    Dispatching R ch.queue.bundledStreams ch.queue.attr.postFrameSkip ch' :=
  Runs.play_invariant (fun _ _ _ hd he h => step_dispatching hd he h) (hstart.dispatching R) hdel hrun

def SkipsExpected (skip : Nat) (ch : Channel) (b : BufDef) : Prop :=
  b.frameIdx + skip < 2 ^ 32 ∧ ∀ a ∈ lastMatch none ch.trace.history, b.frameIdx ≠ a + skip

instance (skip : Nat) (ch : Channel) (b : BufDef) : Decidable (SkipsExpected skip ch b) :=
  inferInstanceAs (Decidable (_ < _ ∧ ∀ a ∈ lastMatch none ch.trace.history, b.frameIdx ≠ a + skip))

/-- Superbufs reach the client whole and within what was asked for, and the frames of
successive ones are more than `post_frame_skip` apart as long as no buffer comes with exactly
the expected frame. -/
theorem superbuf_dispatch_ordered {ch ch' : Channel} {es : List Event} (hstart : Started ch)
    (hdel : Runs.Along step (fun c e => ∀ b ∈ e.delivery, b.streamId ∈ ch.queue.bundledStreams ∧
      SkipsExpected ch.queue.attr.postFrameSkip c b) ch es)
    (hrun : Runs.play step ch es = some ch') :
    (∀ sb ∈ ch'.trace.cbQueue ++ ch'.trace.notified,
        sb.numBufs = ch.queue.bundledStreams.length ∧ ∃ f, List.Forall₂
          (fun sid o => ∃ b : BufDef, o = some b ∧ b.streamId = sid ∧ b.frameIdx = f)
          ch.queue.bundledStreams sb.bufs) ∧
      (∀ pre n post, ch'.trace.history = pre ++ .request n :: post → (∀ m, .request m ∉ post) →
        post.count (.dispatched .burst) ≤ n ∧ ch'.pendingCnt + post.count .countDown = n) ∧
      ∀ p ∈ successiveMatches none ch'.trace.history, p.1 + ch.queue.attr.postFrameSkip < p.2 := by
  have hd := play_dispatching (R := fun a f => a + ch.queue.attr.postFrameSkip < f) hstart
    (hdel.imp fun c e h b hb => ⟨(h b hb).1, (h b hb).2.1, fun a ha hle =>
      Nat.lt_of_le_of_ne hle fun he => (h b hb).2.2 a ha he.symm⟩) hrun
  refine ⟨hd.formed, fun pre n post hh hpost => ?_, hd.frames.related⟩
  have hp := hd.burst.pending
  have hc := hd.burst.counted
  rw [hh, burstAccount_since hpost] at hp hc
  simp only at hp hc
  omega

def everyOtherFrame : List Event :=
  [.command (.reqDataCb 2) ⟨true, true, []⟩,
    .command (.dataCb (previewBuf 5)) ⟨true, true, []⟩,
    .command (.dataCb (snapshotBuf 5)) ⟨true, true, [(true, true)]⟩,
    .command (.dataCb (previewBuf 7)) ⟨true, true, []⟩,
    .command (.dataCb (snapshotBuf 7)) ⟨true, true, [(true, true)]⟩,
    .callback]

theorem superbuf_dispatch_ordered_every_other :
    ∃ c, Runs.play step twoStreamChannel everyOtherFrame = some c ∧
      c.trace.notified = [⟨2, [some (previewBuf 5), some (snapshotBuf 5)]⟩] ∧ c.pendingCnt = 0 ∧
      successiveMatches none c.trace.history = [(5, 7)] ∧
      ∀ p ∈ successiveMatches none c.trace.history, p.1 + 1 < p.2 :=
  ⟨_, rfl, rfl, rfl, rfl,
    (@superbuf_dispatch_ordered twoStreamChannel _ everyOtherFrame
      ⟨rfl, rfl, rfl, rfl, rfl⟩ (by decide) rfl).2.2⟩

def everyFrame : List Event :=
  [.command (.dataCb (previewBuf 5)) ⟨true, true, []⟩,
    .command (.dataCb (snapshotBuf 5)) ⟨true, true, []⟩,
    .command (.dataCb (previewBuf 6)) ⟨true, true, []⟩,
    .command (.dataCb (snapshotBuf 6)) ⟨true, true, []⟩]

/-- With one frame to skip, two frames in a row are matched. -/
theorem everyFrame_matches_adjacent :
    Started twoStreamChannel ∧ twoStreamChannel.queue.attr.postFrameSkip = 1 ∧
      (∀ e ∈ everyFrame, ∀ b ∈ e.delivery,
        b.streamId ∈ twoStreamChannel.queue.bundledStreams ∧ 0 < b.frameIdx) ∧
      ∃ c, Runs.play step twoStreamChannel everyFrame = some c ∧
        c.trace.history = [.matched 5, .matched 6] ∧
        ¬ ∀ p ∈ successiveMatches none c.trace.history, p.1 + 1 < p.2 :=
  ⟨⟨rfl, rfl, rfl, rfl, rfl⟩, rfl, by decide, _, rfl, rfl, by decide⟩

end Wt88047.Superbuf
