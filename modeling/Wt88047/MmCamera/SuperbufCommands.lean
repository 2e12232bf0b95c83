import Wt88047.Lib.Runs
import Wt88047.MmCamera.SuperbufMatching

/-! The commands of the channel thread as moves, and the runs of the thread together with
the callback thread that it feeds. -/

namespace Wt88047.Superbuf

def Mem.EnqOk (m : Mem) : Prop := ∀ a ∈ m.dispatch, a.2 = true

theorem countDown_eq {mode : NotifyMode} (ch : Channel) (hp : mode = .burst → 0 < ch.pendingCnt) :
    ∃ called skip calls, countDown mode ch = { ch with
      pendingCnt := if mode = .burst then ch.pendingCnt - 1 else ch.pendingCnt
      startZSlSnapshotCalled := called
      previewSkipCnt := skip
      trace.history := ch.trace.history ++ if mode = .burst then [.countDown] else []
      trace.zslCalls := calls } := by
  cases mode with
  | continuous =>
    exact ⟨ch.startZSlSnapshotCalled, ch.previewSkipCnt, ch.trace.zslCalls, by simp [countDown]⟩
  | burst =>
    have hpos := hp rfl
    simp only [countDown, if_true, decr_of_pos hpos]
    split
    · exact ⟨_, _, _, rfl⟩
    · exact ⟨_, _, _, rfl⟩

theorem dispatchSuperbuf_eq (mode : NotifyMode) {n : QueueNode} (ch : Channel)
    {bundled : List Nat} (hok : NodeOk bundled n) (hm : n.matched = true) :
    ∃ fate allocs, allocs ⊆ ch.mem.dispatch ∧
      (fate = Fate.sent → ch.superBufNotifyCb = true) ∧ (fate = .lost → ¬ ch.mem.EnqOk) ∧
      dispatchSuperbuf mode n ch = some { ch with
        mem.dispatch := allocs
        trace.history := ch.trace.history ++ if fate = .sent then [.dispatched mode] else []
        trace.cbQueue := ch.trace.cbQueue ++ if fate = .sent then [n.toSuperBuf] else []
        trace.lost := ch.trace.lost ++ if fate = .lost then [n.toSuperBuf] else []
        trace.qbufs := ch.trace.qbufs ++ if fate = .back then n.heldBufs else [] } := by
  by_cases hcb : ch.superBufNotifyCb = true
  · have htail : ch.mem.dispatch.tail ⊆ ch.mem.dispatch := (List.tail_sublist _).subset
    by_cases h1 : (ch.mem.dispatch.head?.getD (true, true)).1 = true
    · by_cases h2 : (ch.mem.dispatch.head?.getD (true, true)).2 = true
      · exact ⟨.sent, _, htail, fun _ => hcb, by simp, by simp [dispatchSuperbuf, hcb, h1, h2]⟩
      · refine ⟨.lost, _, htail, by simp, fun _ hok => h2 ?_, by simp [dispatchSuperbuf, hcb, h1, h2]⟩
        cases hd : ch.mem.dispatch with
        | nil => rfl
        | cons a as => exact hok a (hd ▸ List.mem_cons_self ..)
    · refine ⟨.back, _, htail, by simp, by simp, ?_⟩
      simp [dispatchSuperbuf, hcb, h1, hok.map_buf hm, qbufAll_some]
  · refine ⟨.back, ch.mem.dispatch, List.Subset.refl _, by simp, by simp, ?_⟩
    simp [dispatchSuperbuf, hcb, hok.map_buf hm, qbufAll_some]

variable {lossy : Prop} {ch : Channel}

theorem dispatchTurn_path {mode : NotifyMode} {r : Option Channel} (h : Shape ch.queue)
    (hl : ch.mem.EnqOk ∨ lossy) (ht : dispatchTurn mode ch = some r) :
    ∃ ch', r = some ch' ∧ Path lossy ch ch' ∧ ch'.queue.que.length < ch.queue.que.length := by
  by_cases hgo : 0 < ch.pendingCnt ∨ mode = .continuous
  · cases hd : superbufDequeueInternal ch.queue true with
    | mk o q =>
      cases o with
      | none => simp [dispatchTurn, superbufDequeue, hd] at ht
      | some n =>
        obtain ⟨rest, hq, rfl, hm⟩ := superbufDequeueInternal_some h hd
        have hn : n ∈ ch.queue.que := hq ▸ List.mem_cons_self ..
        have hp : mode = .burst → 0 < ch.pendingCnt := by
          rintro rfl
          simpa using hgo
        obtain ⟨called, skip, calls, hcount⟩ :=
          countDown_eq { ch with queue := ch.queue.pop n rest } hp
        obtain ⟨fate, allocs, ha, hsent, hlost, hdisp⟩ := dispatchSuperbuf_eq mode
          (countDown mode { ch with queue := ch.queue.pop n rest }) (h.nodes n hn) (hm rfl)
        simp only [dispatchTurn, hgo, if_true, superbufDequeue, hd, Option.some.injEq] at ht
        rw [hdisp, hcount] at ht
        rw [hcount] at ha hsent hlost
        have hserve : Move lossy ch (ch.serve mode fate n rest allocs) :=
          .serve mode fate hq (hm rfl) hp ha hsent fun hf => hl.resolve_left (hlost hf)
        refine ⟨_, ht.symm, .tail (.single hserve) .control, ?_⟩
        simp [ChannelQueue.pop, hq]
  · simp [dispatchTurn, hgo] at ht

theorem dispatchLoop_ends (mode : NotifyMode) (h : Shape ch.queue) (hl : ch.mem.EnqOk ∨ lossy) :
    Ends lossy ch (dispatchLoop mode ch) := by
  have hstep : ∀ s t : Option Channel, (∃ c, s = some c ∧ Path lossy ch c) →
      (s.bind (dispatchTurn mode)) = some t → (∃ c, t = some c ∧ Path lossy ch c) ∧
        t.elim 0 (·.queue.que.length) < s.elim 0 (·.queue.que.length) := by
    rintro s t ⟨c, rfl, hp⟩ ht
    have hlc : c.mem.EnqOk ∨ lossy := hl.imp (fun ho a ha => ho a (hp.frame.2.2.2.2 ha)) id
    obtain ⟨d, rfl, hd, hlt⟩ := dispatchTurn_path (hp.shape h) hlc ht
    exact ⟨⟨d, rfl, hp.trans hd⟩, hlt⟩
  obtain ⟨t, hrun⟩ := Loop.run_total hstep (s := some ch) ⟨ch, rfl, .refl⟩ (Nat.le_refl _)
  obtain ⟨c, rfl, hp⟩ :=
    Loop.run_invariant (fun s t hs ht => (hstep s t hs ht).1) ⟨ch, rfl, .refl⟩ hrun
  exact ⟨c, by rw [dispatchLoop]; exact congrArg Option.join hrun, hp⟩

theorem reqDataCb_ends (num : Nat) (h : Shape ch.queue) : Ends lossy ch (reqDataCb num ch) := by
  have hskip : Ends lossy _ (superbufSkip
      { ch with pendingCnt := num, trace.history := ch.trace.history ++ [.request num] }) :=
    releaseAbove_ends _ h
  refine .after (.request num) (hskip.map fun c => ?_)
  split
  · exact .control
  · split
    · exact .control
    · exact .control

theorem generalCmd_ends (type : GenericCmdType) (start : Bool) (h : Shape ch.queue) :
    Ends lossy ch (generalCmd type start ch) := by
  have hflush := superbufFlush_ends lossy ch .default h (Or.inl rfl)
  cases type with
  | aeBracketing | afBracketing | mtfBracketing => exact hflush.map fun c => .control
  | flashBracketing | zoom1x => exact .one .control

def Cmd.FlushAll (cmd : Cmd) : Prop := ∀ f t, cmd = .flushQueue f t → t = .default

def Effect (lossy : Prop) (cmd : Cmd) (ch ch' : Channel) : Prop :=
  match cmd with
  | .dataCb b => ∃ mid mid',
      Path lossy { ch with trace.delivered := ch.trace.delivered ++ [b] } mid ∧
        Settle b mid mid' ∧ Path lossy mid' ch'
  | _ => Path lossy ch ch'

theorem afterCmd_ends (h : Shape ch.queue) (hl : ch.mem.EnqOk ∨ lossy) :
    Ends lossy ch ((superbufBufdoneOverflow ch).bind (dispatchLoop ch.queue.attr.notifyMode)) := by
  refine (releaseAbove_ends _ h).bind fun c hp => dispatchLoop_ends _ (hp.shape h) ?_
  exact hl.imp (fun ho a ha => ho a (hp.frame.2.2.2.2 ha)) id

theorem Settle.frame {b : BufDef} {ch' : Channel} (h : Settle b ch ch') :
    ch'.streams = ch.streams ∧ ch'.superBufNotifyCb = ch.superBufNotifyCb ∧
      ch'.trace.delivered = ch.trace.delivered ∧ ch'.trace.notified = ch.trace.notified ∧
      ch'.mem = ch.mem := by
  cases h with
  | single => simp only [countSingle]; split <;> exact ⟨rfl, rfl, rfl, rfl, rfl⟩
  | reject | fill | complete | insert => exact ⟨rfl, rfl, rfl, rfl, rfl⟩

def Cmd.Delivers (bundled : List Nat) (cmd : Cmd) : Prop :=
  ∀ b, cmd = .dataCb b → b.streamId ∈ bundled

theorem processStreamBuf_effect (lossy : Prop) (ch : Channel) (cmd : Cmd) (h : Shape ch.queue)
    (hd : cmd.Delivers ch.queue.bundledStreams) (hf : cmd.FlushAll ∨ lossy)
    (hl : ch.mem.EnqOk ∨ lossy) :
    ((∃ b, cmd = .dataCb b) ∧ processStreamBuf cmd ch = none ∧ snapshotStreamId ch.streams = none) ∨
      ∃ ch', processStreamBuf cmd ch = some ch' ∧ Effect lossy cmd ch ch' := by
  have hmore : ∀ c, Path lossy ch c →
      Ends lossy c ((superbufBufdoneOverflow c).bind (dispatchLoop c.queue.attr.notifyMode)) :=
    fun c hp => afterCmd_ends (hp.shape h) (hl.imp (fun ho a ha => ho a (hp.frame.2.2.2.2 ha)) id)
  cases cmd with
  | dataCb b =>
    have hm := hd b rfl
    rcases superbufCompAndEnqueue_settle lossy
      { ch with trace.delivered := ch.trace.delivered ++ [b] } h hm with ⟨hn, hid⟩ | hs
    · exact Or.inl ⟨⟨b, rfl⟩, by simp [processStreamBuf, runCmd, hn], hid⟩
    · right
      obtain ⟨mid, mid', hrun, hpath, hsettle⟩ := hs
      have hs' : Shape mid'.queue := hsettle.shape (hpath.shape h) (hpath.bundled ▸ hm)
      have hl' : mid'.mem.EnqOk ∨ lossy := hl.imp
        (fun ho a ha => ho a (hpath.frame.2.2.2.2 (hsettle.frame.2.2.2.2 ▸ ha))) id
      obtain ⟨ch', hend, hp⟩ := afterCmd_ends hs' hl'
      exact ⟨ch', by simp only [processStreamBuf, runCmd, hrun]; exact hend, mid, mid', hpath, hsettle, hp⟩
  | reqDataCb num =>
    exact Or.inr ((reqDataCb_ends num h).bind hmore)
  | startZsl => exact Or.inr (Ends.bind (.one .control) hmore)
  | stopZsl => exact Or.inr (Ends.bind (.one .control) hmore)
  | configNotify mode => exact Or.inr (Ends.bind (.one (.config mode)) hmore)
  | flushQueue frameIdx streamType =>
    have hflush := superbufFlush_ends lossy (ch.expect frameIdx) streamType
      (h.congr rfl rfl rfl rfl) (hf.imp (fun hall => hall _ _ rfl) id)
    exact Or.inr (Ends.after (.retarget _ _) (hflush.bind fun c _ => .here))
  | general type start => exact Or.inr ((generalCmd_ends type start h).bind hmore)

def dispatchSuperBuf (ch : Channel) : Channel :=
  match ch.trace.cbQueue with
  | [] => ch
  | sb :: rest => { ch with
      trace.cbQueue := rest
      trace.notified := ch.trace.notified ++ if ch.superBufNotifyCb then [sb] else [] }

inductive Event
  | command (cmd : Cmd) (mem : Mem)
  | callback
  deriving DecidableEq

def Event.delivery : Event → Option BufDef
  | .command (.dataCb b) _ => some b
  | _ => none

def step (ch : Channel) : Event → Option Channel
  | .command cmd mem => processStreamBuf cmd { ch with mem := mem }
  | .callback => some (dispatchSuperBuf ch)

end Wt88047.Superbuf
