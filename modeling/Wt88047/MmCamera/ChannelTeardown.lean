import Wt88047.MmCamera.ChannelDelete

/-! What a deletion leaves of a channel, over every interleaving of the calls on it. -/

namespace Wt88047.Channel

namespace ChannelObj

variable {c : ChannelObj}

theorem launch_notify (h : c.notifyCb = true) :
    c.launch = { c with cbThread := true, cmdThread := true, bundleActive := true } := if_pos h

theorem launch_silent (h : c.notifyCb = false) : c.launch = c := if_neg (Bool.eq_false_iff.mp h)

theorem launch_state : c.launch.state = c.state := by
  cases h : c.notifyCb with
  | true => rw [launch_notify h]
  | false => rw [launch_silent h]

theorem start_zero (c : ChannelObj) : c.start 0 = (0, c.launch) := rfl

theorem start_bundled {rc : Int} (hrc : rc ≠ 0) (h : c.launch.bundleActive = true) :
    c.start rc = (rc, { c.launch with cmdThread := false, cbThread := false,
                                      notifyCb := false, bundleActive := false }) :=
  (if_neg hrc).trans (if_pos h)

theorem start_plain {rc : Int} (hrc : rc ≠ 0) (h : c.launch.bundleActive = false) :
    c.start rc = (rc, c.launch) := (if_neg hrc).trans (if_neg (Bool.eq_false_iff.mp h))

theorem fsmFn_notused (h : c.state = .notused) (evt : Evt) : c.fsmFn evt = (-1, c) := by
  cases c
  cases h
  rfl

theorem fsmFn_stopped (h : c.state = .stopped) (evt : Evt) : c.fsmFn evt = c.fsmFnStopped evt := by
  cases c
  cases h
  rfl

theorem fsmFn_active (h : c.state = .active) (evt : Evt) : c.fsmFn evt = c.fsmFnActive evt := by
  cases c
  cases h
  rfl

theorem fsmFn_paused (h : c.state = .paused) (evt : Evt) : c.fsmFn evt = (0, c) := by
  cases c
  cases h
  rfl

theorem fsmFnStopped_start (rc : Int) : c.fsmFnStopped (.start rc) =
    if (c.start rc).1 = 0 then (0, { (c.start rc).2 with state := .active }) else c.start rc := rfl

theorem start_channelStart (s : Stream.ChannelObj) {c : ChannelObj} (hn : c.notifyCb = s.notifyCb)
    (hb : c.bundleActive = s.bundleActive) {rc : Int}
    (hrc : rc = 0 ↔ (Stream.channelStart s).1 = true) :
    (c.start rc).2.notifyCb = (Stream.channelStart s).2.notifyCb ∧
      (c.start rc).2.bundleActive = (Stream.channelStart s).2.bundleActive := by
  rw [Stream.channelStart] at hrc ⊢
  rcases hl : Stream.startLoop s.toStart with ⟨ok, done, left⟩
  rw [hl] at hrc
  cases ok with
  | true =>
    obtain rfl : rc = 0 := hrc.mpr rfl
    rw [start_zero, ← hn, ← hb]
    cases hc : c.notifyCb with
    | true =>
      rw [launch_notify hc]
      exact ⟨hc, rfl⟩
    | false =>
      rw [launch_silent hc]
      exact ⟨hc, rfl⟩
  | false =>
    have hz : rc ≠ 0 := fun h => Bool.false_ne_true (hrc.mp h)
    rw [← hn, ← hb]
    cases hc : c.notifyCb with
    | true =>
      rw [start_bundled hz (by rw [launch_notify hc])]
      exact ⟨rfl, rfl⟩
    | false =>
      have hl := launch_silent hc
      cases hd : c.bundleActive with
      | true =>
        rw [start_bundled hz (by rw [hl, hd])]
        exact ⟨rfl, rfl⟩
      | false =>
        rw [start_plain hz (by rw [hl, hd]), hl]
        exact ⟨hc, hd⟩

namespace Fits

theorem empty : Fits {} := ⟨nofun, nofun, fun _ => ⟨rfl, rfl⟩, fun _ => rfl⟩

theorem quiet (h : c.Fits) (hs : c.state = .notused) : c.Quiet := by
  have hi := h.idle (by rw [hs]; decide)
  exact ⟨h.unused hs, hi.1, hi.2⟩

theorem start (h : c.Fits) (hs : c.state = .stopped) (rc : Int) :
    (c.start rc).2.state = .stopped ∧ ((c.start rc).1 ≠ 0 → (c.start rc).2.Fits) ∧
      ((c.start rc).2.cmdThread = true ∨ (c.start rc).2.cbThread = true →
        (c.start rc).2.bundleActive = true) := by
  have hstate : c.launch.state = .stopped := launch_state.trans hs
  have hlaunch : c.launch.cmdThread = true ∨ c.launch.cbThread = true → c.launch.bundleActive = true := by
    cases hn : c.notifyCb with
    | true =>
      rw [launch_notify hn]
      exact fun _ => rfl
    | false =>
      rw [launch_silent hn]
      exact h.bundled
  by_cases hz : rc = 0
  · rw [hz, start_zero]
    exact ⟨hstate, fun hne => absurd rfl hne, hlaunch⟩
  · cases hb : c.launch.bundleActive with
    | true =>
      rw [start_bundled hz hb]
      refine ⟨hstate, fun _ => ⟨?_, ?_, fun _ => ⟨rfl, rfl⟩, ?_⟩, ?_⟩
      · exact fun hp => nomatch hstate.symm.trans hp
      · rintro (ht | ht) <;> cases ht
      · exact fun hu => nomatch hstate.symm.trans hu
      · rintro (ht | ht) <;> cases ht
    | false =>
      -- nothing was launched
      have hn : c.notifyCb = false := by
        by_contra hne
        rw [launch_notify (Bool.of_not_eq_false hne)] at hb
        cases hb
      rw [start_plain hz hb]
      refine ⟨hstate, fun _ => ?_, hlaunch⟩
      rw [launch_silent hn]
      exact h

theorem stop (h : c.Fits) :
    c.stop.cmdThread = false ∧ c.stop.cbThread = false := by
  rw [ChannelObj.stop]
  cases ha : c.bundleActive with
  | true => exact ⟨rfl, rfl⟩
  | false =>
    have hb := h.bundled
    rw [ha] at hb
    exact ⟨Bool.eq_false_iff.mpr fun hc => (nomatch hb (Or.inl hc)),
      Bool.eq_false_iff.mpr fun hc => (nomatch hb (Or.inr hc))⟩

theorem fsmFn (h : c.Fits) (evt : Evt) : (c.fsmFn evt).2.Fits := by
  cases hs : c.state with
  | notused =>
    rw [fsmFn_notused hs]
    exact h
  | paused => exact absurd hs h.notPaused
  | active =>
    rw [fsmFn_active hs]
    cases evt with
    | stop =>
      obtain ⟨hc, hb⟩ := h.stop
      refine ⟨nofun, fun ht => ?_, fun _ => ⟨hc, hb⟩, nofun⟩
      rcases ht with ht | ht
      · exact nomatch hc.symm.trans ht
      · exact nomatch hb.symm.trans ht
    | start rc => exact h
    | delete => exact h
    | other rc => exact h
  | stopped =>
    obtain ⟨hc, hb⟩ := h.idle (by rw [hs]; decide)
    rw [fsmFn_stopped hs]
    cases evt with
    | start rc =>
      obtain ⟨hst, hfail, hbun⟩ := h.start hs rc
      rw [fsmFnStopped_start]
      split
      · exact ⟨nofun, hbun, fun hn => absurd rfl hn, nofun⟩
      · next hz => exact hfail hz
    | delete => exact ⟨nofun, h.bundled, fun _ => ⟨hc, hb⟩, fun _ => rfl⟩
    | stop => exact h
    | other rc => exact h

end Fits

theorem fsmFn_delete (h : c.Fits) (hs : c.state ≠ .active) :
    (c.fsmFn .delete).2.state = .notused ∧
      (c.state = .notused → c.fsmFn .delete = (-1, c)) ∧
      (c.state ≠ .notused → (c.fsmFn .delete).1 = 0) := by
  cases hc : c.state with
  | notused =>
    rw [fsmFn_notused hc]
    exact ⟨hc, fun _ => rfl, fun hne => absurd rfl hne⟩
  | stopped =>
    rw [fsmFn_stopped hc]
    exact ⟨rfl, nofun, fun _ => rfl⟩
  | active => exact absurd hc hs
  | paused => exact absurd hc h.notPaused

theorem fsmFn_state (h : c.Fits) {evt : Evt} (he : evt ≠ .delete)
    (hs : (c.fsmFn evt).2.state = .notused) : c.fsmFn evt = (-1, c) := by
  cases hc : c.state with
  | notused => exact fsmFn_notused hc evt
  | paused => exact absurd hc h.notPaused
  | active =>
    rw [fsmFn_active hc] at hs
    cases evt with
    | delete => exact absurd rfl he
    | stop => cases hs
    | start rc => exact nomatch hc.symm.trans hs
    | other rc => exact nomatch hc.symm.trans hs
  | stopped =>
    rw [fsmFn_stopped hc] at hs
    cases evt with
    | delete => exact absurd rfl he
    | stop => exact nomatch hc.symm.trans hs
    | other rc => exact nomatch hc.symm.trans hs
    | start rc =>
      have hst := (h.start hc rc).1
      rw [fsmFnStopped_start] at hs
      split at hs
      · cases hs
      · exact nomatch hst.symm.trans hs

theorem fsmFn_delete_failed (h : (c.fsmFn .delete).1 ≠ 0) : (c.fsmFn .delete).2 = c := by
  cases hc : c.state with
  | notused => rw [fsmFn_notused hc]
  | stopped =>
    rw [fsmFn_stopped hc] at h
    exact absurd rfl h
  | active => rw [fsmFn_active hc]; rfl
  | paused => rw [fsmFn_paused hc]

end ChannelObj

/-- The calls in progress are current; a slot out of use is empty or a deletion is still to clear
it, and a deletion that is still to clear its slot has taken the channel out of use. -/
structure DeleteInv (w : World) : Prop where
  current : ∀ c ∈ w.calls, c.gen = w.gen c.slot
  fits : ∀ i, (w.ch i).Fits
  empty : ∀ i, (w.ch i).state = .notused → w.ch i = {} ∨ ∃ c, (c, 0) ∈ w.clearing ∧ c.slot = i
  deleted : ∀ p ∈ w.clearing, (w.ch p.1.slot).state = .notused

theorem World.mem_calls {w : World} {c : Call} :
    c ∈ w.calls ↔ w.waiter = some c ∨ c ∈ w.running ∨ ∃ rc, (c, rc) ∈ w.clearing := by
  show c ∈ w.waiter.toList ++ w.running ++ w.clearing.map Prod.fst ↔ _
  rw [List.mem_append, List.mem_append, Option.mem_toList, or_assoc, List.mem_map]
  refine or_congr_right (or_congr_right ⟨?_, fun ⟨rc, h⟩ => ⟨(c, rc), h, rfl⟩⟩)
  rintro ⟨⟨d, rc⟩, h, rfl⟩
  exact ⟨rc, h⟩

namespace DeleteInv

variable {w : World}

theorem init : DeleteInv {} :=
  ⟨(fun _ hc => nomatch hc), fun _ => .empty, fun _ _ => .inl rfl, (fun _ hp => nomatch hp)⟩

theorem frame (h : DeleteInv w) {w' : World} (hch : w'.ch = w.ch) (hgen : w'.gen = w.gen)
    (hclear : w'.clearing = w.clearing)
    (hcalls : ∀ c ∈ w'.calls, c ∈ w.calls ∨ c.gen = w.gen c.slot) : DeleteInv w' := by
  refine ⟨fun c hc => ?_, by rw [hch]; exact h.fits, by rw [hch, hclear]; exact h.empty,
    by rw [hch, hclear]; exact h.deleted⟩
  rw [hgen]
  rcases hcalls c hc with hold | hnew
  · exact h.current c hold
  · exact hnew

theorem addChannel (h : DeleteInv w) {notify : Bool} (ha : Alone w (.addChannel notify)) :
    DeleteInv (w.addChannel notify) := by
  unfold World.addChannel
  cases hf : w.freeSlot with
  | none => exact h
  | some i =>
    have hused : ∀ p ∈ w.clearing, p.1.slot ≠ i := ha i hf
    refine ⟨h.current, fun j => ?_, fun j hj => ?_, fun p hp => ?_⟩
    · show (if j = i then _ else w.ch j : ChannelObj).Fits
      split
      · exact ⟨nofun, by simp, fun _ => ⟨rfl, rfl⟩, nofun⟩
      · exact h.fits j
    · change (if j = i then _ else w.ch j : ChannelObj).state = .notused at hj
      show (if j = i then _ else w.ch j : ChannelObj) = {} ∨ _
      split at hj
      · cases hj
      · next hne =>
        rw [if_neg hne]
        exact h.empty j hj
    · show (if p.1.slot = i then _ else w.ch p.1.slot : ChannelObj).state = .notused
      rw [if_neg (hused p hp)]
      exact h.deleted p hp

theorem obtain (h : DeleteInv w) (handler : Nat) (op : Op) :
    DeleteInv (w.obtain handler op) := by
  unfold World.obtain
  cases w.getChannelByHandler handler with
  | none => exact h
  | some i =>
    cases op with
    | qbuf =>
      refine h.frame rfl rfl rfl fun c hc => ?_
      rcases World.mem_calls.mp hc with hc | hc | hc
      · exact .inl (World.mem_calls.mpr (.inl hc))
      · rcases List.mem_cons.mp hc with rfl | hc
        · exact .inr rfl
        · exact .inl (World.mem_calls.mpr (.inr (.inl hc)))
      · exact .inl (World.mem_calls.mpr (.inr (.inr hc)))
    | event evt =>
      dsimp only
      split
      · refine h.frame rfl rfl rfl fun c hc => ?_
        rcases World.mem_calls.mp hc with hc | hc
        · obtain rfl := Option.some.inj hc
          exact .inr rfl
        · exact .inl (World.mem_calls.mpr (.inr hc))
      · refine h.frame rfl rfl rfl fun c hc => ?_
        rcases World.mem_calls.mp hc with hc | hc | hc
        · exact .inl (World.mem_calls.mpr (.inl hc))
        · rcases List.mem_cons.mp hc with rfl | hc
          · exact .inr rfl
          · exact .inl (World.mem_calls.mpr (.inr (.inl hc)))
        · exact .inl (World.mem_calls.mpr (.inr (.inr hc)))

theorem acquire (h : DeleteInv w) {c : Call} (hc : w.waiter = some c) : DeleteInv (w.acquire c) := by
  refine h.frame rfl rfl rfl fun d hd => .inl (World.mem_calls.mpr ?_)
  rcases World.mem_calls.mp hd with hd | hd | hd
  · cases hd
  · rcases List.mem_cons.mp hd with rfl | hd
    · exact .inl hc
    · exact .inr (.inl hd)
  · exact .inr (.inr hd)

theorem exec_of_event (w : World) {c : Call} {evt : Evt} (ho : c.op = .event evt) : w.exec c =
    { (w.setCh c.slot ((w.ch c.slot).fsmFn evt).2).setLock c.slot false with
      running := w.running.erase c
      clearing := if evt = .delete then (c, ((w.ch c.slot).fsmFn evt).1) :: w.clearing
        else w.clearing } := by
  rw [World.exec, ho]

theorem exec_event (h : DeleteInv w) {c : Call} {evt : Evt} (ho : c.op = .event evt)
    (hc : c ∈ w.running) (ha : evt = .delete → (w.ch c.slot).state ≠ .active) :
    DeleteInv (w.exec c) := by
  have hexec := exec_of_event w ho
  have hclearing : (w.exec c).clearing =
      if evt = .delete then (c, ((w.ch c.slot).fsmFn evt).1) :: w.clearing else w.clearing := by
    rw [hexec]
  have hgrow : ∀ p ∈ w.clearing, p ∈ (w.exec c).clearing := fun p hp => by
    rw [hclearing]
    split
    · exact List.mem_cons_of_mem _ hp
    · exact hp
  have hnew : ∀ p ∈ (w.exec c).clearing, p ∈ w.clearing ∨
      evt = .delete ∧ p = (c, ((w.ch c.slot).fsmFn .delete).1) := fun p hp => by
    rw [hclearing] at hp
    split at hp
    · next he =>
      subst he
      rcases List.mem_cons.mp hp with rfl | hp
      · exact .inr ⟨rfl, rfl⟩
      · exact .inl hp
    · exact .inl hp
  have hmade : evt = .delete → (c, ((w.ch c.slot).fsmFn .delete).1) ∈ (w.exec c).clearing :=
    fun he => by
      rw [hclearing, if_pos he, he]
      exact List.mem_cons_self ..
  have hch : ∀ j, (w.exec c).ch j = if j = c.slot then ((w.ch c.slot).fsmFn evt).2 else w.ch j :=
    fun j => by
      rw [hexec]
      rfl
  have hgen : (w.exec c).gen = w.gen := by
    rw [hexec]
    rfl
  have hcalls : ∀ d ∈ (w.exec c).calls, d ∈ w.calls := fun d hd => by
    apply World.mem_calls.mpr
    rcases World.mem_calls.mp hd with hd | hd | ⟨rc, hd⟩
    · rw [hexec] at hd
      exact .inl hd
    · rw [hexec] at hd
      exact .inr (.inl (List.mem_of_mem_erase hd))
    · rcases hnew _ hd with hd | ⟨-, hd⟩
      · exact .inr (.inr ⟨rc, hd⟩)
      · obtain rfl := congrArg Prod.fst hd
        exact .inr (.inl hc)
  refine ⟨fun d hd => ?_, fun j => ?_, fun j hj => ?_, fun p hp => ?_⟩
  · rw [hgen]
    exact h.current d (hcalls d hd)
  · rw [hch]
    split
    · exact (h.fits _).fsmFn evt
    · exact h.fits j
  · have hold : ∀ i, (w.ch i).state = .notused → w.ch i = {} ∨
        ∃ d, (d, 0) ∈ (w.exec c).clearing ∧ d.slot = i := fun i hi => by
      rcases h.empty i hi with he | ⟨d, hd, hs⟩
      · exact .inl he
      · exact .inr ⟨d, hgrow _ hd, hs⟩
    rw [hch] at hj ⊢
    split at hj
    · next hjs =>
      subst hjs
      rw [if_pos rfl]
      by_cases he : evt = .delete
      · subst he
        obtain ⟨-, hnot, hyes⟩ := ChannelObj.fsmFn_delete (h.fits c.slot) (ha rfl)
        by_cases hst : (w.ch c.slot).state = .notused
        · rw [hnot hst]
          exact hold _ hst
        · have hm := hmade rfl
          rw [hyes hst] at hm
          exact .inr ⟨c, hm, rfl⟩
      · have hsame := ChannelObj.fsmFn_state (h.fits c.slot) he hj
        rw [hsame] at hj ⊢
        exact hold _ hj
    · next hjs =>
      rw [if_neg hjs]
      exact hold j hj
  · rw [hch]
    rcases hnew p hp with hp | ⟨rfl, rfl⟩
    · have hst := h.deleted p hp
      split
      · next hs =>
        rw [hs] at hst
        rw [ChannelObj.fsmFn_notused hst]
        exact hst
      · exact hst
    · rw [if_pos rfl]
      exact (ChannelObj.fsmFn_delete (h.fits c.slot) (ha rfl)).1

theorem exec (h : DeleteInv w) {c : Call} (hc : c ∈ w.running) (ha : Alone w (.exec c)) :
    DeleteInv (w.exec c) := by
  cases ho : c.op with
  | qbuf =>
    have he : w.exec c = { w with running := w.running.erase c } := by rw [World.exec, ho]
    rw [he]
    refine h.frame rfl rfl rfl fun d hd => .inl (World.mem_calls.mpr ?_)
    rcases World.mem_calls.mp hd with hd | hd | hd
    · exact .inl hd
    · exact .inr (.inl (List.mem_of_mem_erase hd))
    · exact .inr (.inr hd)
  | event evt =>
    exact h.exec_event ho hc fun he => ha (by rw [ho, he])

theorem clear (h : DeleteInv w) {c : Call} {rc : Int} (ha : Alone w (.clear c rc)) :
    DeleteInv (w.clear c rc) := by
  obtain ⟨hwait, hrun, hclear⟩ := ha
  have hother : ∀ d ∈ (w.clear c rc).calls, d ∈ w.calls ∧ d.slot ≠ c.slot := fun d hd => by
    rcases World.mem_calls.mp hd with hd | hd | ⟨r, hd⟩
    · exact ⟨World.mem_calls.mpr (.inl hd), hwait d hd⟩
    · exact ⟨World.mem_calls.mpr (.inr (.inl hd)), hrun d hd⟩
    · exact ⟨World.mem_calls.mpr (.inr (.inr ⟨r, List.mem_of_mem_erase hd⟩)), hclear _ hd⟩
  refine ⟨fun d hd => ?_, fun j => ?_, fun j hj => ?_, fun p hp => ?_⟩
  · obtain ⟨hd, hs⟩ := hother d hd
    show d.gen = if d.slot = c.slot then _ else w.gen d.slot
    rw [if_neg hs]
    exact h.current d hd
  · show (if j = c.slot then {} else w.ch j : ChannelObj).Fits
    split
    · exact .empty
    · exact h.fits j
  · change (if j = c.slot then {} else w.ch j : ChannelObj).state = .notused at hj
    show (if j = c.slot then {} else w.ch j : ChannelObj) = {} ∨ _
    split at hj
    · next hjs => exact .inl (if_pos hjs)
    · next hjs =>
      rw [if_neg hjs]
      rcases h.empty j hj with he | ⟨d, hd, hs⟩
      · exact .inl he
      · have hne : (d, (0 : Int)) ≠ (c, rc) := fun he => hjs (by rw [← hs, (Prod.mk.inj he).1])
        exact .inr ⟨d, (List.mem_erase_of_ne hne).mpr hd, hs⟩
  · show (if p.1.slot = c.slot then {} else w.ch p.1.slot : ChannelObj).state = .notused
    rw [if_neg (hclear p hp)]
    exact h.deleted p (List.mem_of_mem_erase hp)

theorem step (h : DeleteInv w) {e : Event} {w' : World} (ha : Alone w e)
    (hs : Channel.step w e = some w') : DeleteInv w' := by
  cases e with
  | addChannel notify =>
    obtain ⟨-, ⟨⟩⟩ := Option.ite_none_right_eq_some.mp hs
    exact h.addChannel ha
  | obtain handler op =>
    obtain ⟨-, ⟨⟩⟩ := Option.ite_none_right_eq_some.mp hs
    exact h.obtain handler op
  | acquire =>
    obtain ⟨c, hc, hs⟩ := Option.bind_eq_some_iff.mp hs
    obtain ⟨-, ⟨⟩⟩ := Option.ite_none_left_eq_some.mp hs
    exact h.acquire hc
  | exec c =>
    obtain ⟨hc, ⟨⟩⟩ := Option.ite_none_right_eq_some.mp hs
    exact h.exec hc ha
  | clear c rc =>
    obtain ⟨-, ⟨⟩⟩ := Option.ite_none_right_eq_some.mp hs
    exact h.clear ha

theorem proper (h : DeleteInv w) {e : Event} (ha : Alone w e) : Proper w e := by
  cases e with
  | addChannel notify => trivial
  | obtain handler op => trivial
  | acquire => trivial
  | exec c =>
    intro hc
    refine ⟨h.current c (World.mem_calls.mpr (.inr (.inl hc))), fun ho hf => ?_⟩
    rw [exec_of_event w ho]
    show (if c.slot = c.slot then _ else _ : ChannelObj) = _
    rw [if_pos rfl]
    exact ChannelObj.fsmFn_delete_failed hf
  | clear c rc =>
    intro hc
    have hst := h.deleted _ hc
    have hself : (w.clear c rc).ch c.slot = {} := if_pos rfl
    refine ⟨h.current c (World.mem_calls.mpr (.inr (.inr ⟨rc, hc⟩))),
      fun _ => ⟨(h.fits _).quiet hst, by rw [hself]⟩, fun hrc => ?_⟩
    rw [hself]
    rcases h.empty _ hst with he | ⟨d, hd, hs⟩
    · exact he.symm
    · have hne : (d, (0 : Int)) ≠ (c, rc) := fun he => hrc (Prod.mk.inj he).2.symm
      exact absurd hs (ha.2.2 _ ((List.mem_erase_of_ne hne).mpr hd))

end DeleteInv

/-- Deletions that run alone are all or nothing, and no call runs on a channel that was cleared since
the call found it. -/
theorem delChannel_proper {es : List Event} (h : Runs.Along step Alone {} es) :
    Runs.Along step Proper {} es :=
  Runs.Along.of_invariant (fun _ _ _ (hw : DeleteInv _) ha hs => hw.step ha hs)
    (fun _ _ hw ha => hw.proper ha) DeleteInv.init h

/-- A channel is added, started, stopped and deleted. -/
theorem delChannel_proper_once :
    Runs.Along step Proper {}
      [.addChannel true, .obtain 256 (.event (.start 0)), .exec ⟨0, 0, .event (.start 0)⟩,
        .obtain 256 (.event .stop), .exec ⟨0, 0, .event .stop⟩, .obtain 256 (.event .delete),
        .exec ⟨0, 0, .event .delete⟩, .clear ⟨0, 0, .event .delete⟩ 0] :=
  delChannel_proper (by decide)

/-- Deleting an active channel answers 0 and erases the slot with all threads running. -/
theorem delChannel_active :
    ¬ ∀ es : List Event, Runs.Along step Proper {} es := by
  intro h
  have hs := h [.addChannel true, .obtain 256 (.event (.start 0)), .exec ⟨0, 0, .event (.start 0)⟩,
    .obtain 256 (.event .delete), .exec ⟨0, 0, .event .delete⟩,
    .clear ⟨0, 0, .event .delete⟩ 0]
  have ht := Runs.along_iff_splits.mp hs [.addChannel true, .obtain 256 (.event (.start 0)),
    .exec ⟨0, 0, .event (.start 0)⟩, .obtain 256 (.event .delete), .exec ⟨0, 0, .event .delete⟩] _
    [] rfl _ rfl (by decide)
  exact absurd (ht.2.1 rfl).1 (by decide)

example : ¬ Runs.Along step Proper {} [.addChannel false, .obtain 256 (.event .delete),
    .obtain 256 (.event (.other 0)), .exec ⟨0, 0, .event .delete⟩, .clear ⟨0, 0, .event .delete⟩ 0,
    .acquire, .exec ⟨0, 0, .event (.other 0)⟩] := by
  intro h
  have ht := Runs.along_iff_splits.mp h [.addChannel false, .obtain 256 (.event .delete),
    .obtain 256 (.event (.other 0)), .exec ⟨0, 0, .event .delete⟩, .clear ⟨0, 0, .event .delete⟩ 0,
    .acquire] _ [] rfl _ rfl (by decide)
  exact absurd ht.1 (by decide)

end Wt88047.Channel
