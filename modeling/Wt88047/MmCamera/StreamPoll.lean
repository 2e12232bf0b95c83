import Wt88047.MmCamera.StreamRegister

/-! Polling over the life of a channel's streams: registering, starting, stopping and
unregistering their buffers while other threads still give buffers back. -/

namespace Wt88047.Stream

open StreamObj

variable (ok : Bool)

theorem deinitBufs_same (s : StreamObj) : SameQueue s (s.deinitBufs ok).2 := by
  simp only [deinitBufs]
  split <;> exact ⟨rfl, rfl, rfl, rfl⟩

variable (r : InitBufsRc)

theorem initBufs_same (s : StreamObj) : SameQueue s (s.initBufs r).2 := by
  obtain ⟨h1, h2, h3, h4⟩ := deinitBufs_same true s
  simp only [initBufs]
  split
  · split <;> exact ⟨h1, h2, h3, h4⟩
  · exact ⟨h1, h2, h3, h4⟩

theorem initBufs_state (s : StreamObj) : (s.initBufs r).2.state = s.state := by
  simp only [initBufs, deinitBufs]
  repeat' split
  all_goals rfl

structure PollInv (s : StreamObj) : Prop where
  matched : s.state = .reg ∨ s.state = .active → Queued s
  closed : s.ctl = .unregistered ∨ s.ctl = .released →
    s.pollFd = false ∧ s.queuedBufferCount = 0
  counted : s.poll.uncounted ≠ 0 → s.state = .active ∨ (s.state = .reg ∧ s.ctl = .stopped)
  stopping : ¬ s.atRest → s.state = .active
  stopped : s.ctl = .stopped → s.state = .reg
  ended : (s.ctl = .unregistered → s.state = .buffed) ∧ (s.ctl = .released → s.state = .cfg)

theorem fresh_pollInv (p : Bool) : PollInv (fresh p) where
  matched := fun h => by simp [fresh] at h
  closed := fun h => by simp [fresh] at h
  counted := fun h => by simp [fresh, PollPc.uncounted] at h
  stopping := fun h => absurd (Or.inl rfl) h
  stopped := fun h => by simp [fresh] at h
  ended := ⟨fun h => by simp [fresh] at h, fun h => by simp [fresh] at h⟩

def PollSafe (s : StreamObj) : Event → Prop
  | .control .stopPoll => s.state = .active → s.queuedBufferCount = 0
  | .control (.streamOff ok) => ok = true → s.kernel = []
  | .control (.start ok) => s.state = .reg ∧ ok = false → s.queuedBufferCount = 0
  | .control (.unregBuf _) => s.ctl = .stopped → s.queuedBufferCount = 0
  | .control (.regBuf _) =>
    s.state = .buffed → s.pollFd = false ∨ ∃ i < s.bufNum, s.flag i = true
  | .control _ => True
  | e => s.ctl = .unregistered ∨ s.ctl = .released → lastRelease s e = none

variable {s : StreamObj}

theorem step_pollInv {t : StreamObj} {e : Event} (h : PollInv s) (he : e.isControl = false)
    (hsafe : s.ctl = .unregistered ∨ s.ctl = .released → lastRelease s e = none)
    (ht : step s e = some t) : PollInv t := by
  have hf := step_frame he ht
  have hrest : t.atRest ↔ s.atRest := by rw [atRest, atRest, hf.ctl]
  refine ⟨?_, ?_, ?_, ?_, ?_, ?_⟩
  · rw [hf.state]
    exact fun hs => step_queued (h.matched hs) he ht
  · rw [hf.ctl]
    intro hc
    have hstate : s.state = .buffed ∨ s.state = .cfg := hc.imp h.ended.1 h.ended.2
    have hd : ∀ o, e ≠ .dqbuf o := by
      rintro o rfl
      have ha := (dqbuf_some ht).2.1
      rw [ha] at hstate
      simp at hstate
    have hu : s.poll.uncounted = 0 := by
      by_contra hne
      obtain ha | ⟨ha, -⟩ := h.counted hne <;> rw [ha] at hstate <;> simp at hstate
    have hsame := step_same he hd hu (hsafe hc) ht
    rw [hsame.pollFd, hsame.count]
    exact h.closed hc
  · rw [hf.state, hf.ctl]
    intro hu
    obtain ha | hne := step_uncounted he ht hu
    · exact Or.inl ha
    · exact h.counted hne
  · rw [hrest, hf.state]
    exact h.stopping
  · rw [hf.ctl, hf.state]
    exact h.stopped
  · rw [hf.ctl, hf.state]
    exact h.ended

theorem PollInv.away {t : StreamObj} (hs : t.state ≠ .reg ∧ t.state ≠ .active)
    (hu : t.poll.uncounted = 0)
    (hc : t.ctl = .free ∨ (t.pollFd = false ∧ t.queuedBufferCount = 0) ∧
      (t.ctl = .unregistered ∧ t.state = .buffed ∨ t.ctl = .released ∧ t.state = .cfg)) :
    PollInv t where
  matched := fun h => absurd h (by simp [hs])
  closed := fun h => by
    obtain hf | ⟨hq, -⟩ := hc
    · simp [hf] at h
    · exact hq
  counted := fun h => absurd hu h
  stopping := fun h => by
    refine absurd ?_ h
    obtain hf | ⟨-, ⟨hf, -⟩ | ⟨hf, -⟩⟩ := hc <;> simp [atRest, hf]
  stopped := fun h => by
    obtain hf | ⟨-, ⟨hf, -⟩ | ⟨hf, -⟩⟩ := hc <;> simp [hf] at h
  ended := by
    obtain hf | ⟨-, ⟨hf, hb⟩ | ⟨hf, hb⟩⟩ := hc <;> simp [hf] <;> exact hb

theorem PollInv.within {t : StreamObj} (hq : Queued t)
    (hs : t.state = .reg ∧ (t.ctl = .stopped ∨ t.ctl = .free ∧ t.poll.uncounted = 0) ∨
      t.state = .active ∧ t.ctl ≠ .stopped ∧ t.ctl ≠ .unregistered ∧ t.ctl ≠ .released) :
    PollInv t where
  matched := fun _ => hq
  closed := fun h => by
    obtain ⟨-, hc | ⟨hc, -⟩⟩ | ⟨-, hc⟩ := hs <;> simp [hc] at h
  counted := fun h => by
    obtain ⟨hr, hc | ⟨-, hc⟩⟩ | ⟨ha, -⟩ := hs
    · exact Or.inr ⟨hr, hc⟩
    · exact absurd hc h
    · exact Or.inl ha
  stopping := fun h => by
    obtain ⟨-, hc | ⟨hc, -⟩⟩ | ⟨ha, -⟩ := hs
    · exact absurd (by simp [atRest, hc]) h
    · exact absurd (by simp [atRest, hc]) h
    · exact ha
  stopped := fun h => by
    obtain ⟨hr, -⟩ | ⟨-, hc, -⟩ := hs
    · exact hr
    · exact absurd h hc
  ended := by
    obtain ⟨-, hc | ⟨hc, -⟩⟩ | ⟨-, hc⟩ := hs <;> simp [hc]

theorem PollInv.uncounted (h : PollInv s) (ha : s.state ≠ .active)
    (hr : s.state = .reg → s.ctl ≠ .stopped) : s.poll.uncounted = 0 := by
  by_contra hne
  obtain hs | ⟨hs, hc⟩ := h.counted hne
  · exact ha hs
  · exact hr hs hc

theorem Queued.empty (h : Queued s) (h0 : s.queuedBufferCount = 0) :
    s.pollFd = false ∧ s.poll.uncounted = 0 := by
  have hc := h.count
  refine ⟨?_, by omega⟩
  by_contra hp
  have hpos := h.polled.mp (by simpa using hp)
  omega

theorem onRegBuf_pollInv {r : RegBufRc} (h : PollInv s)
    (hsafe : s.state = .buffed → s.pollFd = false ∨ ∃ i < s.bufNum, s.flag i = true) :
    PollInv (s.onRegBuf r).2 := by
  by_cases hs : s.state = .buffed
  · have hu : s.poll.uncounted = 0 := h.uncounted (by simp [hs]) (by simp [hs])
    obtain ⟨hpoll, hstate⟩ := regBuf_keeps r s
    simp only [onRegBuf, hs, if_true]
    cases hr : s.regBuf r with
    | mk rc t =>
      rw [hr] at hpoll hstate
      have hut : t.poll.uncounted = 0 := by rw [hpoll]; exact hu
      cases rc with
      | true =>
        have hq := regBuf_queued hu (hsafe hs) hr
        exact .within (hq.congr ⟨rfl, rfl, rfl, rfl⟩) (Or.inl ⟨rfl, Or.inr ⟨rfl, hut⟩⟩)
      | false =>
        have hb : t.state = .buffed := hstate.trans hs
        exact .away ⟨by simp [hb], by simp [hb]⟩ hut (Or.inl rfl)
  · simpa [onRegBuf, hs, ignore] using h

theorem onUnregBuf_pollInv (h : PollInv s) (hsafe : s.ctl = .stopped → s.queuedBufferCount = 0) :
    PollInv (s.onUnregBuf ok).2 := by
  by_cases hs : s.state = .reg
  · have hq := h.matched (Or.inl hs)
    have hpoll : (s.unregBuf ok).2.poll = s.poll := by cases ok <;> rfl
    have hfd : (s.unregBuf ok).2.pollFd = s.pollFd := by cases ok <;> rfl
    have hcount : (s.unregBuf ok).2.queuedBufferCount = s.queuedBufferCount := by cases ok <;> rfl
    simp only [onUnregBuf, hs, if_true]
    by_cases hc : s.ctl = .stopped
    · obtain ⟨hp, hu⟩ := hq.empty (hsafe hc)
      refine .away ⟨by simp, by simp⟩ ?_ (Or.inr ⟨⟨?_, ?_⟩, Or.inl ⟨by simp [hc], rfl⟩⟩)
      · show (s.unregBuf ok).2.poll.uncounted = 0
        rw [hpoll]
        exact hu
      · exact hfd.trans hp
      · exact hcount.trans (hsafe hc)
    · refine .away ⟨by simp, by simp⟩ ?_ (Or.inl (by simp [hc]))
      show (s.unregBuf ok).2.poll.uncounted = 0
      rw [hpoll]
      exact h.uncounted (by simp [hs]) (fun _ => hc)
  · simpa [onUnregBuf, hs, ignore] using h

theorem onPutBuf_pollInv (h : PollInv s) : PollInv (s.onPutBuf ok).2 := by
  by_cases hs : s.state = .buffed
  · obtain ⟨-, hcount, hfd, hu⟩ := deinitBufs_same ok s
    have hu0 : s.poll.uncounted = 0 := h.uncounted (by simp [hs]) (by simp [hs])
    simp only [onPutBuf, hs, if_true]
    refine .away ⟨by simp, by simp⟩ (hu.trans hu0) ?_
    by_cases hc : s.ctl = .unregistered
    · obtain ⟨hp, h0⟩ := h.closed (Or.inl hc)
      exact Or.inr ⟨⟨hfd.trans hp, hcount.trans h0⟩, Or.inr ⟨by simp [hc], rfl⟩⟩
    · exact Or.inl (by simp [hc])
  · simpa [onPutBuf, hs, ignore] using h

theorem onGetBuf_pollInv (h : PollInv s) : PollInv (s.onGetBuf r).2 := by
  by_cases hs : s.state = .cfg
  · have hu := (initBufs_same r s).uncounted
    have hu0 : s.poll.uncounted = 0 := h.uncounted (by simp [hs]) (by simp [hs])
    have hstate := initBufs_state r s
    simp only [onGetBuf, hs, if_true]
    cases hr : s.initBufs r with
    | mk rc t =>
      rw [hr] at hu hstate
      cases rc with
      | true => exact .away ⟨by simp, by simp⟩ (hu.trans hu0) (Or.inl rfl)
      | false =>
        have hcfg : t.state = .cfg := hstate.trans hs
        exact .away ⟨by simp [hcfg], by simp [hcfg]⟩ (hu.trans hu0) (Or.inl rfl)
  · simpa [onGetBuf, hs, ignore] using h

theorem onSetFmt_pollInv {n : Nat} {cb ok : Bool} (h : PollInv s) (hrest : s.atRest) :
    PollInv (s.onSetFmt n cb ok).2 := by
  by_cases hs : s.state = .acquired ∨ s.state = .cfg
  · have hu : s.poll.uncounted = 0 := by
      apply h.uncounted
      · rintro ha
        simp [ha] at hs
      · intro hr
        simp [hr] at hs
    simp only [onSetFmt, hs, if_true]
    refine .away ⟨by simp, by simp⟩ hu ?_
    obtain hc | hc | hc | hc := hrest
    · exact Or.inl hc
    · have hr := h.stopped hc
      simp [hr] at hs
    · have hb := h.ended.1 hc
      simp [hb] at hs
    · exact Or.inr ⟨h.closed (Or.inr hc), Or.inr ⟨hc, rfl⟩⟩
  · simpa [onSetFmt, hs, ignore] using h

theorem onStart_pollInv (h : PollInv s)
    (hsafe : s.state = .reg ∧ ok = false → s.queuedBufferCount = 0) : PollInv (s.onStart ok).2 := by
  by_cases hs : s.state = .reg
  · have hq := h.matched (Or.inl hs)
    simp only [onStart, hs, if_true]
    cases ok with
    | true => exact .within (hq.congr ⟨rfl, rfl, rfl, rfl⟩) (Or.inr ⟨rfl, by simp⟩)
    | false =>
      have h0 := hsafe ⟨hs, rfl⟩
      obtain ⟨hp, hu⟩ := hq.empty h0
      exact .within (hq.congr ⟨rfl, rfl, hp.symm, rfl⟩) (Or.inl ⟨hs, Or.inr ⟨rfl, hu⟩⟩)
  · simpa [onStart, hs, ignore] using h

theorem control_pollInv {t : StreamObj} {c : Control} (h : PollInv s)
    (hsafe : PollSafe s (.control c)) (ht : c.run s = some t) : PollInv t := by
  have hactive : ¬ s.atRest → Queued s := fun hn => h.matched (Or.inr (h.stopping hn))
  cases c with
  | setBundled =>
    simp only [Control.run, Option.ite_none_right_eq_some, Option.some.injEq] at ht
    obtain ⟨-, rfl⟩ := ht
    exact ⟨fun hs => (h.matched hs).congr ⟨rfl, rfl, rfl, rfl⟩, h.closed, h.counted, h.stopping,
      h.stopped, h.ended⟩
  | setFmt n cb ok =>
    simp only [Control.run, Option.ite_none_right_eq_some, Option.some.injEq] at ht
    obtain ⟨⟨hrest, -⟩, rfl⟩ := ht
    exact onSetFmt_pollInv h hrest
  | getBuf r =>
    simp only [Control.run, Option.ite_none_right_eq_some, Option.some.injEq] at ht
    obtain ⟨-, rfl⟩ := ht
    exact onGetBuf_pollInv r h
  | regBuf r =>
    simp only [Control.run, Option.ite_none_right_eq_some, Option.some.injEq] at ht
    obtain ⟨-, rfl⟩ := ht
    exact onRegBuf_pollInv h hsafe
  | start ok =>
    simp only [Control.run, Option.ite_none_right_eq_some, Option.some.injEq] at ht
    obtain ⟨-, rfl⟩ := ht
    exact onStart_pollInv ok h hsafe
  | stopPoll =>
    simp only [Control.run, Option.ite_none_right_eq_some, Option.some.injEq] at ht
    obtain ⟨-, rfl⟩ := ht
    by_cases hs : s.state = .active
    · rw [if_pos hs]
      have hq := h.matched (Or.inr hs)
      have hp := (hq.empty (hsafe hs)).1
      exact .within (hq.congr ⟨rfl, rfl, hp.symm, rfl⟩) (Or.inr ⟨hs, by simp [stopPoll]⟩)
    · rw [if_neg hs]
      exact h
  | stopSync =>
    simp only [Control.run, Option.ite_none_right_eq_some, Option.some.injEq] at ht
    obtain ⟨⟨hc, -⟩, rfl⟩ := ht
    have hn : ¬ s.atRest := by simp [atRest, hc]
    exact .within ((hactive hn).congr ⟨rfl, rfl, rfl, rfl⟩) (Or.inr ⟨h.stopping hn, by simp⟩)
  | streamOff ok =>
    simp only [Control.run, Option.ite_none_right_eq_some, Option.some.injEq] at ht
    obtain ⟨hc, rfl⟩ := ht
    have hn : ¬ s.atRest := by simp [atRest, hc]
    have hk : (s.streamOff ok).kernel = s.kernel := by
      cases ok with
      | true => exact (hsafe rfl).symm
      | false => rfl
    exact .within ((hactive hn).congr ⟨hk, rfl, rfl, rfl⟩)
      (Or.inr ⟨h.stopping hn, by simp [StreamObj.streamOff]⟩)
  | stopApp =>
    simp only [Control.run, Option.ite_none_right_eq_some, Option.some.injEq] at ht
    obtain ⟨⟨hc, -⟩, rfl⟩ := ht
    have hn : ¬ s.atRest := by simp [atRest, hc]
    exact .within ((hactive hn).congr ⟨rfl, rfl, rfl, rfl⟩)
      (Or.inr ⟨h.stopping hn, by simp [StreamObj.stopApp]⟩)
  | stopDone =>
    simp only [Control.run, Option.ite_none_right_eq_some, Option.some.injEq] at ht
    obtain ⟨hc, rfl⟩ := ht
    have hn : ¬ s.atRest := by simp [atRest, hc]
    exact .within ((hactive hn).congr ⟨rfl, rfl, rfl, rfl⟩) (Or.inl ⟨rfl, Or.inl rfl⟩)
  | unregBuf ok =>
    simp only [Control.run, Option.ite_none_right_eq_some, Option.some.injEq] at ht
    obtain ⟨-, rfl⟩ := ht
    exact onUnregBuf_pollInv ok h hsafe
  | putBuf ok =>
    simp only [Control.run, Option.ite_none_right_eq_some, Option.some.injEq] at ht
    obtain ⟨-, rfl⟩ := ht
    exact onPutBuf_pollInv ok h

theorem pollSafe_pollInv {t : StreamObj} {e : Event} (h : PollInv s) (hsafe : PollSafe s e)
    (ht : step s e = some t) : PollInv t := by
  by_cases he : e.isControl = true
  · cases e with
    | control c => exact control_pollInv h hsafe ht
    | _ => simp [Event.isControl] at he
  · have hn : e.isControl = false := by simpa using he
    refine step_pollInv h hn ?_ ht
    cases e with
    | control c => simp [Event.isControl] at hn
    | _ => exact hsafe

def streamsStep (ss : List StreamObj) (e : Nat × Event) : Option (List StreamObj) :=
  ss[e.1]?.bind fun s => (step s e.2).map (ss.set e.1)

def StreamsSafe (ss : List StreamObj) (e : Nat × Event) : Prop := ∀ s ∈ ss[e.1]?, PollSafe s e.2

instance (s : StreamObj) : (e : Event) → Decidable (PollSafe s e)
  | .control .stopPoll | .control (.streamOff _) | .control (.start _) | .control (.unregBuf _)
  | .control (.regBuf _) => inferInstanceAs (Decidable (_ → _))
  | .control .setBundled | .control (.setFmt ..) | .control (.getBuf _) | .control .stopSync
  | .control .stopApp | .control .stopDone | .control (.putBuf _) => isTrue trivial
  | .dqbuf _ | .countFrame _ | .checkCb | .addRefs | .notifyBundle _ | .notifyLinked _
  | .passOn .. | .takeNode | .callback | .doneNode _ | .release .. | .regBufCb _ | .setLinked _
  | .setPreviewSkip _ => inferInstanceAs (Decidable (_ → _))

instance (ss : List StreamObj) (e : Nat × Event) : Decidable (StreamsSafe ss e) :=
  inferInstanceAs (Decidable (∀ s ∈ ss[e.1]?, PollSafe s e.2))

theorem streamsStep_pollInv {ss ts : List StreamObj} {e : Nat × Event}
    (h : ∀ s ∈ ss, PollInv s) (hsafe : StreamsSafe ss e) (ht : streamsStep ss e = some ts) :
    ∀ s ∈ ts, PollInv s := by
  simp only [streamsStep, Option.bind_eq_some_iff, Option.map_eq_some_iff] at ht
  obtain ⟨s, hs, t, hstep, rfl⟩ := ht
  have hi : PollInv s := h s (List.mem_of_getElem? hs)
  intro u hu
  obtain hu | rfl := List.mem_or_eq_of_mem_set hu
  · exact h u hu
  · exact pollSafe_pollInv hi (hsafe s hs) hstep

/-- In REG and ACTIVE the entry and the count follow the driver's queue; `released` is where
`mm_channel_stop` leaves each of its streams. -/
def PollMatches (s : StreamObj) : Prop :=
  (s.state = .reg ∨ s.state = .active →
    (s.pollFd = true ↔ 0 < s.queuedBufferCount) ∧
      s.queuedBufferCount = s.kernel.length + s.poll.uncounted) ∧
    (s.ctl = .released → s.pollFd = false ∧ s.queuedBufferCount = 0)

theorem poll_follows_queue {previews : List Bool} {es : List (Nat × Event)} {ss : List StreamObj}
    (hsafe : Runs.Along streamsStep StreamsSafe (previews.map fresh) es)
    (h : Runs.play streamsStep (previews.map fresh) es = some ss) : ∀ s ∈ ss, PollMatches s := by
  have hfresh : ∀ s ∈ previews.map fresh, PollInv s := by
    intro s hs
    obtain ⟨p, -, rfl⟩ := List.mem_map.mp hs
    exact fresh_pollInv p
  have hinv := Runs.play_invariant (fun _ _ _ hi hp ht => streamsStep_pollInv hi hp ht)
    hfresh hsafe h
  intro s hs
  refine ⟨fun hstate => ?_, fun hc => (hinv s hs).closed (Or.inr hc)⟩
  have hq := (hinv s hs).matched hstate
  exact ⟨hq.polled, hq.count⟩

def startCalls : List Event :=
  [.control (.setFmt 1 true true), .control (.getBuf ⟨true, 1, [true], true⟩),
    .control (.regBuf ⟨true, []⟩), .control (.start true)]

def frameToClient : List Event :=
  [.dqbuf (some 0), .countFrame true, .checkCb, .addRefs, .notifyBundle true, .notifyLinked true,
    .passOn true ⟨true, true⟩, .takeNode, .callback, .callback, .callback, .callback,
    .doneNode ⟨true, true⟩]

def stopCalls : List Event :=
  [.control .stopPoll, .control .stopSync, .control (.streamOff true), .control .stopApp,
    .control .stopDone, .control (.unregBuf true), .control (.putBuf true)]

def onlyStream (es : List Event) : List (Nat × Event) := es.map fun e => (0, e)

theorem poll_follows_queue_held : ∃ ss, Runs.play streamsStep ([false].map fresh)
    (onlyStream (startCalls ++ frameToClient ++ stopCalls)) = some ss ∧
      ss.map (·.ctl) = [.released] ∧ ∀ s ∈ ss, PollMatches s :=
  ⟨_, rfl, rfl, @poll_follows_queue [false]
    (onlyStream (startCalls ++ frameToClient ++ stopCalls)) _ (by decide) rfl⟩

theorem stop_keeps_count : ¬ ∀ (previews : List Bool) (es : List (Nat × Event))
    (ss : List StreamObj), Runs.play streamsStep (previews.map fresh) es = some ss →
      ∀ s ∈ ss, PollMatches s := by
  intro h
  have hs := h [false] (onlyStream (startCalls ++ stopCalls)) _ rfl _ (List.mem_singleton.mpr rfl)
  have hc := (hs.2 rfl).2
  exact absurd hc (by decide)

end Wt88047.Stream
