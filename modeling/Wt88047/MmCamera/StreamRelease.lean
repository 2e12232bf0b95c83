import Wt88047.MmCamera.StreamRegister

/-! Runs of a started stream: when `buf_refcnt` counts the holders and the last of them queues the buffer
again. Where buffer operations may fail, a buffer keeps its owner exactly while none does. -/

namespace Wt88047.Stream

open StreamObj

structure Started (s : StreamObj) : Prop where
  active : s.state = .active
  idle : s.poll = .idle ∧ s.app = none ∧ s.cmdQueue = []
  flagged : ∀ b < s.bufNum, s.flag b = true →
    b ∈ s.kernel ∧ s.refcnt b = 0 ∧ outRefs s.out b = 0
  upper : ∀ b < s.bufNum, s.flag b = false →
    b ∉ s.kernel ∧ s.refcnt b = 1 ∧ outRefs s.out b = 1
  others : ∀ b, s.bufNum ≤ b → b ∉ s.kernel ∧ s.refcnt b = 0 ∧ outRefs s.out b = 0
  queued : Queued s
  logs : s.delivered = [] ∧ s.requeued = []

structure Unused (s : StreamObj) : Prop where
  buffed : s.state = .buffed
  idle : s.poll = .idle ∧ s.app = none ∧ s.cmdQueue = []
  pollFd : s.pollFd = false
  out : s.out = []
  refs : ∀ b, s.refcnt b = 0

variable {s t : StreamObj}

theorem start_started {u : StreamObj} {r : RegBufRc} (h : Unused s)
    (hreg : s.onRegBuf r = (true, t)) (hstart : t.onStart true = (true, u)) : Started u := by
  have hu0 : s.poll.uncounted = 0 := by rw [h.idle.1]; rfl
  simp only [onRegBuf, h.buffed, if_true] at hreg
  cases hr : s.regBuf r with
  | mk rc v =>
    cases rc with
    | false => simp [hr] at hreg
    | true =>
      simp only [hr, Prod.mk.injEq, true_and] at hreg
      subst hreg
      have hq := regBuf_queued hu0 (Or.inl h.pollFd) hr
      simp only [onStart, streamOn, if_true, Prod.mk.injEq, true_and] at hstart
      subst hstart
      simp only [regBuf, requestBuf] at hr
      split at hr
      · rename_i w hreq
        split at hreq
        · obtain ⟨-, rfl⟩ := Prod.mk.inj hreq
          have h0 : Registering s.pollFd { { s with kernel := [] } with queuedBufferCount := 0 } :=
            ⟨List.nodup_nil, rfl, fun hc => absurd hc (by simp), fun hc => Or.inr hc⟩
          obtain ⟨-, hf, hpoll, -⟩ := regLoop_spec _ _ h0 hr
          have hnew : ∀ i ∈ List.range s.bufNum,
              i ∉ ([] : List Nat) ∧ outRefs s.out i = 0 := by
            intro i _
            rw [h.out]
            exact ⟨List.not_mem_nil, rfl⟩
          obtain ⟨hflag, hcq, happ, hin, hout, hrest⟩ :=
            regLoop_places _ List.nodup_range hnew hr
          have hn : v.bufNum = s.bufNum := hf.bufNum
          refine ⟨rfl, ⟨hpoll.trans h.idle.1, happ.trans h.idle.2.1, ?_⟩, fun b hb hfl => ?_,
            fun b hb hfl => ?_, fun b hb => ?_, hq.congr ⟨rfl, rfl, rfl, rfl⟩, rfl, rfl⟩
          · have hempty : v.cmdQueue = [] := hcq.trans h.idle.2.2
            show (if _ then [] else v.cmdQueue) = []
            simp [hempty]
          · exact hin b (List.mem_range.mpr (hn ▸ hb)) (hflag ▸ hfl)
          · exact hout b (List.mem_range.mpr (hn ▸ hb)) (hflag ▸ hfl)
          · have hnb : b ∉ List.range s.bufNum := by
              rw [List.mem_range]
              have hvb : v.bufNum ≤ b := hb
              omega
            obtain ⟨h1, h2, h3⟩ := hrest b hnb
            refine ⟨fun hk => absurd (h1.mp hk) List.not_mem_nil, h2.trans (h.refs b), h3.trans ?_⟩
            show outRefs s.out b = 0
            rw [h.out]
            rfl
        · simp at hreq
      · simp at hr

theorem Started.books (h : Started s) : Books none s := by
  obtain ⟨hpoll, happ, hcq⟩ := h.idle
  have hh : ∀ b, s.holders b = outRefs s.out b := by
    intro b
    simp [holders, appRefs, happ, hcq, hpoll, PollPc.refs]
  have hin : ∀ b, ¬ s.inHand b := by
    intro b
    simp [inHand, hpoll, PollPc.inHand]
  have hplace : ∀ b, (b < s.bufNum ∧ b ∈ s.kernel ∧ s.refcnt b = 0 ∧ outRefs s.out b = 0) ∨
      (b < s.bufNum ∧ b ∉ s.kernel ∧ s.refcnt b = 1 ∧ outRefs s.out b = 1) ∨
      (s.bufNum ≤ b ∧ b ∉ s.kernel ∧ s.refcnt b = 0 ∧ outRefs s.out b = 0) := by
    intro b
    by_cases hb : b < s.bufNum
    · cases hf : s.flag b with
      | true => exact Or.inl ⟨hb, h.flagged b hb hf⟩
      | false => exact Or.inr (Or.inl ⟨hb, h.upper b hb hf⟩)
    · exact Or.inr (Or.inr ⟨by omega, h.others b (by omega)⟩)
  refine ⟨fun b => ?_, fun b hb h0 _ => ?_, fun b hk => ?_, fun b hi => absurd hi (hin b),
    fun b hb => ?_, fun b hne => ?_⟩
  · rw [hh]
    obtain ⟨-, -, h1, h2⟩ | ⟨-, -, h1, h2⟩ | ⟨-, -, h1, h2⟩ := hplace b <;> simp [h1, h2, loose]
  · obtain ⟨-, hk, -⟩ | ⟨-, -, h1, -⟩ | ⟨hge, -⟩ := hplace b
    · exact hk
    · omega
    · omega
  · obtain ⟨hb, -, h1, -⟩ | ⟨-, hn, -⟩ | ⟨-, hn, -⟩ := hplace b
    · exact ⟨hb, h1, hin b⟩
    · exact absurd hk hn
    · exact absurd hk hn
  · rw [hpoll] at hb
    simp [PollPc.buf] at hb
  · obtain ⟨hb, -⟩ | ⟨hb, -⟩ | ⟨-, -, h1, -⟩ := hplace b
    · exact hb
    · exact hb
    · exact absurd h1 hne

theorem bufDone_logs {u : StreamObj} {b : Nat} (q : QbufRc) (hr : u.refcnt b = s.refcnt b)
    (hk : u.kernel = s.kernel) (hd : u.delivered = s.delivered) (hq : u.requeued = s.requeued) :
    ((u.bufDone b q).2.kernel = s.kernel ∧ (u.bufDone b q).2.delivered = s.delivered ∧
      (u.bufDone b q).2.requeued = s.requeued) ∨
    (s.refcnt b = 1 ∧ b ∉ s.kernel ∧ (u.bufDone b q).2.kernel = b :: s.kernel ∧
      (u.bufDone b q).2.delivered = s.delivered ∧ (u.bufDone b q).2.requeued = b :: s.requeued) := by
  obtain ⟨-, ht⟩ | ⟨-, ht⟩ | ⟨h1, -, hn, ht⟩ | ⟨-, -, ht | ht⟩ := bufDone_cases b q u
  · rw [ht]
    exact Or.inl ⟨hk, hd, hq⟩
  · rw [ht]
    exact Or.inl ⟨hk, hd, hq⟩
  · rw [ht]
    refine Or.inr ⟨hr ▸ h1, hk ▸ hn, ?_, hd, ?_⟩
    · rw [← hk]
      rfl
    · rw [← hq]
      rfl
  · rw [ht]
    exact Or.inl ⟨hk, hd, hq⟩
  · rw [ht]
    exact Or.inl ⟨hk, hd, hq⟩

variable {e : Event}

theorem step_logs (he : e.isControl = false) (ht : step s e = some t) :
    (t.kernel = s.kernel ∧ t.delivered = s.delivered ∧ t.requeued = s.requeued) ∨
    (∃ b ∈ s.kernel, t.kernel = s.kernel.erase b ∧ t.delivered = b :: s.delivered ∧
      t.requeued = s.requeued) ∨
    (∃ b, s.refcnt b = 1 ∧ b ∉ s.kernel ∧ t.kernel = b :: s.kernel ∧
      t.delivered = s.delivered ∧ t.requeued = b :: s.requeued) := by
  cases step_effect he ht with
  | read o he ht =>
    obtain ⟨-, -, rfl | ⟨b, hb, rfl⟩⟩ := dqbuf_some ht
    · exact Or.inl ⟨rfl, rfl, rfl⟩
    · exact Or.inr (Or.inl ⟨b, hb, rfl, rfl, rfl⟩)
  | count ok ht =>
    obtain ⟨b, -, rfl⟩ := countFrame_some ht
    exact Or.inl ⟨rfl, rfl, rfl⟩
  | done b q u ht hu hr hl =>
    rw [ht]
    exact (bufDone_logs q hr hu.kernel hu.delivered hu.requeued).imp id fun h => Or.inr ⟨b, h⟩
  | none h => exact Or.inl ⟨h.kernel, h.delivered, h.requeued⟩

theorem step_inHand {b : Nat} (he : e.isControl = false) (ht : step s e = some t) (h : t.inHand b) :
    s.inHand b ∨ b ∈ s.kernel := by
  cases e with
  | dqbuf o =>
    obtain ⟨-, -, rfl | ⟨c, hc, rfl⟩⟩ := dqbuf_some ht
    · exact Or.inl h
    · obtain rfl : c = b := h
      exact Or.inr hc
  | countFrame ok =>
    obtain ⟨c, hpc, rfl⟩ := countFrame_some ht
    cases ok with
    | true => exact Or.inl (by rw [inHand, hpc]; exact h)
    | false => exact absurd h id
  | checkCb =>
    obtain ⟨c, hpc, -, rfl⟩ := checkCb_some ht
    exact Or.inl (by rw [inHand, hpc]; exact h)
  | addRefs =>
    obtain ⟨c, d, hpc, rfl⟩ := addRefs_some ht
    exact Or.inl (by rw [inHand, hpc]; exact h.1)
  | notifyBundle ok =>
    obtain ⟨c, d, hpc, rfl⟩ := notifyBundle_some ht
    exact Or.inl (by rw [inHand, hpc]; exact h)
  | notifyLinked ok =>
    obtain ⟨c, d, hpc, ⟨-, rfl⟩ | ⟨-, rfl⟩⟩ := notifyLinked_some ht <;> exact absurd h id
  | passOn ok q =>
    obtain ⟨c, d, -, ⟨-, rfl⟩ | ⟨-, -, rfl⟩ | ⟨-, -, rfl⟩⟩ := passOn_some ht
    · rw [inHand, bufDone_poll] at h
      exact absurd h id
    · exact absurd h id
    · exact absurd h id
  | takeNode =>
    obtain ⟨c, rest, -, -, rfl⟩ := takeNode_some ht
    exact Or.inl h
  | callback =>
    obtain ⟨c, i, cbs, -, rfl | rfl⟩ := callback_some ht <;> exact Or.inl h
  | doneNode q =>
    obtain ⟨c, i, -, rfl⟩ := doneNode_some ht
    rw [inHand, bufDone_poll, (bufDone_frame c q (Frame.refl _)).isBundled] at h
    exact Or.inl h
  | release d c q =>
    obtain ⟨-, ⟨-, rfl⟩ | ⟨-, rfl⟩⟩ := release_some ht
    · rw [inHand, bufDone_poll, (bufDone_frame c q (Frame.refl _)).isBundled] at h
      exact Or.inl h
    · exact Or.inl h
  | regBufCb c =>
    obtain ⟨-, cbs, rfl⟩ := regBufCb_some ht
    exact Or.inl h
  | setLinked on =>
    obtain rfl := Option.some.inj ht
    exact Or.inl h
  | setPreviewSkip n =>
    obtain rfl := Option.some.inj ht
    exact Or.inl h
  | control c => simp [Event.isControl] at he

def Running (s : StreamObj) (e : Event) : Prop :=
  e.isControl = false ∧ OpsSucceed s e ∧ Served s e

structure RunInv (s : StreamObj) : Prop where
  books : Books none s
  queued : Queued s
  active : s.state = .active

theorem Started.runInv (h : Started s) : RunInv s := ⟨h.books, h.queued, h.active⟩

theorem step_runInv (h : RunInv s) (hrun : Running s e) (hover : HandedOver s e)
    (ht : step s e = some t) : RunInv t := by
  obtain ⟨he, hops, hserved⟩ := hrun
  refine ⟨?_, step_queued h.queued he ht, (step_frame he ht).state.trans h.active⟩
  exact step_books h.books h.queued.once h.active he hops hserved hover ht

/-- Every delivery of a buffer since START has been answered by one QBUF, but for the last one of
a buffer that the driver does not have. -/
def DeliveredOnce (s₀ s : StreamObj) : Prop :=
  ∀ b, s.kernel.count b ≤ 1 ∧
    s.delivered.count b + s.kernel.count b = s.requeued.count b + s₀.kernel.count b

theorem step_delivered {s₀ : StreamObj} (he : e.isControl = false)
    (h : ∀ b, s.delivered.count b + s.kernel.count b = s.requeued.count b + s₀.kernel.count b)
    (ht : step s e = some t) (b : Nat) :
    t.delivered.count b + t.kernel.count b = t.requeued.count b + s₀.kernel.count b := by
  have hb := h b
  obtain ⟨hk, hd, hq⟩ | ⟨c, hc, hk, hd, hq⟩ | ⟨c, -, -, hk, hd, hq⟩ := step_logs he ht
  · rw [hk, hd, hq]
    exact hb
  · rw [hk, hd, hq]
    have hperm := (List.perm_cons_erase hc).count_eq b
    simp only [List.count_cons] at hperm ⊢
    omega
  · rw [hk, hd, hq]
    simp only [List.count_cons]
    omega

theorem step_requeues (h : RunInv s) (hrun : Running s e) (hover : HandedOver s e)
    (ht : step s e = some t) {b : Nat} (hb : b < s.bufNum) :
    t.requeued = b :: s.requeued ↔ s.holders b ≠ 0 ∧ t.holders b = 0 := by
  have hi := step_runInv h hrun hover ht
  have hs := h.books.refs b
  have hu := hi.books.refs b
  simp only [loose, reduceCtorEq, if_false, Nat.add_zero] at hs hu
  have hn : t.bufNum = s.bufNum := (step_frame hrun.1 ht).bufNum
  constructor
  · intro hq
    obtain ⟨-, -, hq'⟩ | ⟨c, -, -, -, hq'⟩ | ⟨c, h1, -, hk, -, hq'⟩ := step_logs hrun.1 ht
    · exact absurd (hq.symm.trans hq') (by simp)
    · exact absurd (hq.symm.trans hq') (by simp)
    · obtain rfl : b = c := (List.cons.inj (hq.symm.trans hq')).1
      have hz := (hi.books.away b (by rw [hk]; exact List.mem_cons_self ..)).2.1
      omega
  · rintro ⟨hne, hz⟩
    have hnk : b ∉ s.kernel := fun hk => hne (hs ▸ (h.books.away b hk).2.1)
    have hni : ¬ s.inHand b := fun hin => hne (hs ▸ h.books.bare b hin)
    have hnt : ¬ t.inHand b := fun hin => (step_inHand hrun.1 ht hin).elim hni hnk
    have hkt := hi.books.home b (by omega) (by omega) hnt
    obtain ⟨hk, -⟩ | ⟨c, -, hk, -⟩ | ⟨c, -, -, hk, -, hq⟩ := step_logs hrun.1 ht
    · exact absurd (hk ▸ hkt) hnk
    · rw [hk] at hkt
      exact absurd (List.mem_of_mem_erase hkt) hnk
    · rw [hk] at hkt
      obtain rfl := (List.mem_cons.mp hkt).resolve_right hnk
      exact hq

instance (s : StreamObj) : (e : Event) → Decidable (OpsSucceed s e)
  | .countFrame ok => inferInstanceAs (Decidable (ok = true))
  | .passOn ok q => inferInstanceAs (Decidable (lastRelease s (.passOn ok q) ≠ none → q.ok))
  | .doneNode q => inferInstanceAs (Decidable (lastRelease s (.doneNode q) ≠ none → q.ok))
  | .release h b q => inferInstanceAs (Decidable (lastRelease s (.release h b q) ≠ none → q.ok))
  | .dqbuf _ | .checkCb | .addRefs | .notifyBundle _ | .notifyLinked _ | .takeNode | .callback
  | .regBufCb _ | .setLinked _ | .setPreviewSkip _ | .control _ => isTrue trivial

instance (s : StreamObj) : (e : Event) → Decidable (Served s e)
  | .notifyLinked _ =>
    match h : s.poll with
    | .bundled _ c =>
      decidable_of_iff (s.isBundled = true ∨ c = true ∨ s.isLinked = true)
        (by simp only [Served, h])
    | .idle | .dequeued _ | .received _ | .checked .. | .counted .. | .linked .. =>
      isTrue (by simp only [Served, h])
  | .countFrame _ | .passOn .. | .doneNode _ | .release .. | .dqbuf _ | .checkCb | .addRefs
  | .notifyBundle _ | .takeNode | .callback | .regBufCb _ | .setLinked _ | .setPreviewSkip _
  | .control _ => isTrue trivial

instance (s : StreamObj) : (e : Event) → Decidable (HandedOver s e)
  | .notifyBundle ok => inferInstanceAs (Decidable (s.isBundled = true → ok = true))
  | .notifyLinked ok =>
    inferInstanceAs (Decidable (s.isLinked = true → ok = true ∧ ∀ b ∈ s.poll.buf, b ∉ s.kernel))
  | .passOn ok _ =>
    match h : s.poll with
    | .linked b c =>
      decidable_of_iff
        (if s.skips then c = true ∨ s.refcnt b = 0 else c = true → s.cmdActive = true ∧ ok = true)
        (by simp only [HandedOver, h])
    | .idle | .dequeued _ | .received _ | .checked .. | .counted .. | .bundled .. =>
      isTrue (by simp only [HandedOver, h])
  | .countFrame _ | .doneNode _ | .release .. | .dqbuf _ | .checkCb | .addRefs
  | .takeNode | .callback | .regBufCb _ | .setLinked _ | .setPreviewSkip _ | .control _ =>
    isTrue trivial

instance (s : StreamObj) (e : Event) : Decidable (Running s e) :=
  inferInstanceAs (Decidable (_ ∧ _ ∧ _))

theorem refcnt_counts_holders {s₀ s : StreamObj} {es : List Event} (h₀ : Started s₀)
    (hrun : Runs.Along step Running s₀ es) (h : Runs.play step s₀ es = some s) :
    (Runs.Along step HandedOver s₀ es ↔
      ∀ pre post, es = pre ++ post → ∀ t, Runs.play step s₀ pre = some t → RefsHold t) ∧
    (Runs.Along step HandedOver s₀ es → DeliveredOnce s₀ s ∧
      ∀ e t, Running s e → HandedOver s e → step s e = some t → ∀ b < s.bufNum,
        (t.requeued = b :: s.requeued ↔ s.holders b ≠ 0 ∧ t.holders b = 0)) := by
  refine ⟨?_, fun hover => ?_⟩
  · apply Runs.along_iff_prefixes (I := RunInv) (Q := RefsHold) _ _ _ h₀.runInv hrun h
    · exact fun u e v hu he hp hv => step_runInv hu he hp hv
    · exact fun u hu => hu.books.refsHold
    · exact fun u e v hu _ hv hq => handedOver_of_refsHold hu.books hv hq
  · have hinv : RunInv s := Runs.play_invariant
      (fun u e v hu he hv => step_runInv hu he.1 he.2 hv) h₀.runInv (hrun.and hover) h
    have hlog := Runs.play_invariant
      (I := fun u => ∀ b, u.delivered.count b + u.kernel.count b =
        u.requeued.count b + s₀.kernel.count b)
      (fun u e v hu he hv => step_delivered he.1 hu hv)
      (fun b => by simp [h₀.logs.1, h₀.logs.2]) hrun h
    refine ⟨fun b => ⟨List.nodup_iff_count_le_one.mp hinv.queued.once b, hlog b⟩, ?_⟩
    exact fun e t he hp ht b hb => step_requeues hinv he hp ht hb

/-- A bundled stream with one buffer to register; `cb` tells whether it has a callback and `skip`
how many preview frames the channel wants dropped. -/
def buffedStream (cb : Bool) (skip : Nat) : StreamObj :=
  { fresh true with
    state := .buffed
    bufNum := 1
    hasBuf := true
    bufStatus := fun i => ⟨0, [true].getD i false, false⟩
    bufCb := ⟨cb, -1⟩ :: List.replicate 3 ⟨false, 0⟩
    isBundled := true
    previewSkipCnt := skip }

def bundledStream (cb : Bool) (skip : Nat) : StreamObj :=
  (((buffedStream cb skip).onRegBuf ⟨true, []⟩).2.onStart true).2

theorem bundledStream_started (cb : Bool) (skip : Nat) : Started (bundledStream cb skip) := by
  have hunused : Unused (buffedStream cb skip) :=
    ⟨rfl, ⟨rfl, rfl, rfl⟩, rfl, rfl, fun _ => rfl⟩
  have hreg : (buffedStream cb skip).onRegBuf ⟨true, []⟩ =
    (true, ((buffedStream cb skip).onRegBuf ⟨true, []⟩).2) := rfl
  exact start_started hunused hreg rfl

def notifyFrame : List Event :=
  [.dqbuf (some 0), .countFrame true, .checkCb, .addRefs, .notifyBundle true, .notifyLinked true,
    .passOn true ⟨true, true⟩]

def frameToBoth : List Event :=
  notifyFrame ++ [.takeNode, .callback, .callback, .callback, .callback, .doneNode ⟨true, true⟩,
    .release .bundle 0 ⟨true, true⟩, .release (.slot 0) 0 ⟨true, true⟩]

theorem refcnt_counts_holders_both : ∃ s,
    Runs.play step (bundledStream true 0) frameToBoth = some s ∧ s.requeued = [0] ∧
      DeliveredOnce (bundledStream true 0) s :=
  ⟨_, rfl, rfl, ((@refcnt_counts_holders (bundledStream true 0) _ frameToBoth
    (bundledStream_started true 0) (by decide) rfl).2 (by decide)).1⟩

/-- The skipped preview frame has no callback, and the bundle's reference is dropped instead. -/
theorem skip_drops_bundle_reference : ¬ ∀ (s₀ s : StreamObj) (es : List Event), Started s₀ →
    Runs.Along step Running s₀ es → Runs.play step s₀ es = some s → RefsHold s := by
  intro h
  have hs := h _ _ notifyFrame (bundledStream_started false 1) (by decide) rfl
  exact absurd (hs.1 0) (by decide)

/-- No buffer is without an owner, and all counts agree with where the buffers are. -/
structure Accounted (s : StreamObj) : Prop where
  refs : RefsHold s
  owned : ∀ b < s.bufNum, b ∈ s.kernel ∨ s.refcnt b ≠ 0 ∨ s.inHand b
  count : s.queuedBufferCount = s.kernel.length + s.poll.uncounted
  polled : s.pollFd = true ↔ 0 < s.queuedBufferCount

theorem RunInv.accounted (h : RunInv s) : Accounted s := by
  refine ⟨h.books.refsHold, fun b hb => ?_, h.queued.count, h.queued.polled⟩
  by_cases h0 : s.refcnt b = 0
  · by_cases hin : s.inHand b
    · exact Or.inr (Or.inr hin)
    · exact Or.inl (h.books.home b hb h0 hin)
  · exact Or.inr (Or.inl h0)

def Kept (s : StreamObj) (e : Event) : Prop := OpsSucceed s e ∧ Served s e ∧ HandedOver s e

instance (s : StreamObj) (e : Event) : Decidable (Kept s e) :=
  inferInstanceAs (Decidable (_ ∧ _ ∧ _))

theorem ok_of_accounted {u : StreamObj} {b : Nat} {q : QbufRc} (h : Books none s)
    (hacc : Accounted (u.bufDone b q).2) (h1 : s.refcnt b = 1) (hr : u.refcnt b = s.refcnt b)
    (hk : u.kernel = s.kernel) (hn : u.bufNum = s.bufNum) (hin : u.inHand b → s.inHand b) :
    q.ok := by
  have hlt : b < s.bufNum := h.bound b (by omega)
  have hnk : b ∉ s.kernel := by
    intro hb
    have h0 := (h.away b hb).2.1
    omega
  have hni : ¬ s.inHand b := by
    intro hi
    have h0 := h.bare b hi
    omega
  by_contra hq
  have hstranded : Stranded b u (u.bufDone b q).2 := by
    obtain ⟨h0, -⟩ | ⟨h2, -⟩ | ⟨-, hok, -⟩ | ⟨-, -, hs⟩ := bufDone_cases b q u
    · omega
    · omega
    · exact absurd hok hq
    · exact hs
  obtain hs | hs := hstranded
  all_goals
    rw [hs] at hacc
    obtain hown | hown | hown := hacc.owned b (show b < u.bufNum by omega)
    · have hku : b ∈ u.kernel := hown
      exact hnk (hk ▸ hku)
    · exact hown (by simp)
    · exact hni (hin hown)

theorem kept_of_accounted (h : RunInv s) (ht : step s e = some t) (hacc : Accounted t) :
    Kept s e := by
  refine ⟨?_, ?_, handedOver_of_refsHold h.books ht hacc.refs⟩
  · cases e with
    | countFrame ok =>
      obtain ⟨b, hpc, rfl⟩ := countFrame_some ht
      cases ok with
      | true => rfl
      | false =>
        have hin : s.inHand b := by simp [inHand, hpc, PollPc.inHand]
        have hlt : b < s.bufNum := h.books.range b (by rw [hpc]; rfl)
        obtain hown | hown | hown := hacc.owned b hlt
        · exact absurd hin (h.books.away b hown).2.2
        · exact absurd (h.books.bare b hin) hown
        · exact absurd hown id
    | passOn ok q =>
      intro hl
      obtain ⟨b, c, hpc, ⟨hs, rfl⟩ | ⟨hs, -⟩ | ⟨hs, -⟩⟩ := passOn_some ht
      · simp only [lastRelease, hpc, hs, true_and, ne_eq, ite_eq_right_iff, reduceCtorEq, imp_false,
          Decidable.not_not] at hl
        exact ok_of_accounted h.books hacc hl rfl rfl rfl (fun hi => hi.elim)
      · simp [lastRelease, hpc, hs] at hl
      · simp [lastRelease, hpc, hs] at hl
    | doneNode q =>
      intro hl
      obtain ⟨b, i, happ, rfl⟩ := doneNode_some ht
      simp only [lastRelease, happ, ne_eq, ite_eq_right_iff, reduceCtorEq, imp_false,
        Decidable.not_not] at hl
      exact ok_of_accounted h.books hacc hl rfl rfl rfl id
    | release d b q =>
      intro hl
      obtain ⟨-, ⟨ha, rfl⟩ | ⟨ha, -⟩⟩ := release_some ht
      · simp only [lastRelease, ha, true_and, ne_eq, ite_eq_right_iff, reduceCtorEq, imp_false,
          Decidable.not_not] at hl
        exact ok_of_accounted h.books hacc hl rfl rfl rfl id
      · exact absurd h.active ha
    | _ => trivial
  · cases e with
    | notifyLinked ok =>
      obtain ⟨b, c, hpc, ⟨hl, rfl⟩ | ⟨hl, -⟩⟩ := notifyLinked_some ht
      · simp only [Served, hpc]
        by_contra hno
        obtain ⟨hb, hc, -⟩ := by simpa using hno
        have hin : s.inHand b := by simp [inHand, hpc, PollPc.inHand, hb, hc]
        have hlt : b < s.bufNum := h.books.range b (by rw [hpc]; rfl)
        obtain hown | hown | hown := hacc.owned b hlt
        · exact absurd hin (h.books.away b hown).2.2
        · exact absurd (h.books.bare b hin) hown
        · exact absurd hown id
      · simp [Served, hpc, hl]
    | _ => trivial

def Quiescent (s : StreamObj) : Prop := s.poll = .idle ∧ s.app = none

def NothingLost (s : StreamObj) : Prop :=
  (∀ b < s.bufNum, (b ∈ s.kernel ∧ s.refcnt b = 0 ∧ s.holders b = 0) ∨
    (b ∉ s.kernel ∧ 0 < s.refcnt b ∧ s.refcnt b = s.holders b)) ∧
  s.queuedBufferCount = s.kernel.length ∧ (s.pollFd = true ↔ 0 < s.queuedBufferCount)

theorem Accounted.nothingLost (h : Accounted s) (hq : Quiescent s) : NothingLost s := by
  refine ⟨fun b hb => ?_, ?_, h.polled⟩
  · have hr := h.refs.1 b
    by_cases hk : b ∈ s.kernel
    · have h0 := h.refs.2 b hk
      exact Or.inl ⟨hk, h0, by omega⟩
    · obtain hown | hown | hown := h.owned b hb
      · exact absurd hown hk
      · exact Or.inr ⟨hk, by omega, hr⟩
      · rw [inHand, hq.1] at hown
        exact absurd hown id
  · have hc := h.count
    rw [hq.1] at hc
    simpa [PollPc.uncounted] using hc

def NoControl (_ : StreamObj) (e : Event) : Prop := e.isControl = false

instance (s : StreamObj) (e : Event) : Decidable (NoControl s e) :=
  inferInstanceAs (Decidable (_ = _))

theorem no_buffer_lost {s₀ s : StreamObj} {es : List Event} (h₀ : Started s₀)
    (hrun : Runs.Along step NoControl s₀ es) (h : Runs.play step s₀ es = some s) :
    (Runs.Along step Kept s₀ es ↔
      ∀ pre post, es = pre ++ post → ∀ t, Runs.play step s₀ pre = some t → Accounted t) ∧
    (Runs.Along step Kept s₀ es → Quiescent s → NothingLost s) := by
  have hkeep : ∀ u e v, RunInv u → NoControl u e → Kept u e → step u e = some v → RunInv v :=
    fun u e v hu he hp hv => step_runInv hu ⟨he, hp.1, hp.2.1⟩ hp.2.2 hv
  refine ⟨?_, fun hkept hq => ?_⟩
  · exact Runs.along_iff_prefixes (I := RunInv) (Q := Accounted) hkeep (fun u hu => hu.accounted)
      (fun u e v hu _ hv hacc => kept_of_accounted hu hv hacc) h₀.runInv hrun h
  · have hinv : RunInv s := Runs.play_invariant
      (fun u e v hu he hv => hkeep u e v hu he.1 he.2 hv) h₀.runInv (hrun.and hkept) h
    exact hinv.accounted.nothingLost hq

theorem no_buffer_lost_both : ∃ s,
    Runs.play step (bundledStream true 0) frameToBoth = some s ∧ NothingLost s :=
  ⟨_, rfl, (@no_buffer_lost (bundledStream true 0) _ frameToBoth (bundledStream_started true 0)
    (by decide) rfl).2 (by decide) ⟨rfl, rfl⟩⟩

/-- The cache operation after DQBUF fails and the frame is dropped with its buffer. -/
theorem failed_clean_loses_buffer : ¬ ∀ (s₀ s : StreamObj) (es : List Event), Started s₀ →
    Runs.Along step NoControl s₀ es → Runs.play step s₀ es = some s → Quiescent s →
      NothingLost s := by
  intro h
  have hs := h _ _ [.dqbuf (some 0), .countFrame false] (bundledStream_started true 0) (by decide)
    rfl ⟨rfl, rfl⟩
  exact absurd (hs.1 0 (by decide)) (by decide)

end Wt88047.Stream
