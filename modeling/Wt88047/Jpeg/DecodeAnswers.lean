import Wt88047.Jpeg.DecodeSteps

/-! When all is at rest each decode job has had its callback, a waiting thread is owed what it waits for, and the
threads come to a halt by themselves. -/

namespace Jpeg.Decode

variable {w w' : World} {s : Slot} {p : Session} {st : Stage}

theorem Inv.waits (h : Inv w) {r : Request} (hl : w.lock = some (s, st)) (hr : st.awaits = some r) :
    r ∈ (w.session s).owed := by
  have hf := h.fits s st hl
  cases st with
  | change g c =>
    cases c with
    | waiting =>
      cases hr
      exact hf.2.2.1
    | _ => cases hr
  | waiting k =>
    cases hr
    exact hf.2.2
  | _ => cases hr

theorem Session.advance_some {o : Outcome} (hawaits : st.awaits = none) (hcallback : st ≠ .callback)
    (hdone : st ≠ .jobDone) (hremove : st ≠ .removeSession) (habort : ∀ d, st ≠ .abortWaiting d) :
    ∃ r, p.advance o st = some r := by
  cases st with
  | change g c =>
    cases c with
    | waiting => cases hawaits
    | woken => exact ⟨_, rfl⟩
    | _ =>
      simp only [Session.advance, Session.changeState]
      repeat' split
      all_goals exact ⟨_, rfl⟩
  | callback => exact absurd rfl hcallback
  | jobDone => exact absurd rfl hdone
  | removeSession => exact absurd rfl hremove
  | abortWaiting d => exact absurd rfl (habort d)
  | waiting k => cases hawaits
  | _ =>
    simp only [Session.advance]
    repeat' split
    all_goals exact ⟨_, rfl⟩

theorem Inv.goes_on (h : Inv w) (hl : w.lock = some (s, st)) (hawaits : st.awaits = none) :
    Decode.advance {} w ≠ none := by
  have hf := h.fits s st hl
  by_cases hcallback : st = .callback
  · rw [hcallback] at hl
    simp [Decode.advance, hl]
  by_cases hdone : st = .jobDone
  · rw [hdone] at hl
    simp [Decode.advance, hl]
  by_cases hremove : st = .removeSession
  · rw [hremove] at hl
    simp [Decode.advance, hl]
  have habort : ∀ d, st ≠ .abortWaiting d := by
    rintro d rfl
    exact hf
  have hhandle : st.callsOmx = true → (w.session s).omxHandle = true := fun hcalls => by
    cases hby : st.byJobmgr with
    | true => exact (h.works_ready ⟨st, hl, hby⟩).1
    | false =>
      cases st with
      | change g c =>
        have hg := hf.2.2.2
        rw [show g.byJobmgr = false from hby] at hg
        exact hg.1
      | freeHandle => exact hf.2.1
      | configPorts => cases hby
      | call k => cases hby
      | portDefinition => cases hby
      | useBuffers => cases hby
      | fillThisBuffer => cases hby
      | _ => cases hcalls
  have hcalls : (st.callsOmx && !(w.session s).omxHandle) = false := by
    cases hc : st.callsOmx with
    | false => rfl
    | true => simp [hhandle hc]
  obtain ⟨r, hr⟩ := Session.advance_some (p := w.session s) (o := {}) hawaits hcallback hdone hremove habort
  unfold Decode.advance
  rw [hl]
  split
  · next heq => cases heq
  · next heq =>
    cases heq
    exact absurd rfl hcallback
  · next heq =>
    cases heq
    exact absurd rfl hdone
  · next heq =>
    cases heq
    exact absurd rfl hremove
  · next heq =>
    cases heq
    rw [hcalls, hr]
    nofun

theorem Inv.rest (h : Inv w) (hr : w.AtRest) : w.lock = none ∧ w.jobQueue = [] ∧ w.ongoingJobQ = [] := by
  obtain ⟨howed, hadvance, hwake⟩ := hr
  have hl : w.lock = none := by
    cases hl : w.lock with
    | none => rfl
    | some x =>
      obtain ⟨s, st⟩ := x
      cases hst : st.awaits with
      | none => exact absurd (hadvance {}) (h.goes_on hl hst)
      | some r =>
        have hm := h.waits hl hst
        rw [howed s] at hm
        cases hm
  have hongoing : w.ongoingJobQ = [] := by
    apply List.eq_nil_iff_forall_not_mem.mpr
    intro n hn
    have hm := (h.held n.slot (List.mem_map.mpr ⟨n, hn, rfl⟩)).resolve_left (not_works_of_unlocked hl)
    rw [howed n.slot] at hm
    cases hm
  have hsem : w.jobSem = 0 := by
    by_contra hne
    have hnone := hwake true
    simp only [Decode.step, jobmgrWake, hl, hongoing, hne, false_or, Option.any_none, Bool.false_eq_true, if_false,
      List.length_nil, ne_eq, not_true_eq_false] at hnone
    rw [if_neg (by decide)] at hnone
    split at hnone <;> cases hnone
  have hwake := h.awake
  rw [hongoing, hsem, List.length_nil] at hwake
  have hlen : w.jobQueue.length = 0 := by
    simp only [maxConcurrentJobs] at hwake
    omega
  exact ⟨hl, List.eq_nil_iff_length_eq_zero.mpr hlen, hongoing⟩

def Names (w : World) (id : Nat) : Prop :=
  id ≠ 0 ∧ ∃ s ∈ getSession id, (w.session s).active = true ∧ (w.session s).omxHandle = true ∧
    (w.session s).sessionId = id

def Creates (hdl : Nat) (params : DecodeParams) (getHandle : Bool) (w : World) : Prop :=
  params.numSrcBufs ≤ maxJpegBuf ∧ params.numDstBufs ≤ maxJpegBuf ∧ getIndexByHandler hdl < maxJpegClientNum ∧
    (∃ i < maxSession, (w.session ⟨getIndexByHandler hdl, i⟩).active = false) ∧ getHandle = true

theorem getSession_packSession (hc : s.client < maxJpegClientNum) (hi : s.idx < maxSession) :
    getSession (packSession s) = some s := by
  obtain ⟨hslot, -⟩ := slotOf_packSession hc hi
  have hclient : getClientIdx (packSession s) = s.client := congrArg Slot.client hslot
  have hidx : getSessionIdx (packSession s) = s.idx := congrArg Slot.idx hslot
  unfold getSession validIdx
  rw [hslot, hclient, hidx, if_pos (by simp [hc, hi])]

theorem createSession_names {hdl : Nat} {params : DecodeParams} {getHandle : Bool} :
    let r := createSession hdl params getHandle w
    (r.2.1 = 0 → Names r.1 r.2.2) ↔ Creates hdl params getHandle w := by
  have hzero : ∀ v, ¬ ((0 : Int) = 0 → Names v 0) := fun v hn => (hn rfl).1 rfl
  have hfree : ∀ {c : Nat}, ((List.range maxSession).find? fun i => !(w.session ⟨c, i⟩).active) = none ↔
      ¬ ∃ i < maxSession, (w.session ⟨c, i⟩).active = false := by
    intro c
    simp
  dsimp only
  unfold Decode.createSession Creates
  split
  · next hnum =>
    refine iff_of_false (hzero _) ?_
    rintro ⟨hsrc, hdst, -⟩
    omega
  next hnum =>
  obtain ⟨hsrc, hdst⟩ := not_or.mp hnum
  split
  · next hidx =>
    refine iff_of_false (hzero _) ?_
    rintro ⟨-, -, hlt, -⟩
    omega
  next hidx =>
  split
  · next hnone =>
    refine iff_of_false (hzero _) ?_
    rintro ⟨-, -, -, hslot, -⟩
    exact hfree.mp hnone hslot
  next i hi =>
  have hlt : i < maxSession := List.mem_range.mp (List.mem_of_find?_eq_some hi)
  have hact : (w.session ⟨getIndexByHandler hdl, i⟩).active = false := by simpa using List.find?_some hi
  cases getHandle with
  | false =>
    refine iff_of_false (hzero _) ?_
    rintro ⟨-, -, -, -, hget⟩
    cases hget
  | true =>
    refine iff_of_true (fun _ => ?_) ⟨by omega, by omega, by omega, ⟨i, hlt, hact⟩, rfl⟩
    have hc : getIndexByHandler hdl < maxJpegClientNum := by omega
    show Names _ (packSession ⟨getIndexByHandler hdl, i⟩)
    refine ⟨(slotOf_packSession hc hlt).2, ⟨getIndexByHandler hdl, i⟩, getSession_packSession hc hlt, ?_⟩
    simp [World.onSession, World.setSession]

theorem Inv.called_le (h : Inv w) (j : Nat) : w.called.count j ≤ (w.ongoingJobQ.map (·.job.serial)).count j := by
  unfold World.called
  split
  · next s hl =>
    obtain ⟨n, hfind, -, hserial, -⟩ := h.found (h.fits s .jobDone hl)
    have hn : n.job.serial ∈ w.ongoingJobQ.map (·.job.serial) :=
      List.mem_map.mpr ⟨n, List.mem_of_find?_eq_some hfind, rfl⟩
    rw [hserial, List.count_singleton]
    split
    · next hj =>
      obtain rfl : n.job.serial = j := by simpa using hj
      exact List.count_pos_iff.mpr hn
    · exact Nat.zero_le _
  · exact Nat.zero_le _

/-- What is asked of every state of a run: no accepted job is answered or taken off the ongoing queue twice, each one
that is not aborted has been when all is at rest, and a thread waits only for what the component still owes. -/
structure Answered (w : World) : Prop where
  once : ∀ j < w.accepted, (w.answers.map (·.serial)).count j ≤ 1 ∧ w.removed.count j ≤ 1
  rest : w.AtRest → ∀ j < w.accepted, j ∉ w.aborted →
    (w.answers.map (·.serial)).count j = 1 ∧ w.removed.count j = 1
  waits : ∀ s st r, w.lock = some (s, st) → st.awaits = some r → r ∈ (w.session s).owed

theorem Inv.answered_once (h : Inv w) : Answered w where
  once j hj := by
    have hplaces := h.places j
    have hanswered := h.answered j
    have hcalled := h.called_le j
    rw [if_pos hj] at hplaces
    omega
  rest hrest j hj hnot := by
    obtain ⟨-, hqueue, hongoing⟩ := h.rest hrest
    have hplaces := h.places j
    have hanswered := h.answered j
    have hcalled := h.called_le j
    rw [hongoing] at hcalled
    rw [if_pos hj, List.count_eq_zero.mpr hnot, hqueue, hongoing] at hplaces
    simp only [List.map_nil, List.count_nil] at hplaces hcalled
    omega
  waits _ _ _ hl hr := h.waits hl hr

def Goal.rank : Goal → Nat
  | configIdle => 35
  | configExecuting => 30
  | destroyIdle => 9
  | destroyLoaded => 4

def ChangeStage.rank : ChangeStage → Nat
  | getState => 4
  | sendCommand => 3
  | exec => 2
  | waiting => 1
  | woken => 0

def Point.rank : Point → Nat
  | settings => 23
  | disable => 17
  | enable => 10

def Stage.rank : Stage → Nat
  | begin => 41
  | configPorts => 40
  | change g c => g.rank + c.rank
  | setEncoding => 29
  | request k => k.rank + 5
  | call k => k.rank + 4
  | useBuffers => Point.enable.rank + 3
  | check k => k.rank + 2
  | waiting k => k.rank + 1
  | woken k => k.rank
  | portDefinition => 16
  | fillThisBuffer => 9
  | callback => 8
  | jobDone => 7
  | abortWaiting _ => 22
  | abortWoken _ => 21
  | teardown => 20
  | freeHandle => 3
  | removeSession => 2

theorem Session.changeState_rank {o : Outcome} {g : Goal} {c : ChangeStage} {q : Session} {st' : Stage}
    (h : p.changeState o g c = some (q, some st')) : st'.rank < (Stage.change g c).rank := by
  have hchanged : ∀ st₁, (p.changed g).2 = some st₁ → st₁.rank < g.rank := by
    intro st₁ h₁
    cases g <;> cases h₁ <;> decide
  have hunchanged : ∀ st₁, (p.unchanged g).2 = some st₁ → st₁.rank < g.rank := by
    intro st₁ h₁
    cases g <;> cases h₁ <;> decide
  have hlt : ∀ r : Session × Option Stage, (∀ st₁, r.2 = some st₁ → st₁.rank < g.rank) →
      some r = some (q, some st') → st'.rank < (Stage.change g c).rank := by
    intro r hr heq
    have h₁ := hr st' (congrArg Prod.snd (Option.some.inj heq))
    exact Nat.lt_of_lt_of_le h₁ (Nat.le_add_right _ _)
  cases c with
  | getState =>
    simp only [changeState] at h
    split at h
    · exact hlt _ hunchanged h
    split at h
    · exact hlt _ hchanged h
    · cases h
      exact Nat.lt_succ_self _
  | sendCommand =>
    simp only [changeState] at h
    split at h
    · cases h
      exact Nat.lt_succ_self _
    · exact hlt _ hunchanged h
  | exec =>
    simp only [changeState] at h
    split at h
    · exact hlt _ hunchanged h
    split at h
    · cases h
      exact Nat.lt_succ_self _
    · exact hlt _ hchanged h
  | waiting => cases h
  | woken => exact hlt _ hchanged h

theorem Session.readEvent_rank {k : Point} {st' : Stage} (h : (p.readEvent k).2 = some st') : st'.rank < k.rank := by
  cases k with
  | settings =>
    simp only [readEvent] at h
    split at h
    · cases h
      decide
    · cases h
  | disable =>
    cases h
    decide
  | enable =>
    simp only [readEvent] at h
    split at h
    · cases h
      decide
    · cases h

theorem Session.advance_rank {o : Outcome} {q : Session} {st' : Stage}
    (h : p.advance o st = some (q, some st')) : st'.rank < st.rank := by
  cases st with
  | begin =>
    obtain rfl := Option.some.inj (congrArg Prod.snd (Option.some.inj h))
    cases p.config <;> decide
  | configPorts =>
    simp only [advance] at h
    split at h
    · cases h
      decide
    · obtain rfl := Option.some.inj (congrArg Prod.snd (Option.some.inj h))
      cases o.ok <;> decide
  | change g c => exact changeState_rank h
  | setEncoding =>
    cases h
    decide
  | request k =>
    simp only [advance] at h
    split at h
    · cases h
    · cases h
      exact Nat.lt_succ_self _
  | call k =>
    have hst := congrArg Prod.snd (Option.some.inj h)
    cases k with
    | settings =>
      simp only [callOmx] at hst
      split at hst <;> cases hst <;> decide
    | disable =>
      simp only [callOmx] at hst
      split at hst <;> cases hst <;> decide
    | enable =>
      cases hst
      decide
  | check k =>
    simp only [advance] at h
    split at h
    · cases h
      exact Nat.lt_succ_self _
    · have hread := readEvent_rank (congrArg Prod.snd (Option.some.inj h))
      exact Nat.lt_of_lt_of_le hread (Nat.le_add_right _ _)
  | waiting k => cases h
  | woken k => exact readEvent_rank (congrArg Prod.snd (Option.some.inj h))
  | portDefinition =>
    obtain rfl := Option.some.inj (congrArg Prod.snd (Option.some.inj h))
    cases o.ok <;> decide
  | useBuffers =>
    obtain rfl := Option.some.inj (congrArg Prod.snd (Option.some.inj h))
    cases o.ok <;> decide
  | fillThisBuffer =>
    simp only [advance] at h
    split at h
    · cases h
    · cases h
      decide
  | abortWaiting d => cases h
  | abortWoken d =>
    have hst := congrArg Prod.snd (Option.some.inj h)
    cases d <;> cases hst
    decide
  | teardown =>
    obtain rfl := Option.some.inj (congrArg Prod.snd (Option.some.inj h))
    cases p.omxHandle <;> decide
  | freeHandle =>
    cases h
    decide
  | callback => cases h
  | jobDone => cases h
  | removeSession => cases h

def World.left (w : World) : Nat × Nat × Nat :=
  (w.jobQueue.length, w.lock.elim 0 (·.2.rank), w.jobSem)

theorem lock_rank_pos : 0 < st.rank := by
  cases st with
  | change g c =>
    have hg : 0 < g.rank := by cases g <;> decide
    exact Nat.lt_of_lt_of_le hg (Nat.le_add_right _ _)
  | woken k => cases k <;> decide
  | _ => exact Nat.succ_pos _

theorem threads_halt {e : Event} (he : (∃ o, e = .advance o) ∨ ∃ enq, e = .wake enq)
    (hw : Decode.step w e = some w') : Prod.Lex (· < ·) (Prod.Lex (· < ·) (· < ·)) w'.left w.left := by
  rcases he with ⟨o, rfl⟩ | ⟨enq, rfl⟩
  · have hrank : w'.jobQueue = w.jobQueue ∧ w'.lock.elim 0 (·.2.rank) < w.lock.elim 0 (·.2.rank) := by
      simp only [Decode.step, advance] at hw
      split at hw
      · cases hw
      · next hl =>
        cases hw
        rw [hl]
        refine ⟨?_, (by decide : Stage.jobDone.rank < Stage.callback.rank)⟩
        unfold callback
        dsimp only
        split <;> rfl
      · next hl =>
        cases hw
        rw [hl]
        refine ⟨?_, (by decide : 0 < Stage.jobDone.rank)⟩
        unfold jobDone removeOngoing
        dsimp only
        split <;> rfl
      · next hl =>
        cases hw
        rw [hl]
        exact ⟨rfl, (by decide : 0 < Stage.removeSession.rank)⟩
      · next s st _ _ _ hl =>
        split at hw
        · cases hw
        obtain ⟨⟨q, next⟩, hadv, rfl⟩ := Option.map_eq_some_iff.mp hw
        rw [hl]
        refine ⟨rfl, ?_⟩
        cases next with
        | none => exact lock_rank_pos
        | some st' => exact Session.advance_rank hadv
    unfold World.left
    rw [hrank.1]
    exact .right _ (.left _ _ hrank.2)
  · simp only [Decode.step, jobmgrWake] at hw
    split at hw
    · cases hw
    next hsem =>
    obtain ⟨hsem, -⟩ := not_or.mp hsem
    have hless : w.jobSem - 1 < w.jobSem := by omega
    split at hw
    · cases hw
      exact .right _ (.right _ hless)
    split at hw
    · cases hw
    split at hw
    · cases hw
      exact .right _ (.right _ hless)
    · next n rest hq =>
      cases hw
      have hqueue : (processDecodingJob enq n { w with jobSem := w.jobSem - 1, jobQueue := rest }).jobQueue = rest := by
        unfold processDecodingJob
        split
        · rfl
        split <;> rfl
      refine .left _ _ ?_
      show (World.jobQueue _).length < w.jobQueue.length
      rw [hqueue, hq]
      exact Nat.lt_succ_self _

/-- Between two events from outside the threads of the decoder take only so many steps, whatever the outcomes. -/
theorem threads_stop : WellFounded fun w' w =>
    ∃ e, ((∃ o, e = Event.advance o) ∨ ∃ enq, e = .wake enq) ∧ Decode.step w e = some w' := by
  have hlex := Nat.lt_wfRel.wf.prod_lex (Nat.lt_wfRel.wf.prod_lex Nat.lt_wfRel.wf)
  refine Subrelation.wf ?_ (InvImage.wf World.left hlex)
  rintro w' w ⟨e, he, hw⟩
  exact threads_halt he hw

instance (o : Outcome) (p : Session) : ∀ st, Decidable (p.Follows o st)
  | .call .enable => inferInstanceAs (Decidable (o.ok = true))
  | .check .settings => inferInstanceAs (Decidable (_ = false → (_ ↔ _)))
  | .woken .settings => inferInstanceAs (Decidable (_ ↔ _))
  | .check .enable => inferInstanceAs (Decidable (_ = false → (_ ↔ _)))
  | .woken .enable => inferInstanceAs (Decidable (_ ↔ _))
  | .begin | .configPorts | .change _ _ | .setEncoding | .request _ | .call .settings | .call .disable
  | .check .disable | .waiting _ | .woken .disable | .portDefinition | .useBuffers | .fillThisBuffer | .callback
  | .jobDone | .abortWaiting _ | .abortWoken _ | .teardown | .freeHandle | .removeSession => isTrue trivial

instance (w : World) : ∀ e, Decidable (Sound w e)
  | .startDecodeJob job _ _ => inferInstanceAs (Decidable ((w.session (slotOf job.sessionId)).decParams.jpegCb = true))
  | .abortJob id =>
    inferInstanceAs (Decidable ((∃ n ∈ w.jobQueue, n.jobId = id) ∨ ∀ n ∈ w.ongoingJobQ, n.jobId ≠ id))
  | .destroySession id => inferInstanceAs (Decidable (∀ s ∈ getSession id, _ ∧ _ ∧ ∀ n ∈ w.jobQueue, n.slot ≠ s))
  | .wake enq => inferInstanceAs (Decidable (∀ n ∈ w.takesUp, enq = true ∧ ∀ m ∈ w.ongoingJobQ, m.slot ≠ n.slot))
  | .advance o => inferInstanceAs (Decidable (∀ x ∈ w.lock, (w.session x.1).Follows o x.2))
  | .fbd s => inferInstanceAs (Decidable (.fillThisBuffer ∈ (w.session s).owed))
  | .omxEvent s .error => inferInstanceAs (Decidable (∀ x ∈ w.lock, x.1 = s → (w.session s).stops x.2 = true))
  | .createSession _ _ _ | .spurious | .omxEvent _ (.cmdComplete _) | .omxEvent _ .portSettingsChanged
  | .omxEvent _ .other => isTrue trivial

/-- In every run whose steps keep clear of the lost events and of the callbacks that come twice each job is answered
once; and `mm_jpegdec_create_session` returns 0 without a session unless it can create one. -/
theorem jobs_answered_once {es : List Event} (hs : Runs.Along step Sound {} es)
    (hw : Runs.play step {} es = some w) :
    Answered w ∧ ∀ hdl params getHandle, let r := createSession hdl params getHandle w
      (r.2.1 = 0 → Names r.1 r.2.2) ↔ Creates hdl params getHandle w := by
  have h : Inv w := Runs.play_invariant (fun _ _ _ hi hp hstep => hi.step hp hstep) Inv.init hs hw
  exact ⟨h.answered_once, fun hdl params getHandle => createSession_names⟩

def oneJob : List Event :=
  [.createSession 256 { numSrcBufs := 1, numDstBufs := 1, jpegCb := true } true,
    .startDecodeJob { sessionId := 16777216 } true true, .wake true, .advance {},
    -- the component is idle already, and then executing
    .advance {}, .advance { inState := true }, .advance { inState := true }, .advance {}, .advance {}, .advance {}]

def decodedJob : List Event :=
  oneJob ++ [.advance {}, .omxEvent ⟨0, 0⟩ .portSettingsChanged, .advance {}, .advance {}, .advance {},
    .omxEvent ⟨0, 0⟩ (.cmdComplete .portDisable), .advance {}, .advance {}, .advance {}, .advance {}, .advance {},
    .advance {}, .omxEvent ⟨0, 0⟩ (.cmdComplete .portEnable), .advance {}, .advance {}, .fbd ⟨0, 0⟩]

theorem jobs_answered_once_decoded : ∃ w, Runs.play step {} decodedJob = some w ∧
    (w.answers.map (·.serial)).count 0 = 1 ∧ Answered w ∧ ∀ hdl params getHandle,
      let r := createSession hdl params getHandle w
      (r.2.1 = 0 → Names r.1 r.2.2) ↔ Creates hdl params getHandle w :=
  ⟨_, rfl, rfl, @jobs_answered_once _ decodedJob (by decide) rfl⟩

/-- The error event comes before the thread looks for it: the job is answered, and the thread waits for good. -/
theorem error_event_missed :
    ¬ ∀ (es : List Event) (w : World), Runs.play step {} es = some w → Answered w := by
  intro h
  have hs := h (oneJob ++ [.omxEvent ⟨0, 0⟩ .error, .advance {}]) _ rfl
  have howed := hs.waits ⟨0, 0⟩ (.waiting .settings) .emptyThisBuffer rfl rfl
  exact absurd howed (by decide)

end Jpeg.Decode
