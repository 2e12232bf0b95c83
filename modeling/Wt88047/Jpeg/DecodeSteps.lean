import Wt88047.Jpeg.DecodeRuns

/-! Each step that keeps clear of the lost events keeps every decode job in one place, until one callback answers it. -/

namespace Jpeg.Decode

variable {w w' : World} {s t : Slot} {p : Session} {st : Stage}

theorem Inv.found (h : Inv w) (hb : w.busy s) :
    ∃ n, w.ongoingJobQ.find? (·.jobId = (w.session s).jobId) = some n ∧ n.slot = s ∧
      (w.session s).decodeJob.serial = n.job.serial ∧ (w.session s).decParams.jpegCb = true := by
  obtain ⟨m, hm, rfl⟩ := List.mem_map.mp hb
  obtain ⟨hid, hserial⟩ := h.bound m hm
  cases hf : w.ongoingJobQ.find? (·.jobId = (w.session m.slot).jobId) with
  | none =>
    have hnone := List.find?_eq_none.mp hf m hm
    simp [hid] at hnone
  | some n =>
    have hn := List.mem_of_find?_eq_some hf
    have hjob : n.jobId = (w.session m.slot).jobId := by simpa using List.find?_some hf
    have hslot : n.slot = m.slot := congrArg slotOf (hjob.trans hid)
    have hb := h.bound n hn
    rw [hslot] at hb
    exact ⟨n, rfl, hslot, hb.2, (h.jobs m (.inr hm)).2.2.2⟩

theorem jobDone_callback {n : JobNode} {status : JobStatus} (hs : n.slot = s) (hk : (w.session s).Keeps p)
    (hfind : w.ongoingJobQ.find? (·.jobId = (w.session s).jobId) = some n)
    (hcb : (w.session s).decParams.jpegCb = true) :
    jobDone s (callback status s (w.setSession s p)) =
      w.finished n (w.ongoingJobQ.eraseP (·.jobId = (w.session s).jobId))
        (w.answers ++ [⟨(w.session s).decodeJob.serial, (w.session s).jobId, status⟩])
        { p with encoding := false } w.lock := by
  have hp : (w.setSession s p).session s = p := if_pos rfl
  have hcalled : callback status s (w.setSession s p) = { w.setSession s p with
      answers := w.answers ++ [⟨(w.session s).decodeJob.serial, (w.session s).jobId, status⟩] } := by
    unfold callback
    simp only [hp, hk.decParams, hcb, if_true, hk.decodeJob, hk.jobId]
    rfl
  rw [hcalled]
  unfold jobDone removeOngoing
  simp only [hp, hk.jobId]
  rw [show (w.setSession s p).ongoingJobQ = w.ongoingJobQ from rfl, hfind]
  subst hs
  simp only [World.onSession, World.setSession, World.finished, World.moved, if_true]
  congr 1
  funext t
  by_cases ht : t = n.slot <;> simp [ht, hk.jobId]

theorem Inv.answers_count (h : Inv w) {n : JobNode} {a : Answer} {lock : Option (Slot × Stage)}
    (hserial : a.serial = n.job.serial) (hcalled : (w.moved s p lock).called = w.called) (j : Nat) :
    ((w.answers ++ [a]).map (·.serial)).count j =
      w.removed.count j + [n.job.serial].count j + (w.moved s p lock).called.count j := by
  have hj := h.answered j
  rw [hcalled, List.map_append, List.count_append, hj, List.map_singleton, hserial]
  omega

theorem Inv.fbd (h : Inv w) (hs : .fillThisBuffer ∈ (w.session s).owed) (hw : fbd s w = some w') : Inv w' := by
  obtain ⟨he, hnot⟩ := h.filled s hs
  have hb := h.encodes s he
  obtain ⟨hhandle, habort⟩ := h.busy_ready hb
  obtain ⟨n, hfind, hslot, hserial, hcb⟩ := h.found hb
  have hk : (w.session s).Keeps ((w.session s).answer .fillThisBuffer) := ⟨rfl, rfl, rfl, rfl⟩
  simp only [Decode.fbd, hhandle, habort, hcb, Bool.not_true, Bool.false_eq_true, if_false, ne_eq,
    not_true_eq_false, if_true, jobDone_callback hslot hk hfind hcb, Option.some.injEq] at hw
  rw [← hw]
  have hfree : ∀ st, w.lock ≠ some (s, st) := fun st hl => by
    cases hby : st.byJobmgr with
    | true => exact hnot ⟨st, hl, hby⟩
    | false => exact h.destroys_idle ⟨st, hl, hby⟩ hb
  subst hslot
  refine h.finished (Pool.perm_cons_eraseP_of_find? hfind) ⟨rfl, rfl, rfl, rfl⟩ rfl rfl rfl ?_ ?_ ?_ ?_ ?_ ?_
  · show .fillThisBuffer ∉ (w.session n.slot).owed.filter (· ≠ .fillThisBuffer)
    simp
  · exact fun t _ st => Iff.rfl
  · exact fun hworks => hworks
  · exact Iff.rfl
  · exact h.answers_count hserial (called_kept rfl)
  · exact fun st hl => absurd hl (hfree st)

theorem fill_mem_hear {e : OmxEvent} (he : e ≠ .error) :
    .fillThisBuffer ∈ (p.hear e).owed ↔ .fillThisBuffer ∈ p.owed := by
  cases e with
  | error => exact absurd rfl he
  | cmdComplete c => simp [Session.hear, Session.answer]
  | portSettingsChanged => simp [Session.hear, Session.answer]
  | other => rfl

theorem Inv.noted (h : Inv w) {q : Session} {lock : Option (Slot × Stage)} (hk : (w.session s).Keeps q)
    (henc : q.encoding = (w.session s).encoding) (hhandle : q.omxHandle = (w.session s).omxHandle)
    (habort : q.abortState = (w.session s).abortState)
    (hfill : .fillThisBuffer ∈ q.owed ↔ .fillThisBuffer ∈ (w.session s).owed)
    (hlock : lock = w.lock ∨ lock = (w.signal s).lock)
    (hfits : ∀ st, lock = some (s, st) → q.Fits s (w.busy s) st) : Inv (w.moved s q lock) := by
  have hsame : SameLock s lock w.lock := by
    rcases hlock with rfl | rfl
    · exact fun t _ st => Iff.rfl
    · exact sameLock_signal
  have hworks : (w.moved s q lock).works s ↔ w.works s := by
    rcases hlock with rfl | rfl
    · exact Iff.rfl
    · exact works_signal
  have hdestroys : (w.moved s q lock).destroys s ↔ w.destroys s := by
    rcases hlock with rfl | rfl
    · exact Iff.rfl
    · exact destroys_signal
  have hcalled : (w.moved s q lock).called = w.called := by
    rcases hlock with rfl | rfl
    · exact called_kept hk.decodeJob
    · exact called_signal hk.decodeJob
  apply h.moved hk hsame hdestroys hcalled
  · exact fun he => h.encodes s (henc.symm.trans he)
  · intro hf
    rw [henc, hworks]
    exact h.filled s (hfill.mp hf)
  · intro hb
    rw [hworks, hfill]
    exact h.held s hb
  · intro ha hnot
    rw [hhandle, habort]
    exact h.ready s (hk.active.symm.trans ha) hnot
  · rw [habort]
    exact h.calm s
  · exact fun hw => hk.active.trans (h.works_active s (hworks.mp hw))
  · exact hfits

theorem of_signal_lock (hl : (w.signal s).lock = some (s, st)) :
    ∃ st', w.lock = some (s, st') ∧ st = st'.wake := by
  obtain ⟨x, hx, heq⟩ := Option.map_eq_some_iff.mp hl
  split at heq
  · next hs =>
    cases heq
    exact ⟨x.2, by rw [hx, ← hs], rfl⟩
  · next hs =>
    cases heq
    exact absurd rfl hs

theorem Inv.eventHandler_ends (h : Inv w) (he : (w.session s).encoding = true)
    (hs : ∀ st, w.lock = some (s, st) → (w.session s).stops st = true) :
    Inv ((jobDone s (callback .error s (w.setSession s ((w.session s).hear .error)))).signal s) := by
  have hb := h.encodes s he
  obtain ⟨n, hfind, hslot, hserial, hcb⟩ := h.found hb
  have hk : (w.session s).Keeps ((w.session s).hear .error) := ⟨rfl, rfl, rfl, rfl⟩
  rw [jobDone_callback hslot hk hfind hcb]
  subst hslot
  show Inv (w.finished n _ _ _ (w.signal n.slot).lock)
  refine h.finished (Pool.perm_cons_eraseP_of_find? hfind) ⟨rfl, rfl, rfl, rfl⟩ rfl rfl rfl nofun
    sameLock_signal works_signal.mp destroys_signal ?_ ?_
  · exact h.answers_count hserial (called_signal rfl)
  · intro st hl
    obtain ⟨st', hl', rfl⟩ := of_signal_lock hl
    exact (h.fits n.slot st' hl').ended (hs st' hl') he

theorem Inv.eventHandler (h : Inv w) {e : OmxEvent} (hs : Sound w (.omxEvent s e))
    (hw : eventHandler s e w = some w') : Inv w' := by
  have hcalm := h.calm s
  unfold Decode.eventHandler at hw
  simp only [hcalm, ne_eq, not_false_eq_true, true_and] at hw
  split at hw
  · cases hw
  have hnote : ((w.session s).hear e).abortState ≠ .init := by cases e <;> exact hcalm
  cases e with
  | error =>
    have hsame : ((w.session s).hear .error).note .error = (w.session s).hear .error := if_neg hnote
    have hstops : ∀ st, w.lock = some (s, st) → (w.session s).stops st = true := fun st hl => hs (s, st) hl rfl
    simp only [hsame, true_and, reduceCtorEq, if_false, Option.some.injEq] at hw
    rw [← hw]
    by_cases he : (w.session s).encoding = true
    · rw [if_pos he]
      exact h.eventHandler_ends he hstops
    · rw [if_neg he]
      have hnot : .fillThisBuffer ∉ (w.session s).owed := fun hf => he (h.filled s hf).1
      refine h.noted ⟨rfl, rfl, rfl, rfl⟩ rfl rfl rfl ⟨nofun, fun hf => absurd hf hnot⟩ (.inr rfl) ?_
      intro st hl
      obtain ⟨st', hl', rfl⟩ := of_signal_lock hl
      exact (h.fits s st' hl').error (hstops st' hl') (by simpa using he)
  | other =>
    have hsame : ((w.session s).hear .other).note .other = (w.session s).hear .other := if_neg hnote
    simp only [hsame, reduceCtorEq, false_and, if_false, if_true, Option.some.injEq] at hw
    rw [← hw]
    refine h.noted ⟨rfl, rfl, rfl, rfl⟩ rfl rfl rfl Iff.rfl (.inl rfl) fun st hl => ?_
    have hf := h.fits s st hl
    cases st <;> exact hf
  | cmdComplete c =>
    simp only [Session.note, hnote, reduceCtorEq, false_and, if_false, Option.some.injEq] at hw
    rw [← hw]
    have hfill := @fill_mem_hear (w.session s) (.cmdComplete c) nofun
    refine h.noted ⟨rfl, rfl, rfl, rfl⟩ rfl rfl rfl hfill (.inr rfl) fun st hl => ?_
    obtain ⟨st', hl', rfl⟩ := of_signal_lock hl
    exact (h.fits s st' hl').wake rfl rfl rfl rfl rfl nofun
  | portSettingsChanged =>
    simp only [Session.note, hnote, reduceCtorEq, false_and, if_false, Option.some.injEq] at hw
    rw [← hw]
    have hfill := @fill_mem_hear (w.session s) .portSettingsChanged nofun
    refine h.noted ⟨rfl, rfl, rfl, rfl⟩ rfl rfl rfl hfill (.inr rfl) fun st hl => ?_
    obtain ⟨st', hl', rfl⟩ := of_signal_lock hl
    exact (h.fits s st' hl').wake rfl rfl rfl rfl rfl fun hp =>
      ⟨hp, fun hm => by simpa [Session.hear, Session.answer] using hm⟩

theorem Inv.called_back (h : Inv w) (hl : w.lock = some (s, .callback)) :
    Inv { callback .error s w with lock := some (s, .jobDone) } := by
  have hb : w.busy s := h.fits s .callback hl
  obtain ⟨n, -, -, -, hcb⟩ := h.found hb
  have hcalled : callback .error s w = { w with
      answers := w.answers ++ [⟨(w.session s).decodeJob.serial, (w.session s).jobId, .error⟩] } := by
    unfold callback
    rw [if_pos hcb]
  rw [hcalled]
  have hworks : ∀ t, (∃ st, some (s, Stage.jobDone) = some (t, st) ∧ st.byJobmgr = true) ↔ w.works t := by
    intro t
    constructor
    · rintro ⟨_, ⟨⟩, -⟩
      exact ⟨.callback, hl, rfl⟩
    · rintro ⟨st, hst, -⟩
      rw [hl] at hst
      cases hst
      exact ⟨.jobDone, rfl, rfl⟩
  have hfree : ∀ t, ¬ w.destroys t := fun t => World.works.not_destroys ⟨.callback, hl, rfl⟩
  have hnone : ∀ t, ¬ ∃ st, some (s, Stage.jobDone) = some (t, st) ∧ st.byJobmgr = false := by
    rintro t ⟨_, ⟨⟩, hby⟩
    cases hby
  constructor
  case places => exact h.places
  case answered =>
    intro j
    have hj := h.answered j
    rw [called_of_ne hl nofun] at hj
    show ((w.answers ++ [(⟨(w.session s).decodeJob.serial, (w.session s).jobId, .error⟩ : Answer)]).map
      (·.serial)).count j = w.removed.count j + [(w.session s).decodeJob.serial].count j
    rw [List.map_append, List.count_append, hj]
    rfl
  case jobs => exact fun m hm => ⟨(h.jobs m hm).1, hnone m.slot, (h.jobs m hm).2.2⟩
  case bound => exact h.bound
  case apart => exact h.apart
  case held => exact fun t ht => (h.held t ht).imp (hworks t).mpr id
  case encodes => exact h.encodes
  case filled => exact fun t hf => ⟨(h.filled t hf).1, fun hw => (h.filled t hf).2 ((hworks t).mp hw)⟩
  case ready => exact fun t ha _ => h.ready t ha (hfree t)
  case calm => exact h.calm
  case works_active => exact fun t hw => h.works_active t ((hworks t).mp hw)
  case fits =>
    rintro t st ⟨⟩
    exact hb
  case awake => exact h.awake

theorem Inv.job_done (h : Inv w) (hl : w.lock = some (s, .jobDone)) : Inv { jobDone s w with lock := none } := by
  have hb : w.busy s := h.fits s .jobDone hl
  obtain ⟨n, hfind, hslot, hserial, -⟩ := h.found hb
  have hdone : ({ jobDone s w with lock := none } : World) =
      w.finished n (w.ongoingJobQ.eraseP (·.jobId = (w.session s).jobId)) w.answers
        { w.session s with encoding := false } none := by
    unfold jobDone removeOngoing
    rw [hfind, ← hslot]
    rfl
  rw [hdone]
  subst hslot
  have hnone : ∀ {P : Stage → Prop}, ¬ ∃ st, (none : Option (Slot × Stage)) = some (n.slot, st) ∧ P st := by
    rintro P ⟨st, hst, -⟩
    cases hst
  have hlock : SameLock n.slot none w.lock := @sameLock_of_lock w n.slot .jobDone none hl
  refine h.finished (Pool.perm_cons_eraseP_of_find? hfind) ⟨rfl, rfl, rfl, rfl⟩ rfl rfl rfl (h.unfilled hl) hlock
    (fun hw => absurd hw hnone) ?_ ?_ nofun
  · rw [destroys_of_lock hl]
    exact ⟨fun hd => absurd hd hnone, nofun⟩
  · intro j
    have hj := h.answered j
    have hcalled : w.called = [n.job.serial] := by
      unfold World.called
      rw [hl, ← hserial]
    rw [hcalled] at hj
    exact hj.trans (Nat.add_zero _).symm

theorem Inv.removed_session (h : Inv w) (hl : w.lock = some (s, .removeSession)) :
    Inv { w.onSession (slotOf (w.session s).sessionId) fun p => { p with active := false } with
      jobSem := w.jobSem + 1
      lock := none } := by
  obtain ⟨henc, hid⟩ := h.fits s .removeSession hl
  rw [hid]
  have hd : w.destroys s := ⟨.removeSession, hl, rfl⟩
  have hmoved : Inv (w.moved s { w.session s with active := false } none) := by
    have hlock : SameLock s none w.lock := @sameLock_of_lock w s .removeSession none hl
    refine h.vacant hlock (called_of_ne hl nofun).symm ?_ henc (h.unfilled hl) nofun (h.calm s) ?_ nofun
    · rintro n hn rfl
      exact (h.jobs n hn).2.1 hd
    · rintro ⟨st, hst, -⟩
      cases hst
  exact hmoved.post

theorem Inv.advance (h : Inv w) {o : Outcome} (hs : Sound w (.advance o)) (hw : advance o w = some w') : Inv w' := by
  unfold Decode.advance at hw
  split at hw
  · cases hw
  · next hl =>
    cases hw
    exact h.called_back hl
  · next hl =>
    cases hw
    exact h.job_done hl
  · next hl =>
    cases hw
    exact h.removed_session hl
  · next s st hne hne' hne'' hl =>
    split at hw
    · cases hw
    obtain ⟨⟨q, next⟩, hadv, rfl⟩ := Option.map_eq_some_iff.mp hw
    have hwent := Session.advance_went (h.fits s st hl) (hs (s, st) hl) (h.encodes s) (h.unfilled hl)
      (fun hby => (h.works_ready ((works_of_lock hl).mpr hby)).2) hadv
    exact h.went hl hne' hwent

theorem Inv.spurious (h : Inv w) : Inv { w with lock := w.lock.map fun x => (x.1, x.2.wake) } := by
  cases hl : w.lock with
  | none =>
    have hsame : ({ w with lock := none } : World) = w := by rw [← hl]
    exact hsame ▸ h
  | some x =>
    obtain ⟨s, st⟩ := x
    have hsignal : (w.signal s).lock = some (s, st.wake) := signal_lock_self hl
    have hself : ({ w with lock := some (s, st.wake) } : World) = w.moved s (w.session s) (w.signal s).lock := by
      rw [hsignal]
      unfold World.moved World.setSession
      congr 1
      funext t
      by_cases ht : t = s <;> simp [ht]
    show Inv { w with lock := some (s, st.wake) }
    rw [hself]
    refine h.noted Session.Keeps.rfl rfl rfl rfl Iff.rfl (.inr rfl) fun st' hl' => ?_
    rw [hsignal] at hl'
    cases hl'
    exact (h.fits s st hl).spurious

def World.takenUp (w : World) (n : JobNode) (rest : List JobNode) : World :=
  { w.onSession n.slot fun p => { p with decodeJob := n.job, jobId := n.jobId, silent := false } with
    jobQueue := rest
    jobSem := w.jobSem - 1
    ongoingJobQ := w.ongoingJobQ ++ [n]
    lock := some (n.slot, .begin) }

theorem not_works_of_unlocked (hl : w.lock = none) : ¬ w.works s := by
  rintro ⟨st, hst, -⟩
  rw [hl] at hst
  cases hst

theorem not_destroys_of_unlocked (hl : w.lock = none) : ¬ w.destroys s := by
  rintro ⟨st, hst, -⟩
  rw [hl] at hst
  cases hst

theorem Inv.takenUp (h : Inv w) {n : JobNode} {rest : List JobNode} (hq : w.jobQueue = n :: rest)
    (hl : w.lock = none) (hlen : w.ongoingJobQ.length < maxConcurrentJobs)
    (hapart : ∀ m ∈ w.ongoingJobQ, m.slot ≠ n.slot) : Inv (w.takenUp n rest) := by
  obtain ⟨hvalid, hnot, hact, hcb⟩ := h.jobs n (.inl (by rw [hq]; exact List.mem_cons_self ..))
  have hidle : ¬ w.busy n.slot := fun hb => by
    obtain ⟨m, hm, heq⟩ := List.mem_map.mp hb
    exact hapart m hm heq
  have henc : (w.session n.slot).encoding = false := by
    simpa using fun he => hidle (h.encodes n.slot he)
  have hmem : ∀ m, m ∈ rest ∨ m ∈ w.ongoingJobQ ++ [n] → m ∈ w.jobQueue ∨ m ∈ w.ongoingJobQ := by
    rw [hq]
    rintro m (hm | hm)
    · exact .inl (List.mem_cons_of_mem n hm)
    · rcases List.mem_append.mp hm with hm | hm
      · exact .inr hm
      · rw [List.mem_singleton.mp hm]
        exact .inl (List.mem_cons_self ..)
  have hself : (w.takenUp n rest).session n.slot =
      { w.session n.slot with decodeJob := n.job, jobId := n.jobId, silent := false } := if_pos rfl
  have hother : ∀ t, t ≠ n.slot → (w.takenUp n rest).session t = w.session t := fun t ht => if_neg ht
  have hworks : (w.takenUp n rest).works n.slot := ⟨.begin, rfl, rfl⟩
  have hfree : ∀ t, ¬ (w.takenUp n rest).destroys t := fun t => hworks.not_destroys
  have hworks_ne : ∀ t, t ≠ n.slot → ¬ (w.takenUp n rest).works t := by
    rintro t ht ⟨_, ⟨⟩, -⟩
    exact ht rfl
  have hbusy : (w.takenUp n rest).busy n.slot :=
    List.mem_map.mpr ⟨n, List.mem_append_right _ (List.mem_singleton.mpr rfl), rfl⟩
  have hbusy_ne : ∀ t, t ≠ n.slot → ((w.takenUp n rest).busy t ↔ w.busy t) := by
    intro t ht
    show t ∈ (w.ongoingJobQ ++ [n]).map JobNode.slot ↔ _
    rw [List.map_append, List.mem_append, List.map_singleton, List.mem_singleton]
    exact or_iff_left ht
  constructor
  case places =>
    intro j
    have hj := h.places j
    rw [hq, List.map_cons, List.count_cons] at hj
    show (rest.map (·.job.serial)).count j + ((w.ongoingJobQ ++ [n]).map (·.job.serial)).count j +
      w.removed.count j + w.aborted.count j = if j < w.accepted then 1 else 0
    rw [List.map_append, List.count_append, List.map_singleton, List.count_singleton, ← hj]
    omega
  case answered =>
    intro j
    have hj := h.answered j
    rw [show w.called = [] by unfold World.called; rw [hl]] at hj
    exact hj
  case jobs =>
    intro m hm
    obtain ⟨hvalid', -, hact', hcb'⟩ := h.jobs m (hmem m hm)
    by_cases ht : m.slot = n.slot
    · rw [ht, hself]
      exact ⟨hvalid', hfree _, hact, hcb⟩
    · rw [hother m.slot ht]
      exact ⟨hvalid', hfree _, hact', hcb'⟩
  case bound =>
    intro m hm
    rcases List.mem_append.mp hm with hm | hm
    · rw [hother m.slot (hapart m hm)]
      exact h.bound m hm
    · rw [List.mem_singleton.mp hm, hself]
      exact ⟨rfl, rfl⟩
  case apart =>
    show ((w.ongoingJobQ ++ [n]).map JobNode.slot).Nodup
    rw [List.map_append, List.map_singleton]
    exact List.nodup_append.mpr ⟨h.apart, List.nodup_singleton _, fun a ha b hb heq => hidle (by
      rw [List.mem_singleton.mp hb] at heq
      exact heq ▸ ha)⟩
  case held =>
    intro t hb
    by_cases ht : t = n.slot
    · exact .inl (ht ▸ hworks)
    · rw [hother t ht]
      exact .inr ((h.held t ((hbusy_ne t ht).mp hb)).resolve_left (not_works_of_unlocked hl))
  case encodes =>
    intro t he
    by_cases ht : t = n.slot
    · exact ht ▸ hbusy
    · rw [hother t ht] at he
      exact (hbusy_ne t ht).mpr (h.encodes t he)
  case filled =>
    intro t hf
    by_cases ht : t = n.slot
    · rw [ht, hself] at hf
      exact absurd (henc.symm.trans (h.filled n.slot hf).1) nofun
    · rw [hother t ht] at hf ⊢
      exact ⟨(h.filled t hf).1, hworks_ne t ht⟩
  case ready =>
    intro t ha _
    by_cases ht : t = n.slot
    · rw [ht, hself]
      exact h.ready n.slot hact hnot
    · rw [hother t ht] at ha ⊢
      exact h.ready t ha (not_destroys_of_unlocked hl)
  case calm =>
    intro t
    by_cases ht : t = n.slot
    · rw [ht, hself]
      exact h.calm n.slot
    · rw [hother t ht]
      exact h.calm t
  case works_active =>
    intro t hw
    by_cases ht : t = n.slot
    · rw [ht, hself]
      exact hact
    · exact absurd hw (hworks_ne t ht)
  case fits =>
    rintro t st ⟨⟩
    rw [hself]
    exact ⟨hbusy, henc, rfl⟩
  case awake =>
    have hwake := h.awake
    rw [hq, List.length_cons] at hwake
    show min rest.length (maxConcurrentJobs - (w.ongoingJobQ ++ [n]).length) ≤ w.jobSem - 1
    rw [List.length_append, List.length_singleton]
    omega

theorem Inv.wake (h : Inv w) {enq : Bool} (hs : Sound w (.wake enq)) (hw : jobmgrWake enq w = some w') : Inv w' := by
  unfold jobmgrWake at hw
  split at hw
  · cases hw
  next hsem =>
  obtain ⟨hsem, -⟩ := not_or.mp hsem
  have hwake := h.awake
  have hless : min w.jobQueue.length (maxConcurrentJobs - w.ongoingJobQ.length) ≤ w.jobSem - 1 →
      Inv { w with jobSem := w.jobSem - 1 } := fun hle =>
    ⟨h.places, h.answered, h.jobs, h.bound, h.apart, h.held, h.encodes, h.filled, h.ready, h.calm, h.works_active,
      h.fits, hle⟩
  split at hw
  · next hfull =>
    cases hw
    exact hless (by omega)
  next hfull =>
  split at hw
  · cases hw
  next hl =>
  have hl : w.lock = none := by simpa using hl
  split at hw
  · next hq =>
    cases hw
    apply hless
    rw [hq]
    simp
  · next n rest hq =>
    cases hw
    have htakes : w.takesUp = some n := by
      unfold World.takesUp
      rw [if_neg (by simp [hsem, hl, hfull]), hq]
      rfl
    obtain ⟨rfl, hapart⟩ := hs n htakes
    have hvalid := (h.jobs n (.inl (by rw [hq]; exact List.mem_cons_self ..))).1
    have hslot : getSession n.jobId = some n.slot := if_pos hvalid
    unfold processDecodingJob
    rw [hslot]
    exact h.takenUp hq hl (by omega) hapart

theorem validIdx_congr {i j : Nat} (h : slotOf i = slotOf j) : validIdx i = validIdx j := by
  have hclient : getClientIdx i = getClientIdx j := congrArg Slot.client h
  have hidx : getSessionIdx i = getSessionIdx j := congrArg Slot.idx h
  unfold validIdx
  rw [hclient, hidx]

theorem not_destroys_of_outside (hc : w.clientInside = false) : ¬ w.destroys s := by
  rintro ⟨st, hst, hby⟩
  simp [World.clientInside, hst, hby] at hc

theorem Inv.queued (h : Inv w) {n : JobNode} (hserial : n.job.serial = w.accepted) (hvalid : validIdx n.jobId = true)
    (hnot : ¬ w.destroys n.slot) (hact : (w.session n.slot).active = true)
    (hcb : (w.session n.slot).decParams.jpegCb = true) :
    Inv { w with jobQueue := w.jobQueue ++ [n], jobSem := w.jobSem + 1, accepted := w.accepted + 1 } where
  places j := by
    have hj := h.places j
    show ((w.jobQueue ++ [n]).map (·.job.serial)).count j + (w.ongoingJobQ.map (·.job.serial)).count j +
      w.removed.count j + w.aborted.count j = if j < w.accepted + 1 then 1 else 0
    rw [List.map_append, List.count_append, List.map_singleton, List.count_singleton, hserial]
    rcases Nat.lt_trichotomy j w.accepted with hlt | rfl | hgt
    · rw [if_pos hlt] at hj
      rw [if_neg (by simpa using hlt.ne'), if_pos (by omega)]
      omega
    · rw [if_neg (Nat.lt_irrefl _)] at hj
      rw [if_pos (by simp), if_pos (by omega)]
      omega
    · rw [if_neg (by omega)] at hj
      rw [if_neg (by simpa using hgt.ne), if_neg (by omega)]
      omega
  answered := h.answered
  jobs m hm := by
    rcases hm with hm | hm
    · rcases List.mem_append.mp hm with hm | hm
      · exact h.jobs m (.inl hm)
      · rw [List.mem_singleton.mp hm]
        exact ⟨hvalid, hnot, hact, hcb⟩
    · exact h.jobs m (.inr hm)
  bound := h.bound
  apart := h.apart
  held := h.held
  encodes := h.encodes
  filled := h.filled
  ready := h.ready
  calm := h.calm
  works_active := h.works_active
  fits := h.fits
  awake := by
    have hwake := h.awake
    show min (w.jobQueue ++ [n]).length (maxConcurrentJobs - w.ongoingJobQ.length) ≤ w.jobSem + 1
    rw [List.length_append, List.length_singleton]
    omega

theorem Inv.startDecodeJob (h : Inv w) {job : DecodeJob} {node enq : Bool} (hc : w.clientInside = false)
    (hs : Sound w (.startDecodeJob job node enq)) : Inv (startDecodeJob job node enq w).1 := by
  unfold Decode.startDecodeJob
  split
  · exact h
  next hvalid =>
  dsimp only
  split
  · exact h
  next hact =>
  split
  · exact h
  split
  · exact h
  have hcount : Inv (w.onSession (slotOf job.sessionId) fun p => { p with jobHist := (p.jobHist + 1) % 2 ^ 32 }) := by
    show Inv (w.moved _ _ w.lock)
    refine h.noted ⟨rfl, rfl, rfl, rfl⟩ rfl rfl rfl Iff.rfl (.inl rfl) fun st hl => ?_
    have hf := h.fits _ st hl
    cases st <;> exact hf
  split
  · exact hcount
  have hslot : slotOf (packJob job.sessionId (w.session (slotOf job.sessionId)).jobHist) = slotOf job.sessionId :=
    slotOf_packJob _ _
  have hactive : (w.session (slotOf job.sessionId)).active = true := by simpa using hact
  refine hcount.queued rfl ?_ ?_ ?_ ?_
  · rw [validIdx_congr hslot]
    simpa using hvalid
  all_goals
    simp only [JobNode.slot, hslot]
  · exact not_destroys_of_outside hc
  · exact (congrArg Session.active (if_pos rfl)).trans hactive
  · exact (congrArg (fun p : Session => p.decParams.jpegCb) (if_pos rfl)).trans hs

theorem Inv.aborted (h : Inv w) {n : JobNode} {id : Nat} (hfind : w.jobQueue.find? (·.jobId = id) = some n) :
    Inv { w with jobQueue := w.jobQueue.eraseP (·.jobId = id), aborted := w.aborted ++ [n.job.serial] } where
  places j := by
    have hj := h.places j
    have hperm := Pool.perm_cons_eraseP_of_find? hfind
    rw [(hperm.map (·.job.serial)).count_eq, List.map_cons, List.count_cons] at hj
    show ((w.jobQueue.eraseP (·.jobId = id)).map (·.job.serial)).count j +
      (w.ongoingJobQ.map (·.job.serial)).count j + w.removed.count j +
      (w.aborted ++ [n.job.serial]).count j = if j < w.accepted then 1 else 0
    rw [List.count_append, List.count_singleton, ← hj]
    omega
  answered := h.answered
  jobs m hm := h.jobs m (hm.imp List.mem_of_mem_eraseP fun hm => hm)
  bound := h.bound
  apart := h.apart
  held := h.held
  encodes := h.encodes
  filled := h.filled
  ready := h.ready
  calm := h.calm
  works_active := h.works_active
  fits := h.fits
  awake := by
    have hwake := h.awake
    have hlen := (Pool.perm_cons_eraseP_of_find? hfind).length_eq
    rw [List.length_cons] at hlen
    show min (w.jobQueue.eraseP (·.jobId = id)).length (maxConcurrentJobs - w.ongoingJobQ.length) ≤ w.jobSem
    omega

theorem Inv.abortJob (h : Inv w) {id : Nat} (hs : Sound w (.abortJob id)) : Inv (abortJob id w) := by
  unfold Decode.abortJob
  split
  · next n hfind => exact h.aborted hfind
  · next hnone =>
    have hongoing : w.ongoingJobQ.find? (·.jobId = id) = none := by
      rcases hs with ⟨n, hn, hid⟩ | hs
      · have hne := List.find?_eq_none.mp hnone n hn
        simp [hid] at hne
      · exact List.find?_eq_none.mpr fun n hn => by simpa using hs n hn
    rw [hongoing]
    exact h

theorem onSession_onSession {f g : Session → Session} :
    (w.onSession s f).onSession s g = w.setSession s (g (f (w.session s))) := by
  unfold World.onSession World.setSession
  simp only [if_true]
  congr 1
  funext t
  by_cases ht : t = s <;> simp [ht]

theorem not_held_of_inactive (h : Inv w) (hc : w.clientInside = false) (hact : (w.session s).active = false) :
    ∀ st, w.lock ≠ some (s, st) := by
  intro st hl
  cases hby : st.byJobmgr with
  | true =>
    have hactive := h.works_active s ⟨st, hl, hby⟩
    rw [hact] at hactive
    cases hactive
  | false => exact not_destroys_of_outside hc ⟨st, hl, hby⟩

theorem Inv.created (h : Inv w) (hc : w.clientInside = false) (hact : (w.session s).active = false)
    (henc : p.encoding = (w.session s).encoding) (howed : p.owed = (w.session s).owed)
    (hready : p.active = true → p.omxHandle = true ∧ p.abortState = .none) (hcalm : p.abortState ≠ .init) :
    Inv (w.setSession s p) := by
  have hfree := not_held_of_inactive h hc hact
  have hnone : ∀ n, n ∈ w.jobQueue ∨ n ∈ w.ongoingJobQ → n.slot ≠ s := by
    rintro n hn rfl
    have hactive := (h.jobs n hn).2.2.1
    rw [hact] at hactive
    cases hactive
  have hidle : ¬ w.busy s := fun hb => by
    obtain ⟨n, hn, heq⟩ := List.mem_map.mp hb
    exact hnone n (.inr hn) heq
  have hoff : (w.session s).encoding = false := by
    simpa using fun he => hidle (h.encodes s he)
  have hcalled : (w.moved s p w.lock).called = w.called := by
    unfold World.called
    rw [moved_lock]
    cases hl : w.lock with
    | none => rfl
    | some x =>
      obtain ⟨t, st⟩ := x
      have ht : t ≠ s := fun heq => hfree st (heq ▸ hl)
      cases st
      case jobDone => exact congrArg (fun q => [q.decodeJob.serial]) (moved_session_of_ne ht)
      all_goals rfl
  show Inv (w.moved s p w.lock)
  refine h.vacant (fun t _ st => Iff.rfl) hcalled hnone (henc.trans hoff) ?_
    (fun ha _ => hready ha) hcalm ?_ fun st hl => absurd hl (hfree st)
  · rw [howed]
    intro hf
    exact absurd (hoff.symm.trans (h.filled s hf).1) nofun
  · rintro ⟨st, hl, -⟩
    exact absurd hl (hfree st)

theorem Inv.createSession (h : Inv w) {hdl : Nat} {params : DecodeParams} {getHandle : Bool}
    (hc : w.clientInside = false) : Inv (createSession hdl params getHandle w).1 := by
  unfold Decode.createSession
  split
  · exact h
  split
  · exact h
  split
  · exact h
  next i hi =>
  have hact : (w.session ⟨getIndexByHandler hdl, i⟩).active = false := by simpa using List.find?_some hi
  dsimp only
  split
  · rw [onSession_onSession]
    exact h.created hc hact rfl rfl nofun nofun
  · rw [onSession_onSession]
    exact h.created hc hact rfl rfl (fun _ => ⟨rfl, rfl⟩) nofun

theorem removeJobs_eq {id : Nat} (hid : id ≠ 0) : removeJobs id w = w := by
  have hkeep : ∀ l : List JobNode, (l.filter fun n => n.encSessionId ≠ id) = l := fun l =>
    List.filter_eq_self.mpr fun n _ => decide_eq_true hid.symm
  have hdrop : ∀ l : List JobNode, (l.filter fun n => n.encSessionId = id) = [] := fun l =>
    List.filter_eq_nil_iff.mpr fun n _ h => hid.symm (of_decide_eq_true h)
  unfold removeJobs
  rw [hkeep, hkeep, hdrop]
  simp

theorem Inv.destroySession (h : Inv w) {id : Nat} (hl : w.lock = none) (hs : Sound w (.destroySession id)) :
    Inv (destroySession id w) := by
  unfold Decode.destroySession
  split
  · exact h
  next s hget =>
  obtain ⟨hid, henc, hqueue⟩ := hs s hget
  have hrange : s.client < maxJpegClientNum ∧ s.idx < maxSession := by
    unfold getSession at hget
    split at hget
    · next hvalid =>
      cases hget
      simp only [validIdx, Bool.and_eq_true, decide_eq_true_eq] at hvalid
      exact ⟨hvalid.2, hvalid.1⟩
    · cases hget
  obtain ⟨hslot, hne⟩ := slotOf_packSession hrange.1 hrange.2
  dsimp only
  rw [removeJobs_eq (by rw [hid]; exact hne)]
  have hidle : ¬ w.busy s := fun hb => by
    have hf := (h.held s hb).resolve_left (not_works_of_unlocked hl)
    exact absurd (henc.symm.trans (h.filled s hf).1) nofun
  have hnone : ∀ n, n ∈ w.jobQueue ∨ n ∈ w.ongoingJobQ → n.slot ≠ s := by
    rintro n (hn | hn) heq
    · exact hqueue n hn heq
    · exact hidle (List.mem_map.mpr ⟨n, hn, heq⟩)
  have hmoved : ∀ q : Session, q.encoding = false → q.owed = (w.session s).owed → q.silent = false →
      q.sessionId = (w.session s).sessionId → q.abortState ≠ .init →
      Inv (w.moved s q (some (s, .teardown))) := by
    intro q hq howed hsilent hqid hcalm
    refine h.vacant ?_ ?_ hnone hq ?_ ?_ hcalm ?_ ?_
    · intro t ht st
      rw [hl]
      constructor
      · rintro ⟨⟩
        exact absurd rfl ht
      · nofun
    · unfold World.called
      rw [hl]
      rfl
    · rw [howed]
      exact fun hf => absurd (henc.symm.trans (h.filled s hf).1) nofun
    · exact fun _ hnot => absurd ⟨.teardown, rfl, rfl⟩ hnot
    · rintro ⟨_, ⟨⟩, hby⟩
      cases hby
    · rintro _ ⟨⟩
      exact ⟨hq, hsilent, by rw [hqid, hid]; exact hslot⟩
  have hself : (w.setSession s { w.session s with silent := false }).session s =
      { w.session s with silent := false } := if_pos rfl
  have htwice : ∀ q, (w.setSession s { w.session s with silent := false }).setSession s q = w.setSession s q := by
    intro q
    unfold World.setSession
    congr 1
    funext t
    by_cases ht : t = s <;> simp [ht]
  have hoff : ¬ (w.session s).encoding = true := by
    rw [henc]
    nofun
  unfold sessionAbort
  dsimp only
  rw [hself]
  split
  · exact hmoved { w.session s with silent := false } henc rfl rfl rfl (h.calm s)
  · rw [htwice]
    exact hmoved { w.session s with silent := false, abortState := .done } henc rfl rfl rfl nofun

theorem Inv.step (h : Inv w) {e : Event} (hs : Sound w e) (hw : Decode.step w e = some w') : Inv w' := by
  cases e with
  | createSession hdl params getHandle =>
    simp only [Decode.step] at hw
    split at hw
    · cases hw
    · next hc =>
      cases hw
      exact h.createSession (by simpa using hc)
  | startDecodeJob job node enq =>
    simp only [Decode.step] at hw
    split at hw
    · cases hw
    · next hc =>
      cases hw
      exact h.startDecodeJob (by simpa using hc) hs
  | abortJob id =>
    simp only [Decode.step] at hw
    split at hw
    · cases hw
    · cases hw
      exact h.abortJob hs
  | destroySession id =>
    simp only [Decode.step] at hw
    split at hw
    · cases hw
    · next hl =>
      cases hw
      exact h.destroySession (by simpa using hl) hs
  | wake enq => exact h.wake hs hw
  | advance o => exact h.advance hs hw
  | spurious =>
    cases hw
    exact h.spurious
  | fbd s => exact h.fbd hs hw
  | omxEvent s e => exact h.eventHandler hs hw

theorem Inv.init : Inv {} where
  places _ := rfl
  answered _ := rfl
  jobs n hn := by
    rcases hn with hn | hn <;> cases hn
  bound n hn := by cases hn
  apart := List.nodup_nil
  held s hs := by cases hs
  encodes s hs := by cases hs
  filled s hs := by cases hs
  ready s hs := by cases hs
  calm s := nofun
  works_active s hs := by
    obtain ⟨st, hst, -⟩ := hs
    cases hst
  fits s st hs := by cases hs
  awake := Nat.zero_le _

end Jpeg.Decode
