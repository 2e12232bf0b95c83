import Wt88047.QCamera.StateMachine

/-! Which callers are answered. A caller that posts an event waits for a result with the type of
that event, so an event that is never answered blocks it for good. -/

namespace Wt88047.QCamera

def Evt.waited : Evt → Bool
  | .evtInternal | .evtNotify | .jpegEvtNotify | .snapshotDone | .stopCaptureChannel
  | .restartPerview => false
  | _ => true

def Evt.due (e : Evt) : List Evt := if e.waited then [e] else []

def Effect.answered : Effect → Option Evt
  | .signalAPIResult r => some r.requestApi
  | _ => none

namespace QCameraStateMachine

variable (m : QCameraStateMachine) (p : Parent) (x : Payload) (e : Evt)

def answered : List Evt := m.log.filterMap Effect.answered

@[simp] theorem enter_answered (s : State) : (m.enter s).answered = m.answered := rfl

@[simp] theorem call_answered (op : Op) : (m.call p op).answered = m.answered := by
  simp [answered, call, Effect.answered]

@[simp] theorem signalAPIResult_answered (r : ApiResult) :
    (m.signalAPIResult r).answered = m.answered ++ [r.requestApi] := by
  simp [answered, signalAPIResult, Effect.answered]

@[simp] theorem signalEvtResult_answered (rc : Int) :
    (m.signalEvtResult e rc).answered = m.answered := by
  simp [answered, signalEvtResult, Effect.answered]

@[simp] theorem answer_answered (rc : Int) : (m.answer e rc).answered = m.answered ++ [e] := by
  simp [answer]

@[simp] theorem answerFlag_answered (n : Int) :
    (m.answerFlag e n).answered = m.answered ++ [e] := by
  simp [answerFlag]

@[simp] theorem refuse_answered : (m.refuse e).answered = m.answered ++ [e] := by simp [refuse]

@[simp] theorem forward_answered (op : Op) :
    (m.forward p e op).answered = m.answered ++ [e] := by simp [forward]

@[simp] theorem msgTypeEnabled_answered :
    (m.msgTypeEnabled p e).answered = m.answered ++ [e] := by simp [msgTypeEnabled]

@[simp] theorem getParameters_answered :
    (m.getParameters p e).answered = m.answered ++ [e] := by simp [getParameters]

@[simp] theorem registerFaceImage_answered :
    (m.registerFaceImage p e).answered = m.answered ++ [e] := by simp [registerFaceImage]

@[simp] theorem freeVideoHandle_answered :
    (m.freeVideoHandle p e).answered = m.answered ++ [e] := by simp [freeVideoHandle]

@[simp] theorem prepareAndStart_answered : (m.prepareAndStart p).answered = m.answered := by
  unfold prepareAndStart
  split_ifs <;> simp

@[simp] theorem takePicture_answered : (m.takePicture p).answered = m.answered := by
  unfold takePicture
  split_ifs <;> simp

@[simp] theorem startRecording_answered : (m.startRecording p).answered = m.answered := by
  unfold startRecording
  split_ifs <;> simp

@[simp] theorem processInternal_answered (t : InternalEvt) :
    (m.processInternal p t).answered = m.answered := by
  cases t <;> simp [processInternal]

@[simp] theorem notifyDied_answered (t : ServerEvt) :
    (m.notifyDied p t).answered = m.answered := by
  unfold notifyDied
  split_ifs <;> simp

@[simp] theorem setParamsRecording_answered :
    (m.setParamsRecording p e).answered = m.answered ++ [e] := by
  unfold setParamsRecording
  split_ifs <;> simp

theorem previewStopped_answered :
    (m.procEvtPreviewStoppedState p x e).answered = m.answered ++ e.due := by
  cases e <;> simp only [procEvtPreviewStoppedState] <;> (try split_ifs) <;> simp [Evt.due, Evt.waited]

theorem previewReady_answered :
    (m.procEvtPreviewReadyState p x e).answered = m.answered ++ e.due := by
  cases e <;> simp only [procEvtPreviewReadyState] <;> (try split_ifs) <;> simp [Evt.due, Evt.waited]

theorem recording_answered :
    (m.procEvtRecordingState p x e).answered = m.answered ++ e.due := by
  cases e <;> simp only [procEvtRecordingState] <;> (try split_ifs) <;> simp [Evt.due, Evt.waited]

theorem videoPicTaking_answered :
    (m.procEvtVideoPicTakingState p x e).answered = m.answered ++ e.due := by
  cases e <;> simp [procEvtVideoPicTakingState, Evt.due, Evt.waited]

theorem previewing_answered :
    (m.procEvtPreviewingState p x e).answered = m.answered ++
      if e = .prepareSnapshot ∧ p.rc .prepareHardwareForSnapshot = noError then [] else e.due := by
  cases e <;> simp only [procEvtPreviewingState] <;> (try split_ifs) <;> simp_all [Evt.due, Evt.waited]

theorem picTaking_answered :
    (m.procEvtPicTakingState p x e).answered = m.answered ++ e.due := by
  cases e
  case evtInternal => cases h : x.evtType <;> simp [procEvtPicTakingState, h, Evt.due, Evt.waited]
  case evtNotify =>
    cases h : x.serverEventType <;> simp only [procEvtPicTakingState, h] <;> (try split_ifs) <;>
      simp [Evt.due, Evt.waited]
  all_goals
    simp only [procEvtPicTakingState]
    (try split_ifs) <;> simp [Evt.due, Evt.waited]

theorem previewPicTaking_answered :
    (m.procEvtPreviewPicTakingState p x e).answered = m.answered ++ e.due := by
  cases e
  case evtNotify =>
    cases h : x.serverEventType <;> simp only [procEvtPreviewPicTakingState, h] <;>
      (try split_ifs) <;> simp [Evt.due, Evt.waited]
  all_goals
    simp only [procEvtPreviewPicTakingState]
    (try split_ifs) <;> simp [Evt.due, Evt.waited]

theorem prepareSnapshot_answered (he : e ≠ .regFaceImage) :
    (m.procEvtPrepareSnapshotState p x e).answered = m.answered ++
      if e = .evtInternal ∧ x.evtType = .prepSnapshotDone then [.prepareSnapshot] else e.due := by
  cases e
  case evtInternal => cases h : x.evtType <;> simp [procEvtPrepareSnapshotState, h, Evt.due, Evt.waited]
  case regFaceImage => exact absurd rfl he
  all_goals simp [procEvtPrepareSnapshotState, Evt.due, Evt.waited]

theorem prepareSnapshot_regFaceImage :
    (m.procEvtPrepareSnapshotState p x .regFaceImage).answered = m.answered := rfl

theorem previewing_waits (hm : m.mState = .previewing) :
    (m.procEvtPreviewingState p x e).mState = .prepareSnapshot ↔
      e = .prepareSnapshot ∧ p.rc .prepareHardwareForSnapshot = noError := by
  cases e <;> simp only [procEvtPreviewingState] <;> (try split_ifs) <;> simp_all

theorem prepareSnapshot_waits (hm : m.mState = .prepareSnapshot) :
    (m.procEvtPrepareSnapshotState p x e).mState = .prepareSnapshot ↔
      ¬ (e = .evtInternal ∧ x.evtType = .prepSnapshotDone) := by
  cases e
  case evtInternal => cases h : x.evtType <;> simp [procEvtPrepareSnapshotState, h, hm]
  all_goals simp [procEvtPrepareSnapshotState, hm]

/-- The one answer that is put off, until the metadata says that the hardware is ready. -/
def Defers (m : QCameraStateMachine) (i : Input) : Prop :=
  m.mState = .previewing ∧ i.evt = .prepareSnapshot ∧
    i.parent.rc .prepareHardwareForSnapshot = noError

def Finishes (m : QCameraStateMachine) (i : Input) : Prop :=
  m.mState = .prepareSnapshot ∧ i.evt = .evtInternal ∧ i.payload.evtType = .prepSnapshotDone

instance (m : QCameraStateMachine) (i : Input) : Decidable (Defers m i) :=
  inferInstanceAs (Decidable (_ ∧ _ ∧ _))

instance (m : QCameraStateMachine) (i : Input) : Decidable (Finishes m i) :=
  inferInstanceAs (Decidable (_ ∧ _ ∧ _))

def expected (m : QCameraStateMachine) (i : Input) : List Evt :=
  if m.Defers i then [] else if m.Finishes i then [.prepareSnapshot] else i.evt.due

/-- Handling the event answers its caller once and nobody else; a call that is put off keeps the
machine waiting, and only the internal event ends the wait. -/
structure Served (m : QCameraStateMachine) (i : Input) : Prop where
  answers : (m.stateMachine i).answered = m.answered ++ m.expected i
  waits : (m.stateMachine i).mState = .prepareSnapshot ↔
    m.Defers i ∨ m.mState = .prepareSnapshot ∧ ¬ m.Finishes i

/-- The event is not one that the waiting state has no case for. -/
def Answerable (m : QCameraStateMachine) (i : Input) : Prop :=
  ¬ (m.mState = .prepareSnapshot ∧ i.evt = .regFaceImage)

theorem stateMachine_waits (i : Input) :
    (m.stateMachine i).mState = .prepareSnapshot ↔
      m.Defers i ∨ m.mState = .prepareSnapshot ∧ ¬ m.Finishes i := by
  by_cases hv : m.mState = .previewing
  · simpa [stateMachine, Defers, Finishes, hv] using previewing_waits m i.parent i.payload i.evt hv
  · by_cases hp : m.mState = .prepareSnapshot
    · simpa [stateMachine, Defers, Finishes, hp]
        using prepareSnapshot_waits m i.parent i.payload i.evt hp
    · -- from the other states the waiting one cannot be entered
      have hnext := m.stateMachine_next i
      have hne : State.prepareSnapshot ∉ m.mState.next := by
        cases hm : m.mState <;> simp [State.next] <;> contradiction
      have hw : (m.stateMachine i).mState ≠ .prepareSnapshot := fun h => hne (h ▸ hnext)
      simp [Defers, hv, hp, hw]

theorem stateMachine_answered {i : Input} (h : m.Answerable i) :
    (m.stateMachine i).answered = m.answered ++ m.expected i := by
  obtain ⟨evt, payload, parent⟩ := i
  cases hm : m.mState <;> simp only [stateMachine, hm, expected, Defers, Finishes]
  case previewStopped => simpa using previewStopped_answered m parent payload evt
  case previewReady => simpa using previewReady_answered m parent payload evt
  case previewing => simpa using previewing_answered m parent payload evt
  case prepareSnapshot =>
    have he : evt ≠ .regFaceImage := fun he => h ⟨hm, he⟩
    simpa using prepareSnapshot_answered m parent payload evt he
  case picTaking => simpa using picTaking_answered m parent payload evt
  case recording => simpa using recording_answered m parent payload evt
  case videoPicTaking => simpa using videoPicTaking_answered m parent payload evt
  case previewPicTaking => simpa using previewPicTaking_answered m parent payload evt

theorem served_iff (i : Input) : m.Served i ↔ m.Answerable i := by
  constructor
  · rintro ⟨hans, -⟩ ⟨hm, he⟩
    obtain ⟨evt, payload, parent⟩ := i
    obtain rfl : evt = .regFaceImage := he
    simp [stateMachine, hm, prepareSnapshot_regFaceImage, expected, Defers, Finishes, Evt.due,
      Evt.waited] at hans
  · intro h
    exact ⟨m.stateMachine_answered h, m.stateMachine_waits i⟩

def owed (e : Evt) : Nat := if e = .prepareSnapshot ∧ m.mState = .prepareSnapshot then 1 else 0

theorem Served.settles {m : QCameraStateMachine} {i : Input} (h : m.Served i) {e : Evt}
    (he : e.waited = true) :
    (m.stateMachine i).answered.count e + (m.stateMachine i).owed e =
      m.answered.count e + m.owed e + [i.evt].count e := by
  have hone : ∀ a : Evt, [a].count e = if e = a then 1 else 0 := by
    intro a
    by_cases hea : e = a
    · simp [hea]
    · rw [if_neg hea, List.count_eq_zero_of_not_mem (by simpa using hea)]
  have hwaits := h.waits
  rw [h.answers, List.count_append]
  by_cases hd : m.Defers i
  · obtain ⟨hm, hi, -⟩ := id hd
    simp [expected, hd, owed, hm, hi, hwaits.mpr (.inl hd), hone]
  · by_cases hf : m.Finishes i
    · obtain ⟨hm, hi, -⟩ := id hf
      have hw : (m.stateMachine i).mState ≠ .prepareSnapshot := by simp [hwaits, hd, hf]
      have hne : e ≠ .evtInternal := by
        rintro rfl
        cases he
      simp [expected, hd, hf, owed, hm, hi, hw, hone, hne]
    · have hw : (m.stateMachine i).mState = .prepareSnapshot ↔ m.mState = .prepareSnapshot := by
        simp [hwaits, hd, hf]
      have hdue : i.evt.due.count e = [i.evt].count e := by
        by_cases hie : e = i.evt
        · simp [Evt.due, ← hie, he]
        · by_cases hi : i.evt.waited = true <;> simp [Evt.due, hi, hone, hie]
      have howed : (m.stateMachine i).owed e = m.owed e := by simp only [owed, hw]
      rw [howed, expected, if_neg hd, if_neg hf, hdue]
      omega

theorem play_settles {is : List Input} {m n : QCameraStateMachine}
    (hrun : Runs.play step m is = some n) (h : Runs.Along step Answerable m is) {e : Evt}
    (he : e.waited = true) :
    n.answered.count e + n.owed e =
      m.answered.count e + m.owed e + (is.map (·.evt)).count e := by
  induction is generalizing m with
  | nil =>
    obtain rfl := Option.some.inj hrun
    simp
  | cons i is ih =>
    obtain ⟨u, hu, hn⟩ := Runs.play_cons.mp hrun
    obtain rfl := Option.some.inj hu
    have hstep := ((m.served_iff i).mpr h.head).settles he
    have hrest := ih hn (h.tail rfl)
    have hcount : ((i :: is).map (·.evt)).count e = [i.evt].count e + (is.map (·.evt)).count e := by
      rw [List.map_cons, ← List.singleton_append, List.count_append]
    omega

/-- In a run in which no face is registered while the metadata is awaited, and in no other, each
event answers its caller once, and at any moment the calls of each type are those answered and, for
the preparation of a snapshot, the one that waits. -/
theorem answered_once_iff (is : List Input) :
    Runs.Along step Answerable init is ↔
      ∀ pre i post, is = pre ++ i :: post → ∀ m, Runs.play step init pre = some m →
        m.Served i ∧ ∀ e : Evt, e.waited = true →
          (m.stateMachine i).answered.count e + (m.stateMachine i).owed e =
            ((pre ++ [i]).map (·.evt)).count e := by
  constructor
  · rintro h pre i post rfl m hm
    have hserved := (m.served_iff i).mpr (h.append_right hm).head
    refine ⟨hserved, fun e he => ?_⟩
    have hpre := play_settles hm h.append_left he
    have hlast := hserved.settles he
    have hinit : init.answered.count e = 0 ∧ init.owed e = 0 := by simp [init, answered, owed]
    have hcount : ((pre ++ [i]).map (·.evt)).count e =
        (pre.map (·.evt)).count e + [i.evt].count e := by
      rw [List.map_append, List.count_append]
      rfl
    omega
  · intro h
    refine Runs.along_iff_splits.mpr fun pre i post his m hm => ?_
    exact (m.served_iff i).mp (h pre i post his m hm).1

def okInput (e : Evt) : Input := ⟨e, ⟨.other, .focusUpdate, .other⟩, .plain fun _ => noError⟩

/-- A face that is registered while another caller's snapshot is prepared. -/
theorem face_unanswered :
    ¬ ∀ is i m, Runs.play step init is = some m → m.Served i := by
  intro h
  have hserved := h [okInput .startPreview, okInput .prepareSnapshot] (okInput .regFaceImage) _ rfl
  exact absurd hserved.answers (by decide)

end QCameraStateMachine

end Wt88047.QCamera
