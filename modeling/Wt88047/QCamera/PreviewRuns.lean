import Wt88047.Lib.Trace
import Wt88047.QCamera.StateMachine
import Mathlib.Data.List.Induction

/-! Whether preview runs while the state of the machine says so. -/

namespace Wt88047.QCamera

def Op.unprepares : Op → Bool
  | .preparePreview | .stopPreview | .unpreparePreview | .release => true
  | .delChannel ch => ch ≠ .video
  | _ => false

def Op.startsPreview : Op → Bool
  | .startPreview | .startChannel .preview => true
  | _ => false

def Op.stopsPreview : Op → Bool
  | .stopChannel ch => ch ≠ .video
  | _ => false

theorem Op.unprepares_of_startsPreview {op : Op} (h : op.startsPreview = true) :
    op.unprepares = false := by
  cases op <;> first | rfl | cases h

def Effect.unprepares : Effect → Bool
  | .call op _ => op.unprepares
  | _ => false

def Effect.touchesPreview : Effect → Bool
  | .call op _ => op.unprepares || op.startsPreview || op.stopsPreview
  | _ => false

def PreviewPrepared : List Effect → Prop :=
  Since (fun _ e => e = .call .preparePreview noError) (fun e => e.unprepares = false)

def PreviewRuns : List Effect → Prop :=
  Since (fun old e => (∃ op, e = .call op noError ∧ op.startsPreview = true) ∧ PreviewPrepared old)
    (fun e => e.touchesPreview = false)

structure Preview where
  prepared : Bool
  running : Bool
  deriving DecidableEq

namespace Preview

def off : Preview := ⟨false, false⟩

def next (v : Preview) : Effect → Preview
  | .call op rc =>
    if op = .preparePreview then ⟨rc = noError, false⟩
    else if op.unprepares then off
    else if op.startsPreview then { v with running := v.prepared && rc = noError }
    else if op.stopsPreview then { v with running := false }
    else v
  | _ => v

end Preview

def previewOf (log : List Effect) : Preview := log.foldl Preview.next .off

theorem previewOf_append_singleton (log : List Effect) (e : Effect) :
    previewOf (log ++ [e]) = (previewOf log).next e := by
  simp [previewOf]

theorem prepared_iff (log : List Effect) :
    (previewOf log).prepared = true ↔ PreviewPrepared log := by
  induction log using List.reverseRecOn with
  | nil => simp [previewOf, Preview.off, PreviewPrepared]
  | append_singleton log e ih =>
    rw [previewOf_append_singleton, PreviewPrepared, Since.append_singleton]
    change _ ↔ _ ∨ PreviewPrepared log ∧ _
    rw [← ih]
    cases e with
    | call op rc =>
      by_cases hop : op = .preparePreview
      · simp [Preview.next, Effect.unprepares, Op.unprepares, hop]
      · cases hu : op.unprepares <;> simp [Preview.next, Effect.unprepares, hop, hu, Preview.off]
        split_ifs <;> rfl
    | signalAPIResult r => simp [Preview.next, Effect.unprepares]
    | signalEvtResult r => simp [Preview.next, Effect.unprepares]

theorem running_iff (log : List Effect) :
    (previewOf log).running = true ↔ PreviewRuns log := by
  induction log using List.reverseRecOn with
  | nil => simp [previewOf, Preview.off, PreviewRuns]
  | append_singleton log e ih =>
    rw [previewOf_append_singleton, PreviewRuns, Since.append_singleton]
    change _ ↔ _ ∨ PreviewRuns log ∧ _
    rw [← ih, ← prepared_iff]
    cases e with
    | call op rc =>
      by_cases hop : op = .preparePreview
      · simp [Preview.next, Effect.touchesPreview, Op.unprepares, Op.startsPreview, hop]
      · cases hs : op.startsPreview with
        | true =>
          have hu := Op.unprepares_of_startsPreview hs
          simp [Preview.next, Effect.touchesPreview, hop, hu, hs, and_comm]
        | false =>
          cases hu : op.unprepares <;> cases ht : op.stopsPreview <;>
            simp [Preview.next, Effect.touchesPreview, hop, hu, hs, ht, Preview.off]
    | signalAPIResult r => simp [Preview.next, Effect.touchesPreview]
    | signalEvtResult r => simp [Preview.next, Effect.touchesPreview]

namespace Preview

variable (v : Preview) (rc : Int)

@[simp] theorem next_preparePreview :
    v.next (.call .preparePreview rc) = ⟨rc = noError, false⟩ := rfl

@[simp] theorem next_startPreview :
    v.next (.call .startPreview rc) = ⟨v.prepared, v.prepared && rc = noError⟩ := rfl

@[simp] theorem next_startChannel_preview :
    v.next (.call (.startChannel .preview) rc) = ⟨v.prepared, v.prepared && rc = noError⟩ := rfl

@[simp] theorem next_unpreparePreview : v.next (.call .unpreparePreview rc) = off := rfl

@[simp] theorem next_delChannel_preview : v.next (.call (.delChannel .preview) rc) = off := rfl

@[simp] theorem next_other {op : Op} (h : (Effect.call op rc).touchesPreview = false) :
    v.next (.call op rc) = v := by
  simp only [Effect.touchesPreview, Bool.or_eq_false_iff] at h
  obtain ⟨⟨hu, hs⟩, ht⟩ := h
  have hop : op ≠ .preparePreview := by
    rintro rfl
    cases hu
  simp [next, hop, hu, hs, ht]

end Preview

attribute [simp] Op.unprepares Op.startsPreview Op.stopsPreview Effect.touchesPreview

namespace QCameraStateMachine

variable (m : QCameraStateMachine) (p : Parent) (x : Payload) (e : Evt)

def preview : Preview := previewOf m.log

@[simp] theorem enter_preview (s : State) : (m.enter s).preview = m.preview := rfl

@[simp] theorem call_preview (op : Op) :
    (m.call p op).preview = m.preview.next (.call op (p.rc op)) := by
  simp [preview, call, previewOf_append_singleton]

@[simp] theorem signalAPIResult_preview (r : ApiResult) :
    (m.signalAPIResult r).preview = m.preview := by
  simp [preview, signalAPIResult, previewOf_append_singleton, Preview.next]

@[simp] theorem signalEvtResult_preview (rc : Int) :
    (m.signalEvtResult e rc).preview = m.preview := by
  simp [preview, signalEvtResult, previewOf_append_singleton, Preview.next]

@[simp] theorem answer_preview (rc : Int) : (m.answer e rc).preview = m.preview := by
  simp [answer]

@[simp] theorem answerFlag_preview (n : Int) : (m.answerFlag e n).preview = m.preview := by
  simp [answerFlag]

@[simp] theorem refuse_preview : (m.refuse e).preview = m.preview := by simp [refuse]

@[simp] theorem forward_preview (op : Op) :
    (m.forward p e op).preview = m.preview.next (.call op (p.rc op)) := by simp [forward]

@[simp] theorem msgTypeEnabled_preview : (m.msgTypeEnabled p e).preview = m.preview := by
  simp [msgTypeEnabled]

@[simp] theorem getParameters_preview : (m.getParameters p e).preview = m.preview := by
  simp [getParameters]

@[simp] theorem registerFaceImage_preview : (m.registerFaceImage p e).preview = m.preview := by
  simp [registerFaceImage]

@[simp] theorem freeVideoHandle_preview : (m.freeVideoHandle p e).preview = m.preview := by
  simp [freeVideoHandle]

@[simp] theorem processInternal_preview (t : InternalEvt) :
    (m.processInternal p t).preview = m.preview := by
  cases t <;> simp [processInternal]

@[simp] theorem notifyDied_preview (t : ServerEvt) : (m.notifyDied p t).preview = m.preview := by
  unfold notifyDied
  split_ifs <;> simp

@[simp] theorem setParamsRecording_preview :
    (m.setParamsRecording p e).preview = m.preview := by
  unfold setParamsRecording
  split_ifs <;> simp

@[simp] theorem prepareAndStart_preview :
    (m.prepareAndStart p).preview = ⟨p.previewRc = noError, p.previewRc = noError⟩ := by
  unfold prepareAndStart Parent.previewRc
  split_ifs with hp hs
  · simp [hp, hs]
  · simp [hs, Preview.off]
  · simp [hp]

@[simp] theorem takePicture_running :
    (m.takePicture p).preview.running = (p.zslMode && m.preview.running) := by
  unfold takePicture
  split_ifs with h <;> simp [h, Preview.off]

@[simp] theorem cancelOp_preview (rc : Int) : m.preview.next (.call p.cancelOp rc) = m.preview := by
  unfold Parent.cancelOp
  split_ifs <;> simp

end QCameraStateMachine

def State.showsPreview : State → Bool
  | .previewing | .prepareSnapshot | .recording | .videoPicTaking | .previewPicTaking => true
  | .previewStopped | .previewReady | .picTaking => false

namespace Parent

variable (p : Parent)

def Restarts : Prop := p.rc .preparePreview = noError ∧ p.rc .startPreview = noError

/-- `startRecording` leaves preview alone, or restarts it with success. -/
def RecordingRestarts : Prop :=
  p.recordingHint = true ∨
    p.rc .preparePreview = noError ∧ p.rc (.startChannel .preview) = noError

theorem previewRc_eq : p.previewRc = noError ↔ p.Restarts := by
  unfold previewRc Restarts
  split_ifs with h <;> simp [h]

end Parent

namespace QCameraStateMachine

variable (m : QCameraStateMachine) (p : Parent) (x : Payload) (e : Evt)

def Truthful : Prop := m.mState.showsPreview = true → m.preview.running = true

structure Sound (m : QCameraStateMachine) : Prop where
  running : m.Truthful
  prepared : m.mState = .previewReady → m.preview.prepared = true

theorem Sound.runs {m : QCameraStateMachine} (h : m.Sound) {s : State} (hm : m.mState = s)
    (hs : s.showsPreview = true) : m.preview.running = true :=
  h.running (by rw [hm]; exact hs)

theorem previewStopped_truthful (hm : m.mState = .previewStopped) :
    (m.procEvtPreviewStoppedState p x e).Truthful := by
  cases e <;> simp only [procEvtPreviewStoppedState, Truthful] <;> (try split_ifs) <;>
    simp_all [State.showsPreview]

theorem previewReady_truthful (hm : m.mState = .previewReady) (hp : m.preview.prepared = true) :
    (m.procEvtPreviewReadyState p x e).Truthful := by
  cases e <;> simp only [procEvtPreviewReadyState, Truthful] <;> (try split_ifs) <;>
    simp_all [State.showsPreview]

theorem recording_truthful (hm : m.mState = .recording) (hr : m.preview.running = true) :
    (m.procEvtRecordingState p x e).Truthful := by
  cases e <;> simp only [procEvtRecordingState, Truthful] <;> (try split_ifs) <;>
    simp [State.showsPreview, hm, hr]

theorem videoPicTaking_truthful (hm : m.mState = .videoPicTaking) (hr : m.preview.running = true) :
    (m.procEvtVideoPicTakingState p x e).Truthful := by
  cases e <;> simp [procEvtVideoPicTakingState, Truthful, State.showsPreview, hm, hr]

theorem prepareSnapshot_truthful (hr : m.preview.running = true) :
    (m.procEvtPrepareSnapshotState p x e).Truthful := by
  cases e
  case evtInternal => cases h : x.evtType <;> simp [procEvtPrepareSnapshotState, Truthful, h, hr]
  all_goals simp [procEvtPrepareSnapshotState, Truthful, hr]

theorem startRecording_running (hr : m.preview.running = true) :
    (m.startRecording p).preview.running = true ↔ p.RecordingRestarts := by
  unfold startRecording Parent.RecordingRestarts
  split_ifs <;> simp_all

def KeepsPreview (m : QCameraStateMachine) (i : Input) : Prop :=
  match m.mState, i.evt with
  | .previewing, .takePicture =>
    i.parent.zslMode = true ∨ i.parent.longshotEnabled = true →
      i.parent.zslMode = true ∧ (i.parent.recordingHint = true → i.parent.Restarts)
  | .previewing, .sendCommand =>
    i.payload.cmd = .longshotOn ∧ i.parent.arg1 = some .restartPerview → i.parent.Restarts
  | .previewing, .startRecording => i.parent.RecordingRestarts
  | .previewPicTaking, .startRecording =>
    i.parent.zslMode = true ∨ i.parent.longshotEnabled = true ∨ i.parent.RecordingRestarts
  | .picTaking, .sendCommand => i.payload.cmd = .longshotOff → m.preview.running = true
  | .picTaking, .snapshotDone => i.parent.previewRestart = true → m.preview.running = true
  | _, _ => True

theorem previewing_truthful (hm : m.mState = .previewing) (hr : m.preview.running = true) :
    (m.procEvtPreviewingState p x e).Truthful ↔ m.KeepsPreview ⟨e, x, p⟩ := by
  cases e
  case takePicture =>
    simp only [procEvtPreviewingState, Truthful, KeepsPreview, hm]
    split_ifs <;> simp_all [State.showsPreview, Parent.previewRc_eq]
  case sendCommand =>
    simp only [procEvtPreviewingState, Truthful, KeepsPreview, hm]
    split_ifs with h <;> simp [State.showsPreview, Parent.previewRc_eq, h, hm, hr]
  case startRecording =>
    have hrun := m.startRecording_running p hr
    simp only [procEvtPreviewingState, Truthful, KeepsPreview, hm]
    split_ifs <;> simp [State.showsPreview, hrun, hm]
  all_goals
    simp only [procEvtPreviewingState, Truthful, KeepsPreview, hm]
    (try split_ifs) <;> simp_all [State.showsPreview]

theorem picTaking_truthful (hm : m.mState = .picTaking) :
    (m.procEvtPicTakingState p x e).Truthful ↔ m.KeepsPreview ⟨e, x, p⟩ := by
  cases e
  case evtInternal =>
    cases h : x.evtType <;> simp [procEvtPicTakingState, Truthful, KeepsPreview, State.showsPreview, h, hm]
  case evtNotify =>
    cases h : x.serverEventType <;>
      simp only [procEvtPicTakingState, Truthful, KeepsPreview, h, hm] <;> (try split_ifs) <;>
      simp [State.showsPreview, hm]
  all_goals
    simp only [procEvtPicTakingState, Truthful, KeepsPreview, hm]
    (try split_ifs) <;> simp_all [State.showsPreview]

theorem previewPicTaking_truthful (hm : m.mState = .previewPicTaking)
    (hr : m.preview.running = true) :
    (m.procEvtPreviewPicTakingState p x e).Truthful ↔ m.KeepsPreview ⟨e, x, p⟩ := by
  cases e
  case evtNotify =>
    cases h : x.serverEventType <;>
      simp only [procEvtPreviewPicTakingState, Truthful, KeepsPreview, h, hm] <;>
      (try split_ifs) <;> simp [State.showsPreview, hm, hr]
  case startRecording =>
    have hrun := m.startRecording_running p hr
    simp only [procEvtPreviewPicTakingState, Truthful, KeepsPreview, hm]
    split_ifs with hz <;> simp_all [State.showsPreview, ← or_assoc]
  all_goals
    simp only [procEvtPreviewPicTakingState, Truthful, KeepsPreview, hm]
    (try split_ifs) <;> simp_all [State.showsPreview]

theorem stateMachine_truthful {m : QCameraStateMachine} (h : m.Sound) (i : Input) :
    (m.stateMachine i).Truthful ↔ m.KeepsPreview i := by
  obtain ⟨evt, payload, parent⟩ := i
  cases hm : m.mState <;> simp only [stateMachine, hm]
  case previewStopped =>
    simp [KeepsPreview, hm, previewStopped_truthful m parent payload evt hm]
  case previewReady =>
    simp [KeepsPreview, hm, previewReady_truthful m parent payload evt hm (h.prepared hm)]
  case previewing => exact previewing_truthful m parent payload evt hm (h.runs hm rfl)
  case prepareSnapshot =>
    simp [KeepsPreview, hm, prepareSnapshot_truthful m parent payload evt (h.runs hm rfl)]
  case picTaking => exact picTaking_truthful m parent payload evt hm
  case recording =>
    simp [KeepsPreview, hm, recording_truthful m parent payload evt hm (h.runs hm rfl)]
  case videoPicTaking =>
    simp [KeepsPreview, hm, videoPicTaking_truthful m parent payload evt hm (h.runs hm rfl)]
  case previewPicTaking => exact previewPicTaking_truthful m parent payload evt hm (h.runs hm rfl)

theorem previewStopped_prepared (hm : m.mState = .previewStopped)
    (hr : (m.procEvtPreviewStoppedState p x e).mState = .previewReady) :
    (m.procEvtPreviewStoppedState p x e).preview.prepared = true := by
  revert hr
  cases e <;> simp only [procEvtPreviewStoppedState] <;> (try split_ifs) <;> simp [*]

theorem previewReady_prepared (hp : m.preview.prepared = true)
    (hr : (m.procEvtPreviewReadyState p x e).mState = .previewReady) :
    (m.procEvtPreviewReadyState p x e).preview.prepared = true := by
  revert hr
  cases e <;> simp only [procEvtPreviewReadyState] <;> (try split_ifs) <;> simp [*]

theorem stateMachine_prepared {m : QCameraStateMachine} (h : m.Sound) {i : Input}
    (hr : (m.stateMachine i).mState = .previewReady) :
    (m.stateMachine i).preview.prepared = true := by
  by_cases hs : m.mState = .previewStopped
  · simp only [stateMachine, hs] at hr ⊢
    exact previewStopped_prepared m _ _ _ hs hr
  · by_cases hv : m.mState = .previewReady
    · simp only [stateMachine, hv] at hr ⊢
      exact previewReady_prepared m _ _ _ (h.prepared hv) hr
    · -- the other states do not lead to a preview without a window
      have hnext := m.stateMachine_next i
      rw [hr] at hnext
      cases hm : m.mState <;> simp [State.next, hm] at hnext <;> contradiction

theorem Sound.step {m : QCameraStateMachine} (h : m.Sound) {i : Input} (hk : m.KeepsPreview i) :
    (m.stateMachine i).Sound :=
  ⟨(stateMachine_truthful h i).mpr hk, stateMachine_prepared h⟩

theorem init_sound : init.Sound := ⟨by simp [Truthful, init, State.showsPreview], by simp [init]⟩

/-- In a run the state never says that preview runs when it does not, exactly if each of its steps
keeps preview: a picture, a recording or a longshot that restarts preview restarts it with success,
and a picture without preview is not left as if there were one. -/
theorem preview_truthful_iff (is : List Input) :
    Runs.Along step KeepsPreview init is ↔
      ∀ pre post, is = pre ++ post → ∀ m, Runs.play step init pre = some m →
        m.mState.showsPreview = true → PreviewRuns m.log := by
  have hany : Runs.Along step (fun _ _ => True) init is :=
    Runs.Along.of_forall (fun _ _ _ => trivial) init
  obtain ⟨final, hfinal, -⟩ := Runs.play_total (I := fun _ => True)
    (fun m i _ _ => ⟨m.stateMachine i, rfl, trivial⟩) trivial hany
  have hshow : ∀ m : QCameraStateMachine,
      m.Truthful ↔ (m.mState.showsPreview = true → PreviewRuns m.log) := by
    intro m
    rw [← running_iff]
    rfl
  refine Runs.along_iff_prefixes (I := Sound) ?_ ?_ ?_ init_sound hany hfinal
  · intro m i n hs _ hk hn
    obtain rfl := Option.some.inj hn
    exact hs.step hk
  · exact fun m hs => (hshow m).mp hs.running
  · intro m i n hs _ hn hq
    obtain rfl := Option.some.inj hn
    exact (stateMachine_truthful hs i).mp ((hshow _).mpr hq)

def hintedInput (e : Evt) (rc : Op → Int) : Input :=
  ⟨e, ⟨.other, .focusUpdate, .other⟩, { Parent.plain rc with recordingHint := true, zslMode := true }⟩

/-- A picture whose restart of preview fails, and that is not taken either. -/
theorem picture_without_preview :
    ¬ ∀ is m, Runs.play step init is = some m →
      m.mState.showsPreview = true → PreviewRuns m.log := by
  intro h
  have hruns := h
    [hintedInput .startPreview fun _ => noError,
      hintedInput .takePicture fun op =>
        if op = .preparePreview ∨ op = .takePicture then badValue else noError] _ rfl (by decide)
  exact absurd ((running_iff _).mpr hruns) (by decide)

end QCameraStateMachine

end Wt88047.QCamera
