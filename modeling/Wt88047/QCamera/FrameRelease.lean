import Wt88047.QCamera.FrameCallbacks

/-! When a callback of the HAL settles each buffer of its frame once, and frees the structure of the frame if that
is its own. -/

namespace Wt88047.FrameCallbacks

open PostProc

def Result.settled (r : Result) : List BufDef := r.bufDone ++ r.display ++ r.application ++ r.postproc

namespace Callback

def cameraHandle : Callback → Nat
  | preview f | nodisplayPreview f | postview f | video f => f.cameraHandle
  | zsl f | snapshot f | postproc f | dualReproc f => f.cameraHandle

def bufs : Callback → List BufDef
  | preview f | nodisplayPreview f | postview f | video f => [f.buf]
  | zsl f | snapshot f | postproc f | dualReproc f => f.bufs

def ownsFrame : Callback → Bool
  | preview _ | nodisplayPreview _ | postview _ | video _ => true
  | zsl _ | snapshot _ | postproc _ | dualReproc _ => false

def snapshotChannel (h : Hal) (f : SuperBuf) : Option Channel :=
  checkChannel (if h.lowPower then h.video else h.snapshot) f.chId

def Valid (cb : Callback) (hal : Option Hal) : Prop :=
  ∃ h ∈ checkHal hal cb.cameraHandle,
    match cb with
    | zsl f => (checkChannel h.zsl f.chId).isSome = true
    | snapshot f => (snapshotChannel h f).isSome = true
    | _ => True

/-- With a valid object each buffer is settled once; the frame is freed once or not at all. -/
structure Released (cb : Callback) (hal : Option Hal) (a : Answers) : Prop where
  buffers : cb.Valid hal → (cb.run hal a).settled.Perm cb.bufs
  freed : (cb.run hal a).freed = if cb.ownsFrame then 1 else 0

def Safe (cb : Callback) (hal : Option Hal) (a : Answers) : Prop :=
  match cb with
  | preview f => ∀ h ∈ checkHal hal f.cameraHandle, ∃ m ∈ f.buf.memInfo,
      h.needProcess.1 = false ∨ h.skips f.buf.frameIdx = true ∨ m.owned = true ∧ a.enqueueBuffer = true
  | nodisplayPreview f => ∀ h ∈ checkHal hal f.cameraHandle,
      h.needProcess.1 = false ∨ h.skips f.buf.frameIdx = true ∨ f.buf.memInfo.any (·.memory) = true ∧
        ((h.needProcess.2 && h.dataCb && h.previewFrameMsg) = true → a.notify ≠ .unsent)
  | postview f => (checkHal hal f.cameraHandle).isSome = true → f.buf.memInfo.isSome = true
  | video f => ∀ h ∈ checkHal hal f.cameraHandle,
      f.buf.memInfo.any (·.memory) = true ∧ h.dataCbTimestamp = true ∧ h.videoFrameMsg = true ∧ a.notify ≠ .unsent
  | zsl f => ∀ h ∈ checkHal hal f.cameraHandle, ∀ c ∈ checkChannel h.zsl f.chId,
      if a.copy then f.bufs = [] ∨ takesData a.data h.postproc = true
      else ∀ b ∈ f.bufs, b.streamId ∈ c.streams
  | snapshot f => ∃ h ∈ checkHal hal f.cameraHandle, ∀ c ∈ snapshotChannel h f, f.bufs = [] ∨
      (h.dumpMetadata = true → (checkChannel h.snapshot f.chId).isSome = true) ∧
        if a.copy then takesData a.data h.postproc = true else ∀ b ∈ f.bufs, b.streamId ∈ c.streams
  | postproc f => ∀ h ∈ checkHal hal f.cameraHandle, f.bufs = [] ∨ a.copy = true ∧
      if h.dualReprocess then takesData a.data h.postproc = true else takesPPData a.pp h.postproc = true
  | dualReproc f => ∀ h ∈ checkHal hal f.cameraHandle, f.bufs = [] ∨
      a.copy = true ∧ takesPPData a.pp h.postproc = true

end Callback

theorem checkHal_some {hal : Option Hal} {cameraHandle : Nat} {h : Hal} (hc : checkHal hal cameraHandle = some h) :
    hal = some h := (Option.filter_eq_some_iff.mp hc).1

theorem takesData_iff {w : World} {chId : Nat} {d : DataInput} (hnew : w.accepted ∉ w.held) :
    w.accepted ∈ (processData chId d w).1.held ↔ takesData d w = true := by
  simp only [World.held, List.mem_append, not_or] at hnew
  unfold processData takesData processRawData
  cases w.inited <;> cases d.needReprocess <;> cases d.nvFormat <;> cases d.malloc <;> cases d.node <;>
    simp [hnew, World.held, World.accept, World.newFrame, enqueue, JpegJob.frames]

theorem takesPPData_iff {w : World} {chId : Nat} {p : PPInput} (hnew : w.accepted ∉ w.held) :
    w.accepted ∈ (processPPData chId p w).1.held ↔ takesPPData p w = true := by
  simp only [World.held, List.mem_append, not_or] at hnew
  unfold processPPData takesPPData
  obtain ⟨thumb, nvFormat, malloc, node⟩ := p
  cases hq : w.ongoingPPQ with
  | nil =>
    rw [hq] at hnew
    cases hi : w.inited <;> cases thumb <;> cases malloc <;> cases node <;>
      simp [hnew, hq, hi, World.held, World.accept, World.newFrame, enqueue, queueReprocessed, JpegJob.frames]
  | cons job rest =>
    rw [hq] at hnew
    simp only [List.map_cons, List.mem_cons, not_or] at hnew
    cases w.inited <;> cases thumb <;> cases nvFormat <;> cases malloc <;> cases node <;>
      simp [hnew, hq, World.held, World.accept, World.newFrame, World.onLedger, enqueue,
        queueReprocessed, processRawData, JpegJob.frames]

theorem nothing_settled {bufs : List BufDef} : (({} : Result).settled.Perm bufs) ↔ bufs = [] := by
  simp [Result.settled]

variable {f : SuperBuf}

theorem bufDone_settled {c : Channel} :
    (c.bufDone f).settled.Perm f.bufs ↔ ∀ b ∈ f.bufs, b.streamId ∈ c.streams := by
  have hsettled : (c.bufDone f).settled = f.bufs.filter fun b => c.streams.contains b.streamId := by
    simp [Result.settled, Channel.bufDone]
  rw [hsettled]
  constructor
  · intro hp b hb
    have hmem := (List.mem_filter.mp (hp.mem_iff.mpr hb)).2
    simpa using hmem
  · intro hall
    rw [List.filter_eq_self.mpr fun b hb => by simpa using hall b hb]

theorem taken_settled {bufs : List BufDef} {taken : Bool} :
    ({ postproc := if taken then bufs else [] } : Result).settled.Perm bufs ↔ bufs = [] ∨ taken = true := by
  cases taken with
  | false => simp [Result.settled]
  | true => simp [Result.settled]

theorem notified_settled {b : BufDef} {n : Notify} :
    ({ application := if n.queued then [b] else [], bufDone := if n.ok then [] else [b], freed := 1 } :
      Result).settled.Perm [b] ↔ n ≠ .unsent := by
  cases n <;> simp [Result.settled, Notify.queued, Notify.ok]

variable (hal : Option Hal)

theorem previewStreamCb_freed (a : Answers) (f : StreamFrame) :
    (previewStreamCb hal a f).freed = 1 := by
  unfold previewStreamCb
  repeat' split
  all_goals rfl

theorem nodisplayPreviewStreamCb_freed (a : Answers) (f : StreamFrame) :
    (nodisplayPreviewStreamCb hal a f).freed = 1 := by
  unfold nodisplayPreviewStreamCb
  repeat' split
  all_goals rfl

theorem postviewStreamCb_freed (f : StreamFrame) : (postviewStreamCb hal f).freed = 1 := by
  unfold postviewStreamCb
  repeat' split
  all_goals rfl

theorem videoStreamCb_freed (a : Answers) (f : StreamFrame) :
    (videoStreamCb hal a f).freed = 1 := by
  unfold videoStreamCb
  repeat' split
  all_goals rfl

theorem zslChannelCb_freed (a : Answers) (f : SuperBuf) : (zslChannelCb hal a f).freed = 0 := by
  unfold zslChannelCb
  repeat' split
  all_goals rfl

theorem postprocChannelCb_freed (a : Answers) (f : SuperBuf) :
    (postprocChannelCb hal a f).freed = 0 := by
  unfold postprocChannelCb
  repeat' split
  all_goals rfl

theorem dualReprocChannelCb_freed (a : Answers) (f : SuperBuf) :
    (dualReprocChannelCb hal a f).freed = 0 := by
  unfold dualReprocChannelCb
  repeat' split
  all_goals rfl

theorem snapshotChannelCb_freed (a : Answers) (f : SuperBuf) :
    (snapshotChannelCb hal a f).freed = if (checkHal hal f.cameraHandle).isNone then 1 else 0 := by
  unfold snapshotChannelCb
  cases checkHal hal f.cameraHandle with
  | none => rfl
  | some h =>
    dsimp only
    repeat' split
    all_goals first | rfl | contradiction

theorem released_iff_of {cb : Callback} {hal : Option Hal} {a : Answers} {P : Hal → Prop}
    (hfreed : (cb.run hal a).freed = if cb.ownsFrame then 1 else 0)
    (hvalid : cb.Valid hal ↔ ∃ h ∈ checkHal hal cb.cameraHandle, True)
    (hrun : ∀ h ∈ checkHal hal cb.cameraHandle, (cb.run hal a).settled.Perm cb.bufs ↔ P h) :
    cb.Released hal a ↔ ∀ h ∈ checkHal hal cb.cameraHandle, P h := by
  constructor
  · intro hr h hh
    exact (hrun h hh).mp (hr.buffers (hvalid.mpr ⟨h, hh, trivial⟩))
  · intro hs
    refine ⟨fun hv => ?_, hfreed⟩
    obtain ⟨h, hh, -⟩ := hvalid.mp hv
    exact (hrun h hh).mpr (hs h hh)

theorem preview_released_iff (f : StreamFrame) (hal : Option Hal) (a : Answers) :
    (Callback.preview f).Released hal a ↔ (Callback.preview f).Safe hal a := by
  refine released_iff_of (previewStreamCb_freed hal a f) Iff.rfl fun h hh => ?_
  obtain rfl := checkHal_some hh
  show (previewStreamCb (some h) a f).settled.Perm [f.buf] ↔ _
  unfold previewStreamCb
  cases hm : f.buf.memInfo with
  | none => simp [Result.settled]
  | some m =>
    by_cases hneed : h.needProcess.1 = true
    · by_cases hskip : h.skips f.buf.frameIdx = true
      · simp [Result.settled, hneed, hskip]
      · cases ho : m.owned <;> cases he : a.enqueueBuffer <;>
          simp [Result.settled, hneed, hskip, displayBuffer, ho, he]
    · simp [Result.settled, hneed]

theorem nodisplayPreview_released_iff (f : StreamFrame) (hal : Option Hal) (a : Answers) :
    (Callback.nodisplayPreview f).Released hal a ↔ (Callback.nodisplayPreview f).Safe hal a := by
  refine released_iff_of (nodisplayPreviewStreamCb_freed hal a f) Iff.rfl fun h hh => ?_
  have hcheck : checkHal hal f.cameraHandle = some h := hh
  show (nodisplayPreviewStreamCb hal a f).settled.Perm [f.buf] ↔ _
  unfold nodisplayPreviewStreamCb
  rw [hcheck]
  dsimp only
  by_cases hneed : h.needProcess.1 = true
  · by_cases hskip : h.skips f.buf.frameIdx = true
    · simp [Result.settled, hneed, hskip]
    · by_cases hmem : f.buf.memInfo.any (·.memory) = true
      · by_cases hwanted : (h.needProcess.2 && h.dataCb && h.previewFrameMsg) = true
        · have hn := @notified_settled f.buf a.notify
          simpa [hneed, hskip, hmem, hwanted] using hn
        · simp [Result.settled, hneed, hskip, hmem, hwanted]
      · simp [Result.settled, hneed, hskip, hmem]
  · simp [Result.settled, hneed]

theorem postview_released_iff (f : StreamFrame) (hal : Option Hal) (a : Answers) :
    (Callback.postview f).Released hal a ↔ (Callback.postview f).Safe hal a := by
  have hiff := @released_iff_of (.postview f) hal a (fun _ => f.buf.memInfo.isSome = true)
    (postviewStreamCb_freed hal f) Iff.rfl fun h hh => by
      obtain rfl := checkHal_some hh
      show (postviewStreamCb (some h) f).settled.Perm [f.buf] ↔ _
      unfold postviewStreamCb
      cases f.buf.memInfo <;> simp [Result.settled]
  rw [hiff]
  constructor
  · intro hs hsome
    obtain ⟨h, hh⟩ := Option.isSome_iff_exists.mp hsome
    exact hs h hh
  · intro hs h hh
    exact hs (Option.isSome_iff_exists.mpr ⟨h, hh⟩)

theorem video_released_iff (f : StreamFrame) (hal : Option Hal) (a : Answers) :
    (Callback.video f).Released hal a ↔ (Callback.video f).Safe hal a := by
  refine released_iff_of (videoStreamCb_freed hal a f) Iff.rfl fun h hh => ?_
  have hcheck : checkHal hal f.cameraHandle = some h := hh
  show (videoStreamCb hal a f).settled.Perm [f.buf] ↔ _
  unfold videoStreamCb
  rw [hcheck]
  dsimp only
  by_cases hwanted : (f.buf.memInfo.any (·.memory) && h.dataCbTimestamp && h.videoFrameMsg) = true
  · have hn := @notified_settled f.buf a.notify
    rw [if_pos hwanted, hn]
    simp only [Bool.and_eq_true] at hwanted
    simp [hwanted]
  · rw [if_neg hwanted]
    simp only [Bool.and_eq_true, not_and, and_assoc] at hwanted
    constructor
    · intro hp
      simp [Result.settled] at hp
    · rintro ⟨hmem, hcb, hmsg, -⟩
      exact absurd hmsg (hwanted hmem hcb)

variable {a : Answers}

theorem sendData_settled {h : Hal} :
    (sendData h a f).settled.Perm f.bufs ↔ f.bufs = [] ∨ takesData a.data h.postproc = true := taken_settled

theorem sendPPData_settled {h : Hal} :
    (sendPPData h a f).settled.Perm f.bufs ↔ f.bufs = [] ∨ takesPPData a.pp h.postproc = true := taken_settled

theorem copied_settled {c : Channel} {h : Hal} :
    (if !a.copy then c.bufDone f else sendData h a f).settled.Perm f.bufs ↔
      if a.copy then f.bufs = [] ∨ takesData a.data h.postproc = true
      else ∀ b ∈ f.bufs, b.streamId ∈ c.streams := by
  cases a.copy with
  | false => exact bufDone_settled
  | true => exact sendData_settled

theorem zsl_released_iff (f : SuperBuf) (hal : Option Hal) (a : Answers) :
    (Callback.zsl f).Released hal a ↔ (Callback.zsl f).Safe hal a := by
  have hrun : ∀ h ∈ checkHal hal f.cameraHandle, ∀ c ∈ checkChannel h.zsl f.chId,
      (zslChannelCb hal a f).settled.Perm f.bufs ↔
        if a.copy then f.bufs = [] ∨ takesData a.data h.postproc = true
        else ∀ b ∈ f.bufs, b.streamId ∈ c.streams := by
    intro h hh c hc
    have hcheck : checkHal hal f.cameraHandle = some h := hh
    have hchannel : checkChannel h.zsl f.chId = some c := hc
    unfold zslChannelCb
    rw [hcheck]
    dsimp only
    rw [hchannel]
    exact copied_settled
  constructor
  · intro hr h hh c hc
    exact (hrun h hh c hc).mp (hr.buffers ⟨h, hh, Option.isSome_iff_exists.mpr ⟨c, hc⟩⟩)
  · intro hs
    refine ⟨?_, zslChannelCb_freed hal a f⟩
    rintro ⟨h, hh, hsome⟩
    obtain ⟨c, hc⟩ := Option.isSome_iff_exists.mp hsome
    exact (hrun h hh c hc).mpr (hs h hh c hc)

theorem postproc_released_iff (f : SuperBuf) (hal : Option Hal) (a : Answers) :
    (Callback.postproc f).Released hal a ↔ (Callback.postproc f).Safe hal a := by
  refine released_iff_of (postprocChannelCb_freed hal a f) Iff.rfl fun h hh => ?_
  have hcheck : checkHal hal f.cameraHandle = some h := hh
  show (postprocChannelCb hal a f).settled.Perm f.bufs ↔ _
  unfold postprocChannelCb
  rw [hcheck]
  dsimp only
  cases a.copy with
  | false => simpa using nothing_settled
  | true =>
    cases h.dualReprocess with
    | false => simpa using sendPPData_settled
    | true => simpa using sendData_settled

theorem dualReproc_released_iff (f : SuperBuf) (hal : Option Hal) (a : Answers) :
    (Callback.dualReproc f).Released hal a ↔ (Callback.dualReproc f).Safe hal a := by
  refine released_iff_of (dualReprocChannelCb_freed hal a f) Iff.rfl fun h hh => ?_
  have hcheck : checkHal hal f.cameraHandle = some h := hh
  show (dualReprocChannelCb hal a f).settled.Perm f.bufs ↔ _
  unfold dualReprocChannelCb
  rw [hcheck]
  dsimp only
  cases a.copy with
  | false => simpa using nothing_settled
  | true => simpa using sendPPData_settled

theorem snapshot_settled {hal : Option Hal} {h : Hal} {c : Channel}
    (hh : checkHal hal f.cameraHandle = some h) (hc : Callback.snapshotChannel h f = some c) :
    (snapshotChannelCb hal a f).settled.Perm f.bufs ↔ f.bufs = [] ∨
      (h.dumpMetadata = true → (checkChannel h.snapshot f.chId).isSome = true) ∧
        if a.copy then takesData a.data h.postproc = true else ∀ b ∈ f.bufs, b.streamId ∈ c.streams := by
  have hchannel : checkChannel (if h.lowPower then h.video else h.snapshot) f.chId = some c := hc
  unfold snapshotChannelCb
  rw [hh]
  dsimp only
  rw [hchannel]
  dsimp only
  by_cases hdump : h.dumpMetadata = true → (checkChannel h.snapshot f.chId).isSome = true
  · have hpass : (h.dumpMetadata && (checkChannel h.snapshot f.chId).isNone) = false := by
      cases hd : h.dumpMetadata with
      | false => rfl
      | true => simpa using hdump hd
    simp only [hpass, Bool.false_eq_true, if_false]
    rw [copied_settled]
    cases a.copy with
    | true =>
      simp only [if_true]
      exact or_congr Iff.rfl (and_iff_right hdump).symm
    | false =>
      simp only [Bool.false_eq_true, if_false]
      constructor
      · exact fun hall => .inr ⟨hdump, hall⟩
      · rintro (hnil | ⟨-, hall⟩)
        · simp [hnil]
        · exact hall
  · -- the frame comes from the video channel, and the dump finds no snapshot channel
    have hfail : (h.dumpMetadata && (checkChannel h.snapshot f.chId).isNone) = true := by
      simp only [Classical.not_imp, Bool.not_eq_true, Option.isSome_eq_false_iff] at hdump
      simp [hdump.1, hdump.2]
    rw [if_pos hfail, nothing_settled]
    constructor
    · exact .inl
    · rintro (hnil | ⟨hpass, -⟩)
      · exact hnil
      · exact absurd hpass hdump

theorem snapshot_released_iff (f : SuperBuf) (hal : Option Hal) (a : Answers) :
    (Callback.snapshot f).Released hal a ↔ (Callback.snapshot f).Safe hal a := by
  constructor
  · intro hr
    have hfreed : (if (checkHal hal f.cameraHandle).isNone then 1 else 0) = 0 :=
      (snapshotChannelCb_freed hal a f).symm.trans hr.freed
    cases hh : checkHal hal f.cameraHandle with
    | none =>
      rw [hh] at hfreed
      cases hfreed
    | some h =>
      refine ⟨h, hh, fun c hc => (snapshot_settled hh hc).mp ?_⟩
      exact hr.buffers ⟨h, hh, Option.isSome_iff_exists.mpr ⟨c, hc⟩⟩
  · rintro ⟨h, hh, hs⟩
    have hcheck : checkHal hal f.cameraHandle = some h := hh
    constructor
    · rintro ⟨h', hh', hsome⟩
      obtain rfl : h = h' := Option.some.inj (hcheck.symm.trans hh')
      obtain ⟨c, hc⟩ := Option.isSome_iff_exists.mp hsome
      exact (snapshot_settled hcheck hc).mpr (hs c hc)
    · refine (snapshotChannelCb_freed hal a f).trans ?_
      rw [hcheck]
      rfl

/-- Each callback releases its frame in just these states and with just these answers. -/
theorem frame_released_iff (cb : Callback) (hal : Option Hal) (a : Answers) :
    cb.Released hal a ↔ cb.Safe hal a := by
  cases cb with
  | preview f => exact preview_released_iff f hal a
  | nodisplayPreview f => exact nodisplayPreview_released_iff f hal a
  | postview f => exact postview_released_iff f hal a
  | video f => exact video_released_iff f hal a
  | zsl f => exact zsl_released_iff f hal a
  | snapshot f => exact snapshot_released_iff f hal a
  | postproc f => exact postproc_released_iff f hal a
  | dualReproc f => exact dualReproc_released_iff f hal a

def recordingHal : Hal where
  cameraHandle := some 1
  zsl := none
  snapshot := none
  video := some ⟨3, [7]⟩
  needProcess := (true, true)
  previewFrameSkip := none
  dataCb := true
  dataCbTimestamp := true
  previewFrameMsg := false
  videoFrameMsg := false
  lowPower := false
  dumpMetadata := false
  dualReprocess := false
  postproc := {}

/-- The frame's structure is freed and its buffer is with nobody. -/
theorem unwanted_video_frame_lost :
    ¬ ∀ (cb : Callback) (hal : Option Hal) (a : Answers), cb.Released hal a := by
  intro h
  have hr := (h (.video ⟨1, ⟨0, 7, 4, some ⟨true, true⟩⟩⟩) (some recordingHal)
    ⟨true, none, .sent, true, ⟨false, false, true, true⟩, {}⟩).buffers ⟨recordingHal, rfl, trivial⟩
  exact absurd hr (by decide)

end Wt88047.FrameCallbacks
