import Mathlib.Data.List.Basic
import Mathlib.Tactic.SplitIfs

/-! The memory of a JPEG event: what `processJpegEvt` obtains or receives, and who releases it. -/

namespace Wt88047.JpegMemory

/-- A `camera_memory_t`, named by where it comes from: `mem_hdl` of the event's output buffer,
`mGetMemory`, or `m_DataMem`. -/
inductive Mem
  | output
  | jpeg
  | dataMem
  deriving DecidableEq

structure Ledger where
  obtained : List Mem := []
  released : List Mem := []
  handed : List Mem := []
  deriving DecidableEq

namespace Ledger

def gain (m : Option Mem) (g : Ledger) : Ledger := { g with obtained := g.obtained ++ m.toList }

def release (m : Option Mem) (g : Ledger) : Ledger := { g with released := g.released ++ m.toList }

def hand (m : Option Mem) (g : Ledger) : Ledger := { g with handed := g.handed ++ m.toList }

end Ledger

inductive Status
  | noError
  | unknownError
  | noMemory
  | failedTransaction
  deriving DecidableEq

/-- How `sendDataNotify` ends: it has no memory, the notifier takes the notification, turns it down,
or fails with it queued, when its command cannot be sent. -/
inductive Notify
  | noMem
  | taken
  | refused
  | queued
  deriving DecidableEq

/-- `sendDataNotify`, where a notification that fails is released at once. -/
def sendDataNotify (m : Option Mem) (o : Notify) (g : Ledger) : Ledger × Status :=
  match o with
  | .noMem => (g, .noMemory)
  | .taken => (g.hand m, .noError)
  | .refused => (g.release m, .unknownError)
  | .queued => ((g.release m).hand m, .unknownError)

/-- The post-processor as far as the event is concerned. `callback` is whether there is a data
callback that takes compressed images. -/
structure PostProcessor where
  inited : Bool := true
  useSaveProc : Bool := false
  longshot : Bool := false
  intEvtPending : Bool := false
  callback : Bool := true
  jpegMemOpt : Bool := true
  mtfRefocus : Bool := false
  mtfOutputCount : Nat := 0
  ubiRefocus : Bool := false
  ufOutputCount : Nat := 0
  outputImageCount : Nat := 0
  dataMem : Bool := false

/-- `qcamera_jpeg_evt_payload_t`; `outData` is `none` for a NULL `buf_vaddr`, and tells whether the
buffer read as an `omx_jpeg_ouput_buf_t` has a `mem_hdl`. -/
structure JpegEvt where
  error : Bool := false
  outData : Option Bool := some true

structure Outcome where
  saveData : Bool := true
  getMemory : Bool := true
  jpegNotify : Notify := .taken
  dataNotify : Notify := .taken

def JpegEvt.memHdl (e : JpegEvt) : Option Mem :=
  if e.outData = some true then some .output else none

def received (p : PostProcessor) (e : JpegEvt) : Option Mem :=
  if p.jpegMemOpt then e.memHdl else none

def PostProcessor.heldData (p : PostProcessor) : Option Mem :=
  if p.dataMem then some .dataMem else none

def sendDepthMap (o : Outcome) (rc : Status) (p : PostProcessor) (g : Ledger) :
    PostProcessor × Ledger × Status :=
  if p.ubiRefocus ∧ p.outputImageCount + 1 = p.ufOutputCount then
    let r := sendDataNotify p.heldData o.dataNotify (g.gain p.heldData)
    ({ p with outputImageCount := p.outputImageCount + 1, dataMem := false },
      if r.2 = .noError then r.1 else r.1.release p.heldData, r.2)
  else (p, g, rc)

def finish (o : Outcome) (rc : Status) (jpegMem : Option Mem) (p : PostProcessor) (g : Ledger) :
    PostProcessor × Ledger × Status :=
  sendDepthMap o rc p (if rc = .noError then g else g.release jpegMem)

def sendJpeg (o : Outcome) (jpegMem : Option Mem) (p : PostProcessor) (g : Ledger) :
    PostProcessor × Ledger × Status :=
  let r := sendDataNotify jpegMem o.jpegNotify g
  finish o r.2 jpegMem p r.1

def processJpegEvt (e : JpegEvt) (o : Outcome) (p : PostProcessor) :
    PostProcessor × Ledger × Status :=
  let g : Ledger := ({} : Ledger).gain (received p e)
  if !p.inited then (p, g, .unknownError)
  else if p.useSaveProc ∧ p.longshot then (p, g, if o.saveData then .noError else .noMemory)
  else if !p.intEvtPending ∧ !p.callback then finish o .noError none p g
  else if e.error then finish o .failedTransaction none p g
  else if p.intEvtPending then (p, g, .noError)
  else
    let p := { p with outputImageCount := p.outputImageCount + 1 }
    if p.mtfRefocus ∧ p.outputImageCount < p.mtfOutputCount then
      finish o .noError none p (g.release e.memHdl)
    else if p.jpegMemOpt then sendJpeg o e.memHdl p g
    else if o.getMemory then sendJpeg o (some .jpeg) p (g.gain (some .jpeg))
    else finish o .noMemory none p g

namespace Ledger

def releases (g : Ledger) (m : Mem) : Nat := g.released.count m + g.handed.count m

def Settled (g : Ledger) : Prop := ∀ m, g.releases m = g.obtained.count m

instance (g : Ledger) : Decidable g.Settled :=
  decidable_of_iff (∀ m ∈ [Mem.output, .jpeg, .dataMem], g.releases m = g.obtained.count m)
    ⟨fun h m => h m (by cases m <;> simp), fun h m _ => h m⟩

variable {g : Ledger} {m : Mem} {x : Option Mem}

@[simp] theorem gain_obtained : (g.gain x).obtained = g.obtained ++ x.toList := rfl

@[simp] theorem gain_releases : (g.gain x).releases m = g.releases m := rfl

@[simp] theorem release_obtained : (g.release x).obtained = g.obtained := rfl

@[simp] theorem release_releases : (g.release x).releases m = g.releases m + x.toList.count m := by
  have hr : (g.release x).released.count m = g.released.count m + x.toList.count m :=
    List.count_append
  have hh : (g.release x).handed = g.handed := rfl
  unfold releases
  rw [hr, hh]
  omega

@[simp] theorem hand_releases : (g.hand x).releases m = g.releases m + x.toList.count m := by
  have hh : (g.hand x).handed.count m = g.handed.count m + x.toList.count m :=
    List.count_append
  have hr : (g.hand x).released = g.released := rfl
  unfold releases
  rw [hr, hh]
  omega

end Ledger

def Notify.Honest (o : Notify) : Prop := o ≠ .refused ∧ o ≠ .queued

variable {p : PostProcessor} {e : JpegEvt} {o : Outcome} {g : Ledger} {m : Mem} {x : Option Mem}
  {rc : Status} {n : Notify}

def settleNotify (x : Option Mem) (n : Notify) (g : Ledger) : Ledger :=
  if (sendDataNotify x n g).2 = .noError then (sendDataNotify x n g).1
  else (sendDataNotify x n g).1.release x

theorem settleNotify_obtained : (settleNotify x n g).obtained = g.obtained := by
  cases n <;> rfl

theorem settleNotify_releases : (settleNotify x n g).releases m = g.releases m +
    x.toList.count m * (if n = .refused then 2 else if n = .queued then 3 else 1) := by
  cases n with
  | noMem => simp [settleNotify, sendDataNotify]
  | taken => simp [settleNotify, sendDataNotify]
  | refused =>
    simp [settleNotify, sendDataNotify]
    omega
  | queued =>
    simp [settleNotify, sendDataNotify]
    omega

theorem settleNotify_once (hx : x.toList.count m = 1) :
    (settleNotify x n g).releases m = g.releases m + 1 ↔ n.Honest := by
  rw [settleNotify_releases, hx]
  cases n <;> simp [Notify.Honest]

theorem settleNotify_other (hx : x.toList.count m = 0) :
    (settleNotify x n g).releases m = g.releases m := by
  rw [settleNotify_releases, hx, Nat.zero_mul, Nat.add_zero]

def PostProcessor.DepthDue (p : PostProcessor) : Prop :=
  p.ubiRefocus = true ∧ p.outputImageCount + 1 = p.ufOutputCount

instance (p : PostProcessor) : Decidable p.DepthDue := inferInstanceAs (Decidable (_ ∧ _))

theorem sendDepthMap_ledger : (sendDepthMap o rc p g).2.1 =
    if p.DepthDue then settleNotify p.heldData o.dataNotify (g.gain p.heldData) else g := by
  by_cases hd : p.DepthDue
  · rw [sendDepthMap, if_pos hd, if_pos (show _ ∧ _ from hd)]
    rfl
  · rw [sendDepthMap, if_neg hd, if_neg (show ¬(_ ∧ _) from hd)]

theorem heldData_count (hm : m ≠ .dataMem) : p.heldData.toList.count m = 0 := by
  unfold PostProcessor.heldData
  split_ifs
  · exact List.count_eq_zero.mpr (by simpa using hm)
  · rfl

theorem sendDepthMap_other (hm : m ≠ .dataMem) :
    (sendDepthMap o rc p g).2.1.releases m = g.releases m ∧
      (sendDepthMap o rc p g).2.1.obtained.count m = g.obtained.count m := by
  rw [sendDepthMap_ledger]
  split_ifs
  · refine ⟨settleNotify_other (heldData_count hm), ?_⟩
    rw [settleNotify_obtained, Ledger.gain_obtained, List.count_append, heldData_count hm]
    rfl
  · exact ⟨rfl, rfl⟩

theorem sendDepthMap_data (hr : g.releases .dataMem = 0) (ho : g.obtained.count .dataMem = 0) :
    (sendDepthMap o rc p g).2.1.releases .dataMem =
        (sendDepthMap o rc p g).2.1.obtained.count .dataMem ↔
      (p.DepthDue → p.dataMem = true → o.dataNotify.Honest) := by
  rw [sendDepthMap_ledger]
  by_cases hd : p.DepthDue
  · rw [if_pos hd, settleNotify_obtained, Ledger.gain_obtained, List.count_append, ho]
    cases hp : p.dataMem with
    | false =>
      have hheld : p.heldData.toList.count .dataMem = 0 := by
        rw [PostProcessor.heldData, if_neg (by rw [hp]; decide)]
        rfl
      rw [settleNotify_other hheld, Ledger.gain_releases, hr, hheld]
      simp
    | true =>
      have hheld : p.heldData.toList.count .dataMem = 1 := by
        rw [PostProcessor.heldData, if_pos hp]
        rfl
      have honce := @settleNotify_once (g.gain p.heldData) .dataMem p.heldData o.dataNotify hheld
      rw [Ledger.gain_releases, hr] at honce
      rw [hheld, honce]
      simp [hd]
  · rw [if_neg hd, hr, ho]
    simp [hd]

theorem sendDepthMap_settled (hr : g.releases .dataMem = 0) (ho : g.obtained.count .dataMem = 0) :
    (sendDepthMap o rc p g).2.1.Settled ↔ g.Settled ∧
      (p.DepthDue → p.dataMem = true → o.dataNotify.Honest) := by
  have hdata := @sendDepthMap_data p o g rc hr ho
  constructor
  · intro h
    refine ⟨fun m => ?_, hdata.mp (h .dataMem)⟩
    by_cases hm : m = .dataMem
    · rw [hm, hr, ho]
    · obtain ⟨hrel, hobt⟩ := @sendDepthMap_other p o g m rc hm
      rw [← hrel, ← hobt]
      exact h m
  · rintro ⟨hg, hd⟩ m
    by_cases hm : m = .dataMem
    · rw [hm]
      exact hdata.mpr hd
    · obtain ⟨hrel, hobt⟩ := @sendDepthMap_other p o g m rc hm
      rw [hrel, hobt]
      exact hg m

def Counts (p : PostProcessor) (e : JpegEvt) : Prop :=
  p.inited = true ∧ ¬(p.useSaveProc = true ∧ p.longshot = true) ∧ p.intEvtPending = false ∧
    p.callback = true ∧ e.error = false

def Skips (p : PostProcessor) : Prop :=
  p.mtfRefocus = true ∧ p.outputImageCount + 1 < p.mtfOutputCount

def DepthMap (p : PostProcessor) (e : JpegEvt) : Prop :=
  p.inited = true ∧ ¬(p.useSaveProc = true ∧ p.longshot = true) ∧
    (p.intEvtPending = true → e.error = true) ∧ p.ubiRefocus = true ∧
    p.outputImageCount + (if p.intEvtPending = false ∧ p.callback = true ∧ e.error = false then 1
      else 0) + 1 = p.ufOutputCount

def jpegMem (p : PostProcessor) (e : JpegEvt) (o : Outcome) : Option Mem :=
  if p.jpegMemOpt then e.memHdl else if o.getMemory then some .jpeg else none

instance (p : PostProcessor) : Decidable (Skips p) := inferInstanceAs (Decidable (_ ∧ _))

/-- Memory received with the event comes to the count of the images; a skipped image was encoded
into such memory; and the notifier does not fail to take a notification that has memory. -/
structure Sound (p : PostProcessor) (e : JpegEvt) (o : Outcome) : Prop where
  counted : received p e ≠ none → Counts p e
  skipped : Counts p e → Skips p → p.jpegMemOpt = false → e.memHdl = none
  jpeg : Counts p e → ¬Skips p → jpegMem p e o ≠ none → o.jpegNotify.Honest
  depth : DepthMap p e → p.dataMem = true → o.dataNotify.Honest

theorem finish_ledger : (finish o rc x p g).2.1 =
    (sendDepthMap o rc p (if rc = .noError then g else g.release x)).2.1 := rfl

theorem sendJpeg_ledger : (sendJpeg o x p g).2.1 =
    (sendDepthMap o (sendDataNotify x o.jpegNotify g).2 p (settleNotify x o.jpegNotify g)).2.1 := rfl

theorem memHdl_data : e.memHdl.toList.count .dataMem = 0 := by
  unfold JpegEvt.memHdl
  split_ifs <;> rfl

theorem received_data : (received p e).toList.count .dataMem = 0 := by
  unfold received
  split_ifs
  · exact memHdl_data
  · rfl

theorem gained_settled : (({} : Ledger).gain x).Settled ↔ x = none := by
  constructor
  · intro h
    cases x with
    | none => rfl
    | some m =>
      have hm : 0 = (({} : Ledger).gain (some m)).obtained.count m := h m
      rw [Ledger.gain_obtained, List.nil_append, Option.toList_some, List.count_singleton_self] at hm
      omega
  · rintro rfl m
    rfl

theorem sent_settled (hx : x ≠ some .dataMem) :
    (settleNotify x n (({} : Ledger).gain x)).Settled ↔ (x ≠ none → n.Honest) := by
  cases x with
  | none =>
    refine ⟨fun _ h => absurd rfl h, fun _ m => ?_⟩
    rw [settleNotify_other rfl, settleNotify_obtained]
    rfl
  | some y =>
    have hy : (some y).toList.count y = 1 := List.count_singleton_self
    have honce := @settleNotify_once (({} : Ledger).gain (some y)) y (some y) n hy
    have hobt (m : Mem) : (settleNotify (some y) n (({} : Ledger).gain (some y))).obtained.count m =
        [y].count m := by
      rw [settleNotify_obtained]
      rfl
    constructor
    · intro h _
      refine honce.mp ?_
      rw [h y, hobt y, List.count_singleton_self]
      rfl
    · intro h m
      rw [hobt m]
      by_cases hm : m = y
      · rw [hm, honce.mpr (h (by simp)), List.count_singleton_self]
        rfl
      · have hother : [y].count m = 0 := List.count_eq_zero.mpr (by simpa using hm)
        rw [settleNotify_other hother, hother]
        rfl

theorem release_none_settled : (g.release none).Settled ↔ g.Settled := by
  unfold Ledger.Settled
  simp

theorem sound_dropped (hc : ¬Counts p e) : Sound p e o ↔ received p e = none ∧
    (DepthMap p e → p.dataMem = true → o.dataNotify.Honest) :=
  ⟨fun h => ⟨by_contra fun hr => hc (h.counted hr), h.depth⟩,
    fun h => ⟨fun hr => absurd h.1 hr, fun hx => absurd hx hc, fun hx => absurd hx hc, h.2⟩⟩

theorem sound_counted (hc : Counts p e) : Sound p e o ↔
    ((Skips p → p.jpegMemOpt = false → e.memHdl = none) ∧
      (¬Skips p → jpegMem p e o ≠ none → o.jpegNotify.Honest)) ∧
    (DepthMap p e → p.dataMem = true → o.dataNotify.Honest) :=
  ⟨fun h => ⟨⟨h.skipped hc, h.jpeg hc⟩, h.depth⟩,
    fun h => ⟨fun _ => hc, fun _ => h.1.1, fun _ => h.1.2, h.2⟩⟩

theorem dropped_settled {r : Status} (hd : DepthMap p e ↔ p.DepthDue) (hc : ¬Counts p e)
    (hg : g = ({} : Ledger).gain (received p e)) :
    (finish o r none p g).2.1.Settled ↔ Sound p e o := by
  have hrel : (if r = .noError then g else g.release none).Settled ↔ g.Settled := by
    by_cases hr : r = .noError
    · rw [if_pos hr]
    · rw [if_neg hr]
      exact release_none_settled
  have hzero : (if r = .noError then g else g.release none).releases .dataMem = 0 := by
    by_cases hr : r = .noError
    · rw [if_pos hr, hg]
      rfl
    · rw [if_neg hr, hg]
      rfl
  have hobt : (if r = .noError then g else g.release none).obtained.count .dataMem = 0 := by
    have heq : (if r = .noError then g else g.release none).obtained = g.obtained := by
      by_cases hr : r = .noError
      · rw [if_pos hr]
      · rw [if_neg hr]
        rfl
    rw [heq, hg]
    exact received_data
  rw [finish_ledger, sendDepthMap_settled hzero hobt, hrel, hg, gained_settled, sound_dropped hc, hd]

theorem sendJpeg_settled (hx : x ≠ some .dataMem) :
    (sendJpeg o x p (({} : Ledger).gain x)).2.1.Settled ↔
      (x ≠ none → o.jpegNotify.Honest) ∧ (p.DepthDue → p.dataMem = true → o.dataNotify.Honest) := by
  have hcount : x.toList.count .dataMem = 0 := by
    cases x with
    | none => rfl
    | some y => exact List.count_eq_zero.mpr (by simpa [eq_comm] using hx)
  have hzero : (settleNotify x o.jpegNotify (({} : Ledger).gain x)).releases .dataMem = 0 := by
    rw [settleNotify_other hcount]
    rfl
  have hobt : (settleNotify x o.jpegNotify (({} : Ledger).gain x)).obtained.count .dataMem = 0 := by
    rw [settleNotify_obtained]
    exact hcount
  rw [sendJpeg_ledger, sendDepthMap_settled hzero hobt, sent_settled hx]

theorem skipped_settled : ((({} : Ledger).gain (received p e)).release e.memHdl).Settled ↔
    (p.jpegMemOpt = false → e.memHdl = none) := by
  have hobt : ((({} : Ledger).gain (received p e)).release e.memHdl).obtained =
      (received p e).toList := rfl
  have hrel (m : Mem) : ((({} : Ledger).gain (received p e)).release e.memHdl).releases m =
      e.memHdl.toList.count m := by
    rw [Ledger.release_releases]
    exact Nat.zero_add _
  cases hp : p.jpegMemOpt with
  | true =>
    have hr : received p e = e.memHdl := by rw [received, if_pos hp]
    refine ⟨fun _ h => Bool.noConfusion h, fun _ m => ?_⟩
    rw [hrel, hobt, hr]
  | false =>
    have hr : received p e = none := by rw [received, if_neg (by rw [hp]; decide)]
    constructor
    · intro h _
      cases hm : e.memHdl with
      | none => rfl
      | some y =>
        have hy : e.memHdl.toList.count y = (received p e).toList.count y := by
          rw [← hrel, ← hobt]
          exact h y
        rw [hm, hr, Option.toList_some, List.count_singleton_self] at hy
        have hone : 1 = 0 := hy
        omega
    · intro h m
      rw [hrel, hobt, hr, h rfl]

theorem counted_depth (hc : Counts p e) : DepthMap p e ↔
    ({ p with outputImageCount := p.outputImageCount + 1 } : PostProcessor).DepthDue := by
  obtain ⟨hin, hsave, hint, hcb, herr⟩ := hc
  unfold DepthMap PostProcessor.DepthDue
  rw [if_pos ⟨hint, hcb, herr⟩]
  exact ⟨fun h => h.2.2.2, fun h => ⟨hin, hsave, fun hi => absurd hi (by rw [hint]; decide), h⟩⟩

/-- Each memory that an event obtains or receives is released once, or is to be released once by
the notification that took it, exactly under the condition. -/
theorem released_once_iff (p : PostProcessor) (e : JpegEvt) (o : Outcome) :
    (processJpegEvt e o p).2.1.Settled ↔ Sound p e o := by
  unfold processJpegEvt
  dsimp only
  by_cases hin : p.inited = true
  swap
  · have hc : ¬Counts p e := fun h => hin h.1
    have hd : ¬DepthMap p e := fun h => hin h.1
    rw [if_pos (by simpa using hin), gained_settled, sound_dropped hc]
    exact ⟨fun h => ⟨h, fun hx => absurd hx hd⟩, fun h => h.1⟩
  rw [if_neg (by simpa using hin)]
  by_cases hsave : p.useSaveProc = true ∧ p.longshot = true
  · have hc : ¬Counts p e := fun h => h.2.1 hsave
    have hd : ¬DepthMap p e := fun h => h.2.1 hsave
    rw [if_pos hsave, gained_settled, sound_dropped hc]
    exact ⟨fun h => ⟨h, fun hx => absurd hx hd⟩, fun h => h.1⟩
  rw [if_neg hsave]
  by_cases hcb : (!p.intEvtPending) = true ∧ (!p.callback) = true
  · have hint : p.intEvtPending = false := by simpa using hcb.1
    have hcall : p.callback = false := by simpa using hcb.2
    rw [if_pos hcb]
    refine dropped_settled ?_ (fun h => ?_) rfl
    · simp [DepthMap, PostProcessor.DepthDue, hin, hsave, hint, hcall]
    · exact absurd h.2.2.2.1 (by rw [hcall]; decide)
  rw [if_neg hcb]
  by_cases herr : e.error = true
  · rw [if_pos herr]
    refine dropped_settled ?_ (fun h => ?_) rfl
    · simp [DepthMap, PostProcessor.DepthDue, hin, hsave, herr]
    · exact absurd h.2.2.2.2 (by rw [herr]; decide)
  rw [if_neg herr]
  by_cases hint : p.intEvtPending = true
  · have hc : ¬Counts p e := fun h => absurd h.2.2.1 (by rw [hint]; decide)
    have hd : ¬DepthMap p e := fun h => herr (h.2.2.1 hint)
    rw [if_pos hint, gained_settled, sound_dropped hc]
    exact ⟨fun h => ⟨h, fun hx => absurd hx hd⟩, fun h => h.1⟩
  rw [if_neg hint]
  have hint' : p.intEvtPending = false := by simpa using hint
  have hcall : p.callback = true := by
    by_contra h
    exact hcb ⟨by rw [hint']; rfl, by simpa using h⟩
  have hc : Counts p e := ⟨hin, hsave, hint', hcall, by simpa using herr⟩
  rw [sound_counted hc, counted_depth hc]
  by_cases hskip : Skips p
  · rw [if_pos (show _ ∧ _ from hskip), finish_ledger, if_pos rfl,
      sendDepthMap_settled, skipped_settled]
    · simp [hskip]
    · rw [Ledger.release_releases, memHdl_data]
      rfl
    · exact received_data
  rw [if_neg (show ¬(_ ∧ _) from hskip)]
  cases hopt : p.jpegMemOpt with
  | true =>
    have hmem : jpegMem p e o = e.memHdl := by rw [jpegMem, if_pos hopt]
    have hrec : received p e = e.memHdl := by rw [received, if_pos hopt]
    have hne : e.memHdl ≠ some .dataMem := by
      intro h
      have hzero := @memHdl_data e
      rw [h] at hzero
      exact absurd hzero (by decide)
    rw [if_pos rfl, hrec, sendJpeg_settled hne, hmem]
    simp [hskip]
  | false =>
    have hrec : received p e = none := by rw [received, if_neg (by rw [hopt]; decide)]
    rw [if_neg (by decide), hrec]
    by_cases hget : o.getMemory = true
    · have hmem : jpegMem p e o = some .jpeg := by
        rw [jpegMem, if_neg (by rw [hopt]; decide), if_pos hget]
      have hgain : (({} : Ledger).gain none).gain (some .jpeg) = ({} : Ledger).gain (some .jpeg) := rfl
      rw [if_pos hget, hgain, sendJpeg_settled (by decide), hmem]
      simp [hskip]
    · have hmem : jpegMem p e o = none := by
        rw [jpegMem, if_neg (by rw [hopt]; decide), if_neg hget]
      have hfin : (({} : Ledger).gain none).release none = ({} : Ledger).gain none := rfl
      rw [if_neg hget, finish_ledger, if_neg (by decide), hfin, sendDepthMap_settled rfl rfl,
        gained_settled, hmem]
      simp [hskip]

/-- The notifier turns the notification down: the JPEG memory is released by `sendDataNotify` and
again by the error exit. -/
theorem refused_released_twice :
    ¬(processJpegEvt {} { jpegNotify := .refused } {}).2.1.Settled ∧
      (processJpegEvt {} { jpegNotify := .refused } {}).2.1.released = [.output, .output] := by
  decide

end Wt88047.JpegMemory
