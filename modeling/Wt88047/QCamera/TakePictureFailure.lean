import Wt88047.QCamera.TakePictureChannels

/-! What a failed `takePicture` leaves behind, and that the next one does not see it. -/

namespace Wt88047.TakePicture

variable {c : Config} {o : Outcome} {s : Hwi} {v : JobVar} {ch n : Nat}

open Hwi

theorem allocatePostview_eq {ch : Channel} (hs : Streams s) :
    s.allocatePostview o ch = ({ s with jobs := [] }, o.postviewSlot) := by
  unfold Hwi.allocatePostview Hwi.queueDefferedWork
  rw [wait_buffers hs]
  dsimp only
  cases o.postviewSlot with
  | false => rfl
  | true =>
    have hplain : Plain { s with jobs := [⟨.postview, ch.id⟩] } := by
      intro j hj
      rw [List.mem_singleton.mp hj]
      exact JobVar.noConfusion
    obtain ⟨l, hl, hleft⟩ := wait_left o .postview hplain
    have hnil : l = [] := List.eq_nil_iff_forall_not_mem.mpr fun j hj => by
      obtain ⟨hmem, hv⟩ := hleft j hj
      rw [List.mem_singleton.mp hmem] at hv
      exact hv rfl
    rw [if_pos rfl, List.nil_append, hl, hnil]

theorem reproc_wait (hs : s.jobs = []) (slot : Bool) :
    ((s.queueDefferedWork .reproc ch slot).1).waitDefferedWork o .reproc =
      if slot then s.startPostproc o.ppStart else s := by
  obtain ⟨capture, raw, postproc, jobs, fpsAdjusted, fpsReconfigure, channels⟩ := s
  dsimp only at hs
  rw [hs]
  cases slot with
  | false => rfl
  | true => cases hpp : o.ppStart <;> simp [queueDefferedWork, waitDefferedWork, run, upTo, startPostproc, hpp]

theorem queue_capture {x : Option Channel} (slot : Bool) :
    ({ (s.queueDefferedWork v ch slot).1 with capture := x } : Hwi) =
      (({ s with capture := x } : Hwi).queueDefferedWork v ch slot).1 := by
  unfold Hwi.queueDefferedWork
  split_ifs <;> rfl

theorem run_capture : (s.run o n).capture = s.capture := by
  unfold Hwi.run Hwi.startPostproc
  dsimp only
  split_ifs <;> rfl

structure OnlyCapture (s : Hwi) : Prop where
  raw : s.raw = none
  postproc : s.postproc = false
  jobs : s.jobs = []
  fps : s.fpsAdjusted = false

theorem OnlyCapture.delCapture (h : OnlyCapture s) : Clean s.delCapture :=
  ⟨rfl, h.raw, h.postproc, h.jobs, h.fps⟩

theorem OnlyCapture.delCapture_started (h : OnlyCapture s) :
    Clean (if o.reprocSlot then s.startPostproc o.ppStart else s).delCapture ↔ ¬ppByJob o := by
  unfold ppByJob Hwi.startPostproc
  by_cases hslot : o.reprocSlot = true
  · rw [if_pos hslot]
    by_cases hpp : o.ppStart = .failed
    · rw [if_pos hpp]
      exact iff_of_true h.delCapture fun hstarted => hstarted.2 hpp
    · rw [if_neg hpp]
      exact iff_of_false (fun hclean => Bool.noConfusion hclean.postproc) fun hn => hn ⟨hslot, hpp⟩
  · rw [if_neg hslot]
    exact iff_of_true h.delCapture fun hstarted => hslot hstarted.1

def StartSound (c : Config) (o : Outcome) : Prop :=
  (o.start = false → ¬ppByJob o) ∧
    (o.start = true → (c.captureAdvanced = true → o.startAdvanced = true) ∧
      (c.longshot = true → o.longShot = false → ¬ppByJob o))

theorem startCapture_iff {ch : Channel} (h : OnlyCapture s) :
    ((s.startCapture c o ch).2 = false → Clean (s.startCapture c o ch).1) ↔
      (o.config = true → StartSound c o) := by
  unfold Hwi.startCapture StartSound
  cases hconfig : o.config with
  | false => exact iff_of_true (fun _ => h.delCapture) fun hf => Bool.noConfusion hf
  | true =>
    rw [if_neg (by decide)]
    dsimp only
    cases hstart : o.start with
    | false =>
      rw [if_pos (by decide), reproc_wait h.jobs]
      constructor
      · intro hclean _
        exact ⟨fun _ => h.delCapture_started.mp (hclean rfl), fun hf => Bool.noConfusion hf⟩
      · intro hsound _
        exact h.delCapture_started.mpr ((hsound rfl).1 rfl)
    | true =>
      rw [if_neg (by decide)]
      by_cases hadv : (c.captureAdvanced && !o.startAdvanced) = true
      · rw [if_pos hadv]
        obtain ⟨hfeature, hnot⟩ := Bool.and_eq_true_iff.mp hadv
        refine iff_of_false (fun hclean => ?_) fun hsound => ?_
        · have hcapture := (hclean rfl).capture
          rw [run_capture] at hcapture
          cases hcapture
        · rw [((hsound rfl).2 rfl).1 hfeature] at hnot
          cases hnot
      · rw [if_neg hadv]
        have hfeature : c.captureAdvanced = true → o.startAdvanced = true := by
          intro hf
          rw [hf] at hadv
          simpa using hadv
        by_cases hlong : (c.longshot && !o.longShot) = true
        · obtain ⟨hshot, hfailed⟩ := Bool.and_eq_true_iff.mp hlong
          have hfalse : o.longShot = false := by simpa using hfailed
          have hstarted : OnlyCapture { s with capture := some { ch with started := true } } :=
            ⟨h.raw, h.postproc, h.jobs, h.fps⟩
          have hiff := @OnlyCapture.delCapture_started o _ hstarted
          rw [if_pos hlong, queue_capture, reproc_wait hstarted.jobs]
          constructor
          · intro hclean _
            exact ⟨fun hf => Bool.noConfusion hf, fun _ => ⟨hfeature, fun _ _ => hiff.mp (hclean rfl)⟩⟩
          · intro hsound _
            exact hiff.mpr (((hsound rfl).2 rfl).2 hshot hfalse)
        · rw [if_neg hlong]
          have hlongShot : c.longshot = true → o.longShot = false → ¬ppByJob o := by
            intro hshot hfalse
            rw [hshot, hfalse] at hlong
            exact absurd rfl hlong
          exact iff_of_true (fun hf => Bool.noConfusion hf) fun _ =>
            ⟨fun hf => Bool.noConfusion hf, fun _ => ⟨hfeature, hlongShot⟩⟩

theorem captureSound_added (h : captureAdded c o = true) :
    CaptureSound c o ↔
      (c.longshot = false → o.postviewSlot = true) ∧ (o.config = true → StartSound c o) := by
  have hzero : unwaited c o = 0 := unwaited_added (Bool.and_eq_true_iff.mp h).2
  constructor
  · intro hs
    exact ⟨hs.postview h, fun hconfig => ⟨hs.start h hconfig, fun hstart =>
      ⟨hs.advanced h hconfig hstart, hs.longShot h hconfig hstart⟩⟩⟩
  · rintro ⟨hpostview, hstart⟩
    exact ⟨fun _ _ => by rw [hzero]; exact Nat.zero_le _, fun _ => hpostview,
      fun _ hconfig => (hstart hconfig).1, fun _ hconfig hs => ((hstart hconfig).2 hs).1,
      fun _ hconfig hs => ((hstart hconfig).2 hs).2⟩

theorem captureSound_failed (h : captureAdded c o = false) :
    CaptureSound c o ↔ (o.newChannel = true → o.init = true → unwaited c o ≤ o.ahead) := by
  constructor
  · exact fun hs => hs.unwaited
  · have hnot {p : Prop} (ht : captureAdded c o = true) : p := by
      rw [h] at ht
      cases ht
    exact fun hu => ⟨hu, hnot, hnot, hnot, hnot⟩

theorem takeCapture_iff (h : Clean s) :
    ((s.takeCapture c o).2 = false → Clean (s.takeCapture c o).1) ↔ CaptureSound c o := by
  unfold Hwi.takeCapture
  cases hadded : captureAdded c o with
  | false =>
    obtain ⟨l, k, hr, hl⟩ := addCapture_failed h.jobs hadded
    rw [captureSound_failed hadded, ← hl, hr]
    dsimp only
    rw [if_pos (by decide)]
    constructor
    · exact fun hclean => (hclean rfl).jobs
    · exact fun hnil _ => ⟨rfl, h.raw, h.postproc, hnil, h.fps⟩
  | true =>
    obtain ⟨l, hr, hstreams, hnil⟩ := addCapture_ok h.jobs hadded
    rw [captureSound_added hadded, hr]
    dsimp only
    rw [if_neg (by decide)]
    cases hlong : c.longshot with
    | true =>
      have hd : c.deferred = false := by
        unfold Config.deferred
        rw [hlong]
        simp
      have honly : OnlyCapture { s with
          jobs := l, channels := s.channels + 1, capture := some ⟨s.channels, false⟩ } :=
        ⟨h.raw, h.postproc, hnil hd, h.fps⟩
      rw [if_pos rfl, startCapture_iff honly]
      simp
    | false =>
      have honly : OnlyCapture { s with
          jobs := [], channels := s.channels + 1, capture := some ⟨s.channels, false⟩ } :=
        ⟨h.raw, h.postproc, rfl, h.fps⟩
      have hst : Streams { s with
          jobs := l, channels := s.channels + 1, capture := some ⟨s.channels, false⟩ } := hstreams
      rw [if_neg (by decide), allocatePostview_eq hst]
      dsimp only
      cases hslot : o.postviewSlot with
      | false =>
        rw [if_pos (by decide)]
        refine iff_of_false (fun hclean => ?_) fun hsound => Bool.noConfusion (hsound.1 rfl)
        exact absurd (hclean rfl).capture (Option.some_ne_none _)
      | true =>
        rw [if_neg (by decide), startCapture_iff honly]
        simp

theorem failed_ne_ok : PpStart.failed ≠ .ok := PpStart.noConfusion

theorem left_ne_ok : PpStart.left ≠ .ok := PpStart.noConfusion

theorem left_ne_failed : PpStart.left ≠ .failed := PpStart.noConfusion

theorem adjusted_iff (h : Clean s) :
    Clean { s with
      fpsReconfigure := c.needAdjustFPS
      fpsAdjusted := if c.needAdjustFPS then o.adjustFps || s.fpsAdjusted else s.fpsAdjusted } ↔
      (c.needAdjustFPS = true → o.adjustFps = false) := by
  constructor
  · intro hclean hneed
    have hfps := hclean.fps
    dsimp only at hfps
    rw [if_pos hneed, h.fps, Bool.or_false] at hfps
    exact hfps
  · intro hadjust
    refine ⟨h.capture, h.raw, h.postproc, h.jobs, ?_⟩
    dsimp only
    split_ifs with hneed
    · rw [hadjust hneed, h.fps]
      rfl
    · exact h.fps

theorem takeZsl_iff (h : Clean s) :
    ((s.takeZsl c o).2 = false → Clean (s.takeZsl c o).1) ↔ ZslSound c o := by
  let t : Hwi := { s with
    fpsReconfigure := c.needAdjustFPS
    fpsAdjusted := if c.needAdjustFPS then o.adjustFps || s.fpsAdjusted else s.fpsAdjusted }
  have hadjusted : Clean t ↔ (c.needAdjustFPS = true → o.adjustFps = false) := adjusted_iff h
  -- the adjustment has to be missing wherever a step fails
  have hnone {p : Prop} (hp : ¬p) :
      (c.needAdjustFPS = true → o.adjustFps = true → p) ↔ Clean t := by
    rw [hadjusted]
    constructor
    · intro hadj hneed
      simpa using mt (hadj hneed) hp
    · intro hf hneed hadj
      rw [hf hneed] at hadj
      cases hadj
  unfold Hwi.takeZsl Hwi.startPostproc
  dsimp only
  cases hch : c.zslChannel with
  | false =>
    rw [if_pos (by decide)]
    constructor
    · intro hclean
      have hn {p : Prop} (hf : c.zslChannel = true) : p := by
        rw [hch] at hf
        cases hf
      exact ⟨(hnone fun hp => hn hp.1).mpr (hclean rfl), hn, hn⟩
    · intro hsound _
      exact (hnone fun hp => by rw [hch] at hp; cases hp.1).mp hsound.fps
  | true =>
    rw [if_neg (by decide)]
    cases hpp : o.ppStart with
    | failed =>
      rw [if_pos rfl, if_pos failed_ne_ok]
      constructor
      · intro hclean
        refine ⟨(hnone fun hp => ?_).mpr (hclean rfl), fun _ => ?_, fun _ hok => ?_⟩
        · rw [hpp] at hp
          cases hp.2.1
        · rw [hpp]
          exact PpStart.noConfusion
        · rw [hpp] at hok
          cases hok
      · intro hsound _
        exact (hnone fun hp => by rw [hpp] at hp; cases hp.2.1).mp hsound.fps
    | left =>
      rw [if_neg left_ne_failed, if_pos left_ne_ok]
      exact iff_of_false (fun hclean => Bool.noConfusion (hclean rfl).postproc) fun hsound =>
        hsound.half hch hpp
    | ok =>
      rw [if_neg failed_ne_ok.symm, if_neg fun hne => hne rfl]
      by_cases hadv : (c.advanced && !o.startAdvanced) = true
      · obtain ⟨hfeature, hnot⟩ := Bool.and_eq_true_iff.mp hadv
        rw [if_pos hadv]
        refine iff_of_false (fun hclean => Bool.noConfusion (hclean rfl).postproc) fun hsound => ?_
        rw [hsound.advanced hch hpp hfeature] at hnot
        cases hnot
      · rw [if_neg hadv]
        have hfeature : c.advanced = true → o.startAdvanced = true := by
          intro hf
          rw [hf] at hadv
          simpa using hadv
        have hhalf : c.zslChannel = true → o.ppStart ≠ .left := fun _ => by
          rw [hpp]
          exact PpStart.noConfusion
        cases htake : o.zslTake with
        | true =>
          rw [if_pos rfl]
          exact iff_of_true (fun hf => Bool.noConfusion hf)
            ⟨fun _ _ => ⟨hch, hpp, hfeature, htake⟩, hhalf, fun _ _ => hfeature⟩
        | false =>
          have hback : ({ t with postproc := true } : Hwi).stopPostproc = t :=
            congrArg (fun b => ({ t with postproc := b } : Hwi)) h.postproc.symm
          have hfail : ¬(c.zslChannel = true ∧ o.ppStart = .ok ∧
              (c.advanced = true → o.startAdvanced = true) ∧ o.zslTake = true) := by
            rintro ⟨_, _, _, hf⟩
            rw [htake] at hf
            cases hf
          rw [if_neg (by decide)]
          constructor
          · intro hclean
            have hclean := hclean rfl
            rw [hback] at hclean
            exact ⟨(hnone hfail).mpr hclean, hhalf, fun _ _ => hfeature⟩
          · intro hsound _
            rw [hback]
            exact (hnone hfail).mp hsound.fps

theorem takeRaw_iff (h : Clean s) :
    ((s.takeRaw c o).2 = false → Clean (s.takeRaw c o).1) ↔
      (rawAdded c o = true → o.ppStart ≠ .left) := by
  unfold Hwi.takeRaw
  cases hadded : rawAdded c o with
  | false =>
    obtain ⟨k, hr⟩ := addRaw_failed h.jobs hadded
    rw [hr]
    dsimp only
    rw [if_pos (by decide)]
    exact iff_of_true (fun _ => ⟨h.capture, rfl, h.postproc, h.jobs, h.fps⟩) fun hf => Bool.noConfusion hf
  | true =>
    rw [addRaw_ok h.jobs hadded]
    dsimp only
    rw [if_neg (by decide)]
    unfold Hwi.startPostproc
    cases hpp : o.ppStart with
    | ok =>
      rw [if_neg failed_ne_ok.symm, if_neg fun hne => hne rfl]
      refine iff_of_true ?_ fun _ => PpStart.noConfusion
      by_cases hstart : (o.config && o.start) = true
      · rw [if_pos hstart]
        exact fun hf => Bool.noConfusion hf
      · rw [if_neg hstart]
        exact fun _ => ⟨h.capture, rfl, rfl, h.jobs, h.fps⟩
    | failed =>
      rw [if_pos rfl, if_pos failed_ne_ok]
      exact iff_of_true (fun _ => ⟨h.capture, rfl, h.postproc, h.jobs, h.fps⟩) fun _ => PpStart.noConfusion
    | left =>
      rw [if_neg left_ne_failed, if_pos left_ne_ok]
      exact iff_of_false (fun hclean => Bool.noConfusion (hclean rfl).postproc) fun hne => hne rfl rfl

theorem clean_iff (h : Clean s) :
    ((s.takePicture c o).2 = false → Clean (s.takePicture c o).1) ↔ Sound c o := by
  unfold Hwi.takePicture Sound
  split_ifs
  · exact takeZsl_iff h
  · exact takeCapture_iff h
  · exact takeRaw_iff h

/-- Apart from what channels are called, and from `fpsReconfigure`, which the next capture sets
anew. -/
structure Same (s t : Hwi) : Prop where
  capture : s.capture.map Channel.started = t.capture.map Channel.started
  raw : s.raw.map Channel.started = t.raw.map Channel.started
  postproc : s.postproc = t.postproc
  jobs : s.jobs.map Job.var = t.jobs.map Job.var
  fps : s.fpsAdjusted = t.fpsAdjusted

structure SameResult (r q : Hwi × Bool) : Prop where
  state : Same r.1 q.1
  status : r.2 = q.2

variable {t : Hwi} {ch' : Nat}

theorem Same.result (h : Same s t) (b : Bool) : SameResult (s, b) (t, b) := ⟨h, rfl⟩

theorem Clean.same (hs : Clean s) (ht : Clean t) : Same s t :=
  ⟨by rw [hs.capture, ht.capture], by rw [hs.raw, ht.raw], by rw [hs.postproc, ht.postproc],
    by rw [hs.jobs, ht.jobs], by rw [hs.fps, ht.fps]⟩

theorem Same.withCapture {x y : Option Channel} (h : Same s t)
    (hx : x.map Channel.started = y.map Channel.started) :
    Same { s with capture := x } { t with capture := y } :=
  ⟨hx, h.raw, h.postproc, h.jobs, h.fps⟩

theorem Same.withRaw {x y : Option Channel} (h : Same s t)
    (hx : x.map Channel.started = y.map Channel.started) :
    Same { s with raw := x } { t with raw := y } :=
  ⟨h.capture, hx, h.postproc, h.jobs, h.fps⟩

theorem Same.stopPostproc (h : Same s t) : Same s.stopPostproc t.stopPostproc :=
  ⟨h.capture, h.raw, rfl, h.jobs, h.fps⟩

theorem upTo_map {l k : List Job} (h : l.map Job.var = k.map Job.var) : upTo v l = upTo v k := by
  induction l generalizing k with
  | nil =>
    rw [List.map_eq_nil_iff.mp h.symm]
  | cons j l ih =>
    cases k with
    | nil => cases h
    | cons i k =>
      rw [List.map_cons, List.map_cons] at h
      obtain ⟨hhead, htail⟩ := List.cons_eq_cons.mp h
      unfold upTo
      rw [ih htail, hhead]

theorem any_map {l k : List Job} (h : l.map Job.var = k.map Job.var) :
    (l.any fun j => j.var = .reproc) = k.any fun j => j.var = .reproc := by
  have hmap (m : List Job) : (m.any fun j => j.var = .reproc) =
      (m.map Job.var).any fun v => v = .reproc := by
    rw [List.any_map]
    rfl
  rw [hmap, hmap, h]

theorem Same.startPostproc (h : Same s t) (p : PpStart) :
    Same (s.startPostproc p) (t.startPostproc p) := by
  unfold Hwi.startPostproc
  split_ifs
  · exact h
  · exact ⟨h.capture, h.raw, rfl, h.jobs, h.fps⟩

theorem Same.run (h : Same s t) (o : Outcome) (n : Nat) : Same (s.run o n) (t.run o n) := by
  have hdrop : Same { s with jobs := s.jobs.drop n } { t with jobs := t.jobs.drop n } :=
    ⟨h.capture, h.raw, h.postproc, by rw [List.map_drop, List.map_drop, h.jobs], h.fps⟩
  have hany := any_map (show (s.jobs.take n).map Job.var = (t.jobs.take n).map Job.var by
    rw [List.map_take, List.map_take, h.jobs])
  unfold Hwi.run
  dsimp only
  rw [hany]
  split_ifs
  · exact hdrop.startPostproc o.ppStart
  · exact hdrop

theorem Same.wait (h : Same s t) (o : Outcome) (v : JobVar) :
    Same (s.waitDefferedWork o v) (t.waitDefferedWork o v) := by
  unfold Hwi.waitDefferedWork
  rw [upTo_map h.jobs]
  exact h.run o _

theorem Same.queue (h : Same s t) (v : JobVar) (slot : Bool) :
    SameResult (s.queueDefferedWork v ch slot) (t.queueDefferedWork v ch' slot) := by
  unfold Hwi.queueDefferedWork
  split_ifs
  · refine ⟨⟨h.capture, h.raw, h.postproc, ?_, h.fps⟩, rfl⟩
    rw [List.map_append, List.map_append, h.jobs]
    rfl
  · exact ⟨h, rfl⟩

theorem Same.waitStreams (h : Same s t) (o : Outcome) : Same (s.waitStreams o) (t.waitStreams o) :=
  (((h.wait o .metadata).wait o .postview).wait o .snapshot).wait o .rawdata

theorem Same.addStream (h : Same s t) (c : Config) (o : Outcome) (x : StreamOutcome)
    (w : Option JobVar) (ch ch' : Nat) :
    SameResult (s.addStreamToChannel c o x w ch) (t.addStreamToChannel c o x w ch') := by
  unfold Hwi.addStreamToChannel
  by_cases hinfo : (!x.info) = true
  · rw [if_pos hinfo, if_pos hinfo]
    exact h.result _
  rw [if_neg hinfo, if_neg hinfo]
  by_cases hadd : (!x.addStream) = true
  · rw [if_pos hadd, if_pos hadd]
    exact (h.waitStreams o).result false
  rw [if_neg hadd, if_neg hadd]
  cases w with
  | none => exact h.result _
  | some v =>
    dsimp only
    by_cases hd : (!c.deferred) = true
    · rw [if_pos hd, if_pos hd]
      exact h.result _
    rw [if_neg hd, if_neg hd]
    by_cases hslot : x.slot = true
    · rw [if_pos hslot, if_pos hslot]
      exact h.queue v true
    · rw [if_neg hslot, if_neg hslot]
      exact (h.waitStreams o).result false

theorem Same.captureStreams (h : Same s t) (c : Config) (o : Outcome) (ch ch' : Nat) :
    SameResult (s.addCaptureStreams c o ch) (t.addCaptureStreams c o ch') := by
  unfold Hwi.addCaptureStreams
  have h1 := h.addStream c o o.metadata (some .metadata) ch ch'
  generalize s.addStreamToChannel c o o.metadata (some .metadata) ch = r at h1 ⊢
  generalize t.addStreamToChannel c o o.metadata (some .metadata) ch' = q at h1 ⊢
  dsimp only
  rw [h1.status]
  by_cases hm : (!q.2) = true
  · rw [if_pos hm, if_pos hm]
    exact h1
  rw [if_neg hm, if_neg hm]
  have h2 := h1.state.addStream c o o.second none ch ch'
  generalize r.1.addStreamToChannel c o o.second none ch = r at h2 ⊢
  generalize q.1.addStreamToChannel c o o.second none ch' = q at h2 ⊢
  rw [h2.status]
  by_cases hp : (!q.2) = true
  · rw [if_pos hp, if_pos hp]
    exact h2
  rw [if_neg hp, if_neg hp]
  have h3 := h2.state.addStream c o o.snapshot (some .snapshot) ch ch'
  generalize r.1.addStreamToChannel c o o.snapshot (some .snapshot) ch = r at h3 ⊢
  generalize q.1.addStreamToChannel c o o.snapshot (some .snapshot) ch' = q at h3 ⊢
  rw [h3.status]
  by_cases hsnap : (!q.2) = true
  · rw [if_pos hsnap, if_pos hsnap]
    exact h3
  rw [if_neg hsnap, if_neg hsnap]
  by_cases hyuv : c.rawYuv = true
  · rw [if_pos hyuv, if_pos hyuv]
    exact h3.state.addStream c o o.rawStream (some .rawdata) ch ch'
  · rw [if_neg hyuv, if_neg hyuv]
    exact h3

theorem Same.captureChannel (h : Same s t) (c : Config) (o : Outcome) :
    SameResult (s.addCaptureChannel c o) (t.addCaptureChannel c o) := by
  have hstart : Same { s with capture := none, channels := s.channels + 1 }
      { t with capture := none, channels := t.channels + 1 } :=
    ⟨rfl, h.raw, h.postproc, h.jobs, h.fps⟩
  unfold Hwi.addCaptureChannel
  dsimp only
  by_cases hnew : (!o.newChannel) = true
  · rw [if_pos hnew, if_pos hnew]
    exact ⟨⟨rfl, h.raw, h.postproc, h.jobs, h.fps⟩, rfl⟩
  rw [if_neg hnew, if_neg hnew]
  by_cases hinit : (!o.init) = true
  · rw [if_pos hinit, if_pos hinit]
    exact ⟨hstart.run o o.ahead, rfl⟩
  rw [if_neg hinit, if_neg hinit]
  have hstreams := hstart.captureStreams c o s.channels t.channels
  rw [hstreams.status]
  split_ifs
  · refine (hstreams.state.withCapture ?_).result true
    rfl
  · exact ⟨hstreams.state.run o o.ahead, rfl⟩

theorem Same.rawChannel (h : Same s t) (c : Config) (o : Outcome) :
    SameResult (s.addRawChannel c o) (t.addRawChannel c o) := by
  have hstart : Same { s with raw := none, channels := s.channels + 1 }
      { t with raw := none, channels := t.channels + 1 } :=
    ⟨h.capture, rfl, h.postproc, h.jobs, h.fps⟩
  unfold Hwi.addRawChannel
  dsimp only
  by_cases hnew : (!o.newChannel) = true
  · rw [if_pos hnew, if_pos hnew]
    exact ⟨⟨h.capture, rfl, h.postproc, h.jobs, h.fps⟩, rfl⟩
  rw [if_neg hnew, if_neg hnew]
  by_cases hinit : (!o.init) = true
  · rw [if_pos hinit, if_pos hinit]
    exact ⟨hstart.run o o.ahead, rfl⟩
  rw [if_neg hinit, if_neg hinit]
  have h1 := hstart.addStream c o o.metadata (some .metadata) s.channels t.channels
  generalize ({ s with raw := none, channels := s.channels + 1 } : Hwi).addStreamToChannel c o
    o.metadata (some .metadata) s.channels = r at h1 ⊢
  generalize ({ t with raw := none, channels := t.channels + 1 } : Hwi).addStreamToChannel c o
    o.metadata (some .metadata) t.channels = q at h1 ⊢
  rw [h1.status]
  by_cases hm : (!q.2) = true
  · rw [if_pos hm, if_pos hm]
    exact (h1.state.run o o.ahead).result false
  rw [if_neg hm, if_neg hm]
  have h2 := (h1.state.wait o .metadata).addStream c o o.rawStream (some .rawdata) s.channels t.channels
  rw [h2.status]
  split_ifs
  · exact (h2.state.run o o.ahead).result false
  · have hwaited := h2.state.wait o .rawdata
    refine (hwaited.withRaw ?_).result true
    rfl

theorem Same.startCapture {x y : Channel} (h : Same s t) (c : Config) (o : Outcome) :
    SameResult (s.startCapture c o x) (t.startCapture c o y) := by
  have hdel {s t : Hwi} (h : Same s t) : Same s.delCapture t.delCapture := h.withCapture rfl
  have hqueued := (h.queue .reproc o.reprocSlot : SameResult (s.queueDefferedWork .reproc x.id o.reprocSlot)
    (t.queueDefferedWork .reproc y.id o.reprocSlot)).state
  have hstarted : Same
      { (s.queueDefferedWork .reproc x.id o.reprocSlot).1 with
        capture := some { x with started := true } }
      { (t.queueDefferedWork .reproc y.id o.reprocSlot).1 with
        capture := some { y with started := true } } := by
    refine hqueued.withCapture ?_
    rfl
  unfold Hwi.startCapture
  dsimp only
  split_ifs
  · exact ⟨hdel h, rfl⟩
  · exact ⟨hdel (hqueued.wait o .reproc), rfl⟩
  · exact ⟨hstarted.run o o.ahead, rfl⟩
  · exact ⟨hdel (hstarted.wait o .reproc), rfl⟩
  · exact ⟨hstarted.run o o.ahead, rfl⟩

theorem Same.allocatePostview {x y : Channel} (h : Same s t) (o : Outcome) :
    SameResult (s.allocatePostview o x) (t.allocatePostview o y) := by
  have hwaited := ((h.wait o .snapshot).wait o .metadata).wait o .rawdata
  have hqueued := @Same.queue _ x.id _ y.id hwaited .postview o.postviewSlot
  exact ⟨hqueued.state.wait o .postview, hqueued.status⟩

theorem Same.takeCapture (h : Same s t) (c : Config) (o : Outcome) :
    SameResult (s.takeCapture c o) (t.takeCapture c o) := by
  unfold Hwi.takeCapture
  have hadded := h.captureChannel c o
  generalize s.addCaptureChannel c o = r at hadded ⊢
  generalize t.addCaptureChannel c o = q at hadded ⊢
  dsimp only
  rw [hadded.status]
  by_cases hfailed : (!q.2) = true
  · rw [if_pos hfailed, if_pos hfailed]
    exact hadded
  rw [if_neg hfailed, if_neg hfailed]
  have hcapture := hadded.state.capture
  cases hx : r.1.capture with
  | none =>
    cases hy : q.1.capture with
    | none => exact ⟨hadded.state, rfl⟩
    | some y =>
      rw [hx, hy] at hcapture
      cases hcapture
  | some x =>
    cases hy : q.1.capture with
    | none =>
      rw [hx, hy] at hcapture
      cases hcapture
    | some y =>
      dsimp only
      by_cases hlong : c.longshot = true
      · rw [if_pos hlong, if_pos hlong]
        exact hadded.state.startCapture c o
      rw [if_neg hlong, if_neg hlong]
      have hpostview := @Same.allocatePostview _ _ x y hadded.state o
      rw [hpostview.status]
      split_ifs
      · exact ⟨hpostview.state, hpostview.status⟩
      · exact hpostview.state.startCapture c o

theorem Same.takeZsl (h : Same s t) (c : Config) (o : Outcome) :
    SameResult (s.takeZsl c o) (t.takeZsl c o) := by
  have hadjusted : Same
      { s with
        fpsReconfigure := c.needAdjustFPS
        fpsAdjusted := if c.needAdjustFPS then o.adjustFps || s.fpsAdjusted else s.fpsAdjusted }
      { t with
        fpsReconfigure := c.needAdjustFPS
        fpsAdjusted := if c.needAdjustFPS then o.adjustFps || t.fpsAdjusted else t.fpsAdjusted } :=
    ⟨h.capture, h.raw, h.postproc, h.jobs, by rw [h.fps]⟩
  unfold Hwi.takeZsl
  dsimp only
  generalize ({ s with
    fpsReconfigure := c.needAdjustFPS
    fpsAdjusted := if c.needAdjustFPS then o.adjustFps || s.fpsAdjusted else s.fpsAdjusted } : Hwi) = a
    at hadjusted ⊢
  generalize ({ t with
    fpsReconfigure := c.needAdjustFPS
    fpsAdjusted := if c.needAdjustFPS then o.adjustFps || t.fpsAdjusted else t.fpsAdjusted } : Hwi) = b
    at hadjusted ⊢
  have hstarted := hadjusted.startPostproc o.ppStart
  split_ifs
  · exact hadjusted.result false
  · exact hstarted.result false
  · exact hstarted.result false
  · exact hstarted.result true
  · exact hstarted.stopPostproc.result false

theorem Same.takeRaw (h : Same s t) (c : Config) (o : Outcome) :
    SameResult (s.takeRaw c o) (t.takeRaw c o) := by
  have hdel {s t : Hwi} (h : Same s t) : Same s.delRaw t.delRaw := h.withRaw rfl
  unfold Hwi.takeRaw
  have hadded := h.rawChannel c o
  generalize s.addRawChannel c o = r at hadded ⊢
  generalize t.addRawChannel c o = q at hadded ⊢
  have hstarted := hadded.state.startPostproc o.ppStart
  dsimp only
  rw [hadded.status]
  split_ifs
  · exact hadded
  · exact (hdel hstarted).result false
  · refine (hstarted.withRaw ?_).result true
    have hraw (x : Option Channel) : (x.map fun ch => { ch with started := true }).map Channel.started =
        (x.map Channel.started).map fun _ => true := by
      cases x <;> rfl
    rw [hraw, hraw, hstarted.raw]
  · exact (hdel hstarted.stopPostproc).result false

theorem Same.takePicture (h : Same s t) (c : Config) (o : Outcome) :
    SameResult (s.takePicture c o) (t.takePicture c o) := by
  unfold Hwi.takePicture
  split_ifs
  · exact h.takeZsl c o
  · exact h.takeCapture c o
  · exact h.takeRaw c o

end Wt88047.TakePicture
