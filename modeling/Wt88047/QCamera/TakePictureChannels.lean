import Mathlib.Tactic.SplitIfs
import Wt88047.QCamera.TakePicture

/-! Adding the channel of a capture: either all its streams are added, or what was queued for them
and not waited for is left. -/

namespace Wt88047.TakePicture

variable {c : Config} {o : Outcome} {s : Hwi} {v : JobVar} {ch n : Nat}

open Hwi

theorem drop_upTo {l : List Job} : ∀ j ∈ l.drop (upTo v l), j.var ≠ v := by
  induction l with
  | nil => exact fun j hj => absurd hj List.not_mem_nil
  | cons k l ih =>
    unfold upTo
    split_ifs with hzero hk
    · rw [hzero] at ih
      exact ih
    · rw [hzero] at ih
      intro j hj
      rcases List.mem_cons.mp hj with rfl | hj
      · exact hk
      · exact ih j hj
    · exact ih

def Plain (s : Hwi) : Prop := ∀ j ∈ s.jobs, j.var ≠ .reproc

theorem run_plain (h : Plain s) : s.run o n = { s with jobs := s.jobs.drop n } := by
  unfold Hwi.run
  refine if_neg fun hany => ?_
  obtain ⟨j, hj, hv⟩ := List.any_eq_true.mp hany
  exact h j (List.mem_of_mem_take hj) (of_decide_eq_true hv)

theorem wait_left (o : Outcome) (v : JobVar) (h : Plain s) :
    ∃ l, s.waitDefferedWork o v = { s with jobs := l } ∧ ∀ j ∈ l, j ∈ s.jobs ∧ j.var ≠ v :=
  ⟨_, run_plain h, fun j hj => ⟨List.mem_of_mem_drop hj, drop_upTo j hj⟩⟩

def Streams (s : Hwi) : Prop :=
  ∀ j ∈ s.jobs, j.var = .metadata ∨ j.var = .snapshot ∨ j.var = .rawdata

theorem Streams.plain (h : Streams s) : Plain s := by
  intro j hj he
  have hcase := h j hj
  rw [he] at hcase
  rcases hcase with h | h | h <;> cases h

theorem wait_buffers (h : Streams s) :
    ((s.waitDefferedWork o .snapshot).waitDefferedWork o .metadata).waitDefferedWork o .rawdata =
      { s with jobs := [] } := by
  have hsub (l : List Job) (hl : ∀ j ∈ l, j ∈ s.jobs) : Plain { s with jobs := l } :=
    fun j hj => h.plain j (hl j hj)
  obtain ⟨l1, h1, hl1⟩ := wait_left o .snapshot h.plain
  rw [h1]
  obtain ⟨l2, h2, hl2⟩ := wait_left o .metadata (hsub l1 fun j hj => (hl1 j hj).1)
  rw [h2]
  obtain ⟨l3, h3, hl3⟩ := wait_left o .rawdata (hsub l2 fun j hj => (hl1 j (hl2 j hj).1).1)
  rw [h3]
  have hnil : l3 = [] := List.eq_nil_iff_forall_not_mem.mpr fun j hj => by
    have hj2 := (hl3 j hj).1
    have hj1 := (hl2 j hj2).1
    rcases h j (hl1 j hj1).1 with hv | hv | hv
    · exact (hl2 j hj2).2 hv
    · exact (hl1 j hj1).2 hv
    · exact (hl3 j hj).2 hv
  rw [hnil]

theorem waitStreams_eq (h : Streams s) : s.waitStreams o = { s with jobs := [] } := by
  have hsub (l : List Job) (hl : ∀ j ∈ l, j ∈ s.jobs) : Plain { s with jobs := l } :=
    fun j hj => h.plain j (hl j hj)
  unfold Hwi.waitStreams
  obtain ⟨l1, h1, hl1⟩ := wait_left o .metadata h.plain
  rw [h1]
  obtain ⟨l2, h2, hl2⟩ := wait_left o .postview (hsub l1 fun j hj => (hl1 j hj).1)
  rw [h2]
  have hsub2 : ∀ j ∈ l2, j ∈ s.jobs := fun j hj => (hl1 j (hl2 j hj).1).1
  obtain ⟨l3, h3, hl3⟩ := wait_left o .snapshot (hsub l2 hsub2)
  rw [h3]
  obtain ⟨l4, h4, hl4⟩ := wait_left o .rawdata (hsub l3 fun j hj => hsub2 j (hl3 j hj).1)
  rw [h4]
  have hnil : l4 = [] := List.eq_nil_iff_forall_not_mem.mpr fun j hj => by
    have hj3 := (hl4 j hj).1
    have hj2 := (hl3 j hj3).1
    rcases h j (hsub2 j hj2) with hv | hv | hv
    · exact (hl1 j (hl2 j hj2).1).2 hv
    · exact (hl3 j hj3).2 hv
    · exact (hl4 j hj).2 hv
  rw [hnil]

def newJobs (c : Config) (v : Option JobVar) (ch : Nat) : List Job :=
  if c.deferred then v.toList.map fun v => ⟨v, ch⟩ else []

variable {x : StreamOutcome} {w : Option JobVar}

theorem addStream_ok (hx : x.ok (w.isSome && c.deferred) = true) :
    s.addStreamToChannel c o x w ch = ({ s with jobs := s.jobs ++ newJobs c w ch }, true) := by
  obtain ⟨hia, hslot⟩ := Bool.and_eq_true_iff.mp hx
  obtain ⟨hi, ha⟩ := Bool.and_eq_true_iff.mp hia
  unfold Hwi.addStreamToChannel newJobs
  rw [if_neg (by rw [hi]; decide), if_neg (by rw [ha]; decide)]
  cases w with
  | none =>
    dsimp only
    split_ifs <;> simp
  | some v =>
    cases hd : c.deferred with
    | false => simp
    | true =>
      rw [hd] at hslot
      have hs : x.slot = true := by simpa using hslot
      simp [hs, Hwi.queueDefferedWork]

theorem addStream_failed (hx : x.ok (w.isSome && c.deferred) = false) (hs : Streams s) :
    s.addStreamToChannel c o x w ch =
      ({ s with jobs := if x.info then [] else s.jobs }, false) := by
  unfold Hwi.addStreamToChannel
  rw [waitStreams_eq hs]
  cases hi : x.info with
  | false => simp
  | true =>
    rw [if_neg (by decide)]
    cases ha : x.addStream with
    | false => simp
    | true =>
      rw [if_neg (by decide)]
      cases w with
      | none =>
        simp [StreamOutcome.ok, hi, ha] at hx
      | some v =>
        simp only [StreamOutcome.ok, hi, ha, Option.isSome_some, Bool.true_and, Bool.or_eq_false_iff,
          Bool.not_eq_eq_eq_not, Bool.not_false] at hx
        simp [hx.1, hx.2]

theorem job_ok (v : JobVar) (hx : x.ok c.deferred = true) :
    s.addStreamToChannel c o x (some v) ch = ({ s with jobs := s.jobs ++ newJobs c (some v) ch }, true) :=
  @addStream_ok c o s ch x (some v) hx

theorem job_failed (v : JobVar) (hx : x.ok c.deferred = false) (hs : Streams s) :
    s.addStreamToChannel c o x (some v) ch =
      ({ s with jobs := if x.info then [] else s.jobs }, false) :=
  @addStream_failed c o s ch x (some v) hx hs

theorem newJobs_none : newJobs c none ch = [] := by
  unfold newJobs
  split_ifs <;> rfl

theorem plain_ok (hx : x.ok false = true) : s.addStreamToChannel c o x none ch = (s, true) := by
  rw [@addStream_ok c o s ch x none hx, newJobs_none, List.append_nil]

theorem plain_failed (hx : x.ok false = false) (hs : Streams s) :
    s.addStreamToChannel c o x none ch =
      ({ s with jobs := if x.info then [] else s.jobs }, false) :=
  @addStream_failed c o s ch x none hx hs

theorem newJobs_streams {l : List Job} (hl : Streams { s with jobs := l }) (w : Option JobVar)
    (hw : ∀ v ∈ w, v = .metadata ∨ v = .snapshot ∨ v = .rawdata) :
    Streams { s with jobs := l ++ newJobs c w ch } := by
  intro j hj
  rcases List.mem_append.mp hj with hj | hj
  · exact hl j hj
  · unfold newJobs at hj
    split_ifs at hj
    · obtain ⟨v, hv, rfl⟩ := List.mem_map.mp hj
      exact hw v (Option.mem_toList.mp hv)
    · cases hj

theorem newJobs_length (v : JobVar) : (newJobs c (some v) ch).length = if c.deferred then 1 else 0 := by
  unfold newJobs
  split_ifs <;> rfl

theorem captureStreams_eq (hs : s.jobs = []) : ∃ l,
    s.addCaptureStreams c o ch = ({ s with jobs := l }, streamsAdded c o) ∧
      Streams { s with jobs := l } ∧ (streamsAdded c o = false → l.length = unwaited c o) := by
  have hempty : ∀ t : Hwi, t.jobs = [] → Streams t := by
    intro t ht j hj
    rw [ht] at hj
    cases hj
  have hmeta : ∀ v ∈ some JobVar.metadata, v = .metadata ∨ v = .snapshot ∨ v = .rawdata := by simp
  have hsnap : ∀ v ∈ some JobVar.snapshot, v = .metadata ∨ v = .snapshot ∨ v = .rawdata := by simp
  have hraw : ∀ v ∈ some JobVar.rawdata, v = .metadata ∨ v = .snapshot ∨ v = .rawdata := by simp
  unfold Hwi.addCaptureStreams streamsAdded unwaited
  by_cases hm : o.metadata.ok c.deferred = true
  swap
  · have hmf : o.metadata.ok c.deferred = false := by simpa using hm
    rw [job_failed _ hmf (hempty s hs), hmf]
    refine ⟨[], ?_, hempty _ rfl, fun _ => ?_⟩
    · rw [hs]
      simp
    · cases hd : c.deferred with
      | false => rfl
      | true =>
        rw [hd] at hmf
        simp [hmf]
  rw [job_ok _ hm, hm, hs, List.nil_append]
  have hs1 : Streams { s with jobs := newJobs c (some .metadata) ch } :=
    newJobs_streams (hempty { s with jobs := [] } rfl) _ hmeta
  have hone : (newJobs c (some .metadata) ch).length = if c.deferred then 1 else 0 := newJobs_length _
  dsimp only
  rw [if_neg (by decide)]
  by_cases h2 : o.second.ok false = true
  swap
  · have h2f : o.second.ok false = false := by simpa using h2
    rw [plain_failed h2f hs1, h2f]
    refine ⟨if o.second.info then [] else newJobs c (some .metadata) ch, rfl, ?_, fun _ => ?_⟩
    · split_ifs
      · exact hempty _ rfl
      · exact hs1
    · cases hd : c.deferred with
      | false =>
        rw [hd] at hone
        cases hi : o.second.info with
        | true => rfl
        | false => exact hone
      | true =>
        rw [hd] at hone hm
        cases hi : o.second.info with
        | true =>
          have ha : o.second.addStream = false := by simpa [StreamOutcome.ok, hi] using h2f
          simp [hm, ha]
        | false =>
          simp only [hm, Bool.and_self, if_true, Bool.not_false]
          exact hone
  rw [plain_ok h2, h2]
  obtain ⟨h2ia, _⟩ := Bool.and_eq_true_iff.mp h2
  obtain ⟨h2i, h2a⟩ := Bool.and_eq_true_iff.mp h2ia
  dsimp only
  rw [if_neg (by decide), h2i, h2a]
  by_cases h3 : o.snapshot.ok c.deferred = true
  swap
  · have h3f : o.snapshot.ok c.deferred = false := by simpa using h3
    rw [job_failed _ h3f hs1, h3f]
    refine ⟨if o.snapshot.info then [] else newJobs c (some .metadata) ch, rfl, ?_, fun _ => ?_⟩
    · split_ifs
      · exact hempty _ rfl
      · exact hs1
    · cases hd : c.deferred with
      | false =>
        rw [hd] at hone
        cases hi : o.snapshot.info with
        | true => rfl
        | false => exact hone
      | true =>
        rw [hd] at hone hm h3f
        cases hi : o.snapshot.info with
        | true => simp [hm, h3f]
        | false =>
          simp only [hm, Bool.and_self, if_true, Bool.not_true, Bool.not_false]
          exact hone
  rw [job_ok _ h3, h3]
  have hs3 : Streams { s with
      jobs := newJobs c (some .metadata) ch ++ newJobs c (some .snapshot) ch } :=
    newJobs_streams hs1 _ hsnap
  obtain ⟨h3ia, _⟩ := Bool.and_eq_true_iff.mp h3
  obtain ⟨h3i, _⟩ := Bool.and_eq_true_iff.mp h3ia
  dsimp only
  rw [if_neg (by decide), h3i]
  cases hyuv : c.rawYuv with
  | false =>
    refine ⟨newJobs c (some .metadata) ch ++ newJobs c (some .snapshot) ch, by simp, hs3, fun hf => ?_⟩
    simp at hf
  | true =>
    rw [if_pos rfl]
    by_cases h4 : o.rawStream.ok c.deferred = true
    · rw [job_ok _ h4, h4]
      refine ⟨_, rfl, newJobs_streams hs3 _ hraw, fun hf => ?_⟩
      simp at hf
    · have h4f : o.rawStream.ok c.deferred = false := by simpa using h4
      rw [job_failed _ h4f hs3, h4f]
      refine ⟨_, rfl, ?_, fun _ => ?_⟩
      · split_ifs
        · exact hempty _ rfl
        · exact hs3
      · have htwo : (newJobs c (some .metadata) ch ++ newJobs c (some .snapshot) ch).length =
            if c.deferred then 2 else 0 := by
          rw [List.length_append, newJobs_length, newJobs_length]
          split_ifs <;> rfl
        cases hd : c.deferred with
        | false =>
          rw [hd] at htwo
          cases hi : o.rawStream.info with
          | true => rfl
          | false => exact htwo
        | true =>
          rw [hd] at htwo hm h3
          cases hi : o.rawStream.info with
          | true => simp [hm, h3]
          | false =>
            simp only [hm, h3, Bool.and_self, if_true, Bool.not_true, Bool.not_false]
            exact htwo

theorem addStream_jobs (hd : c.deferred = false) (hs : s.jobs = []) :
    (s.addStreamToChannel c o x w ch).1.jobs = [] := by
  have hstreams : Streams s := by
    intro j hj
    rw [hs] at hj
    cases hj
  by_cases hx : x.ok (w.isSome && c.deferred) = true
  · rw [addStream_ok hx]
    unfold newJobs
    rw [hd, hs]
    rfl
  · rw [addStream_failed (by simpa using hx) hstreams, hs]
    exact ite_self []

theorem addCaptureStreams_jobs (hd : c.deferred = false) (hs : s.jobs = []) :
    (s.addCaptureStreams c o ch).1.jobs = [] := by
  have hm := @addStream_jobs c o s ch o.metadata (some .metadata) hd hs
  have h2 := @addStream_jobs c o _ ch o.second none hd hm
  have h3 := @addStream_jobs c o _ ch o.snapshot (some .snapshot) hd h2
  have h4 := @addStream_jobs c o _ ch o.rawStream (some .rawdata) hd h3
  unfold Hwi.addCaptureStreams
  dsimp only
  split_ifs
  · exact hm
  · exact h2
  · exact h3
  · exact h4
  · exact h3

theorem unwaited_added (h : streamsAdded c o = true) : unwaited c o = 0 := by
  unfold streamsAdded at h
  simp only [Bool.and_eq_true] at h
  obtain ⟨⟨⟨hm, h2⟩, h3⟩, h4⟩ := h
  obtain ⟨h2ia, _⟩ := Bool.and_eq_true_iff.mp h2
  obtain ⟨h2i, h2a⟩ := Bool.and_eq_true_iff.mp h2ia
  obtain ⟨h3ia, _⟩ := Bool.and_eq_true_iff.mp h3
  obtain ⟨h3i, _⟩ := Bool.and_eq_true_iff.mp h3ia
  unfold unwaited
  rw [h2i, h2a, h3i]
  cases hyuv : c.rawYuv with
  | false => simp
  | true =>
    have hraw : o.rawStream.info = true := by
      rw [hyuv] at h4
      simp only [Bool.not_true, Bool.false_or] at h4
      obtain ⟨h4ia, _⟩ := Bool.and_eq_true_iff.mp h4
      exact (Bool.and_eq_true_iff.mp h4ia).1
    simp [hraw]

theorem addCapture_ok (hs : s.jobs = []) (h : captureAdded c o = true) : ∃ l,
    s.addCaptureChannel c o = ({ s with
      jobs := l, channels := s.channels + 1, capture := some ⟨s.channels, false⟩ }, true) ∧
      Streams { s with jobs := l } ∧ (c.deferred = false → l = []) := by
  unfold captureAdded at h
  simp only [Bool.and_eq_true] at h
  obtain ⟨⟨hnew, hinit⟩, hadded⟩ := h
  obtain ⟨l, hl, hstreams, _⟩ := @captureStreams_eq c o
    { s with capture := none, channels := s.channels + 1 } s.channels hs
  have hjobs (hd : c.deferred = false) : l = [] := by
    have hnil := @addCaptureStreams_jobs c o
      { s with capture := none, channels := s.channels + 1 } s.channels hd hs
    rw [hl] at hnil
    exact hnil
  refine ⟨l, ?_, hstreams, hjobs⟩
  unfold Hwi.addCaptureChannel
  dsimp only
  rw [if_neg (by rw [hnew]; decide), if_neg (by rw [hinit]; decide), hl, if_pos hadded]

theorem addCapture_failed (hs : s.jobs = []) (h : captureAdded c o = false) : ∃ l k,
    s.addCaptureChannel c o = ({ s with jobs := l, channels := k, capture := none }, false) ∧
      (l = [] ↔ (o.newChannel = true → o.init = true → unwaited c o ≤ o.ahead)) := by
  have hplain : Plain s := by
    intro j hj
    rw [hs] at hj
    cases hj
  unfold Hwi.addCaptureChannel
  dsimp only
  cases hnew : o.newChannel with
  | false =>
    refine ⟨[], s.channels, ?_, by simp⟩
    rw [if_pos (by decide), ← hs]
  | true =>
    rw [if_neg (by decide)]
    cases hinit : o.init with
    | false =>
      refine ⟨[], s.channels + 1, ?_, by simp⟩
      have hrun : ({ s with capture := none, channels := s.channels + 1 } : Hwi).deleteNew o =
          { s with capture := none, channels := s.channels + 1, jobs := s.jobs.drop o.ahead } :=
        run_plain hplain
      rw [if_pos (by decide), hrun, hs, List.drop_nil]
    | true =>
      have hadded : streamsAdded c o = false := by
        unfold captureAdded at h
        rw [hnew, hinit] at h
        simpa using h
      obtain ⟨l, hl, hstreams, hlen⟩ := @captureStreams_eq c o
        { s with capture := none, channels := s.channels + 1 } s.channels hs
      have hlength := hlen hadded
      rw [if_neg (by decide), hl, if_neg (by rw [hadded]; exact Bool.false_ne_true)]
      have hrun : ({ s with capture := none, channels := s.channels + 1, jobs := l } : Hwi).deleteNew o =
          { s with capture := none, channels := s.channels + 1, jobs := l.drop o.ahead } :=
        run_plain hstreams.plain
      refine ⟨l.drop o.ahead, s.channels + 1, by rw [hrun], ?_⟩
      rw [List.drop_eq_nil_iff, hlength]
      simp

theorem wait_alone (hs : s.jobs = []) (hv : v ≠ .reproc) :
    ({ s with jobs := s.jobs ++ newJobs c (some v) ch } : Hwi).waitDefferedWork o v = s := by
  have hmem : ∀ j ∈ s.jobs ++ newJobs c (some v) ch, j.var = v := by
    intro j hj
    rw [hs] at hj
    unfold newJobs at hj
    split_ifs at hj
    · rw [List.mem_singleton.mp hj]
    · cases hj
  have hplain : Plain { s with jobs := s.jobs ++ newJobs c (some v) ch } := by
    intro j hj
    rw [hmem j hj]
    exact hv
  obtain ⟨l, hl, hleft⟩ := wait_left o v hplain
  have hnil : l = [] := List.eq_nil_iff_forall_not_mem.mpr fun j hj =>
    (hleft j hj).2 (hmem j (hleft j hj).1)
  rw [hl, hnil, ← hs]

theorem addRaw_ok (hs : s.jobs = []) (h : rawAdded c o = true) :
    s.addRawChannel c o = ({ s with
      channels := s.channels + 1, raw := some ⟨s.channels, false⟩ }, true) := by
  unfold rawAdded at h
  simp only [Bool.and_eq_true] at h
  obtain ⟨⟨⟨hnew, hinit⟩, hm⟩, hr⟩ := h
  let t : Hwi := { s with raw := none, channels := s.channels + 1 }
  have hwait {v : JobVar} (hv : v ≠ .reproc) :
      ({ t with jobs := s.jobs ++ newJobs c (some v) s.channels } : Hwi).waitDefferedWork o v = t :=
    @wait_alone c o t v s.channels hs hv
  unfold Hwi.addRawChannel
  dsimp only
  rw [if_neg (by rw [hnew]; decide), if_neg (by rw [hinit]; decide), job_ok _ hm]
  dsimp only
  rw [if_neg (by decide), hwait (by decide), job_ok _ hr]
  dsimp only
  rw [if_neg (by decide), hwait (by decide)]

theorem addRaw_failed (hs : s.jobs = []) (h : rawAdded c o = false) : ∃ k,
    s.addRawChannel c o = ({ s with channels := k, raw := none }, false) := by
  have hplain (t : Hwi) (ht : t.jobs = []) : Plain t := by
    intro j hj
    rw [ht] at hj
    cases hj
  have hstreams (t : Hwi) (ht : t.jobs = []) : Streams t := by
    intro j hj
    rw [ht] at hj
    cases hj
  have hrun (t : Hwi) (ht : t.jobs = []) : t.deleteNew o = t := by
    have heq : t.deleteNew o = { t with jobs := t.jobs.drop o.ahead } := run_plain (hplain t ht)
    rw [heq, ht, List.drop_nil, ← ht]
  have hfail (t : Hwi) (v : JobVar) (x : StreamOutcome) (ht : t.jobs = [])
      (hx : x.ok c.deferred = false) : t.addStreamToChannel c o x (some v) s.channels = (t, false) := by
    rw [job_failed _ hx (hstreams t ht), ht, ite_self, ← ht]
  let t : Hwi := { s with raw := none, channels := s.channels + 1 }
  unfold Hwi.addRawChannel
  dsimp only
  cases hnew : o.newChannel with
  | false => exact ⟨s.channels, by rw [if_pos (by decide)]⟩
  | true =>
    rw [if_neg (by decide)]
    cases hinit : o.init with
    | false => exact ⟨s.channels + 1, by rw [if_pos (by decide), hrun t hs]⟩
    | true =>
      rw [if_neg (by decide)]
      by_cases hm : o.metadata.ok c.deferred = true
      swap
      · rw [hfail t .metadata o.metadata hs (by simpa using hm)]
        dsimp only
        exact ⟨s.channels + 1, by rw [if_pos (by decide), hrun t hs]⟩
      have hr : o.rawStream.ok c.deferred = false := by
        unfold rawAdded at h
        rw [hnew, hinit, hm] at h
        simpa using h
      rw [job_ok _ hm]
      dsimp only
      rw [if_neg (by decide)]
      rw [@wait_alone c o t _ s.channels hs (by decide), hfail t .rawdata o.rawStream hs hr]
      dsimp only
      exact ⟨s.channels + 1, by rw [if_pos (by decide), hrun t hs]⟩

end Wt88047.TakePicture
