import Wt88047.QCamera.ParamAgreement

/-! A request that is accepted, and runs of requests and of the commits that the HAL makes itself. -/

namespace Wt88047.ParamCommit

open ParamStore

variable {c : Config} {s s₀ t : Store} {w w' : World} {x : Write} {l : List Write} {r : Request}

/-- The range of frame rates is not staged, nor its key, which has the value given; or both are. -/
def RangeReady (c : Config) (value : Option String) (s : Store) : Prop :=
  (Staging.find s.batch (.setter .fpsRange) = none ∧ Staging.find s.tempMap keyPreviewFpsRange = none ∧
    s.params keyPreviewFpsRange = value) ∨
  ∃ level a b y z, Staging.find s.tempMap keyPreviewFpsRange = some (rangeString a b) ∧
    Staging.find s.batch (.setter .fpsRange) = some (c.fpsRange level a b y z)

theorem RangeReady.congr {value : Option String} (h : RangeReady c value s)
    (hb : Staging.find t.batch (.setter .fpsRange) = Staging.find s.batch (.setter .fpsRange))
    (hm : Staging.find t.tempMap keyPreviewFpsRange = Staging.find s.tempMap keyPreviewFpsRange)
    (hp : t.params keyPreviewFpsRange = s.params keyPreviewFpsRange) : RangeReady c value t := by
  unfold RangeReady at h ⊢
  rw [hb, hm, hp]
  exact h

structure Going (c : Config) (s₀ s : Store) : Prop where
  tidy : Tidy s
  backend : s.backend = s₀.backend
  zsl : ∃ v n, s.params keyQcZsl = some v ∧ lookupAttr onOffModesMap v = some n ∧
    s.locals.zslModeNew = decide (0 < n) ∧ s.ahead (.setter .zslMode) = some (int32 n)
  zslFree : Staging.find s.tempMap keyQcZsl = none
  hfr : s.ahead (.setter .hfr) = some (int32 s.locals.hfrMode)
  hfrRange : s.locals.hfrFpsRange = (hfrFps s.locals.hfrMode, hfrFps s.locals.hfrMode)
  hfrOn : s.locals.hfrOn = hfrIsOn s.locals.hfrMode
  flash : s.ahead .ledMode = some (int32 s.flashDaemonValue)
  fps : RangeReady c (s₀.params keyPreviewFpsRange) s

theorem fits_append {k : List Write} :
    FitsWrites (l ++ k) s ↔ FitsWrites l s ∧ FitsWrites k (runWrites l s) := by
  induction l generalizing s with
  | nil => simp [FitsWrites, runWrites]
  | cons x l ih =>
    show x.Fits s ∧ FitsWrites (l ++ k) (x.run s) ↔ _
    rw [ih]
    exact and_assoc.symm

theorem runWrites_append {k : List Write} : runWrites (l ++ k) s = runWrites k (runWrites l s) :=
  List.foldl_append ..

theorem Going.entry (h : Going c s₀ s) {key value : String} (hz : key ≠ keyQcZsl)
    (hf : key ≠ keyPreviewFpsRange) : Going c s₀ (s.updateParamEntry key value) := by
  refine ⟨⟨h.tidy.tempMap.put key value, h.tidy.batch⟩, h.backend, h.zsl, ?_, h.hfr, h.hfrRange, h.hfrOn,
    h.flash, ?_⟩
  · show Staging.find (Staging.put s.tempMap key value) keyQcZsl = none
    rw [Staging.find_put_other hz.symm]
    exact h.zslFree
  · exact h.fps.congr rfl (Staging.find_put_other hf.symm) rfl

theorem Going.add_other (h : Going c s₀ s) {n : Nat} {d : Data} {early : Bool}
    (hfits : Write.Fits s (.addSetParmEntry (.setter (.other n)) d early)) :
    Going c s₀ (s.addSetParmEntryToBatch early (.setter (.other n)) d) := by
  obtain ⟨size, hadd⟩ := add_fits hfits
  rw [hadd]
  refine ⟨⟨h.tidy.tempMap, h.tidy.batch.put _ d⟩, h.backend, ?_, h.zslFree, ?_, h.hfrRange, h.hfrOn, ?_,
    ?_⟩
  · obtain ⟨v, m, hv, hm, hnew, hz⟩ := h.zsl
    exact ⟨v, m, hv, hm, hnew, (Staging.through_put_of_ne (by simp)).trans hz⟩
  · exact (Staging.through_put_of_ne (by simp)).trans h.hfr
  · exact (Staging.through_put_of_ne (by simp)).trans h.flash
  · exact h.fps.congr (Staging.find_put_other (by simp)) rfl rfl

theorem Going.plain (h : Going c s₀ s) (hx : x.Plain) (hfits : x.Fits s) : Going c s₀ (x.run s) := by
  cases x with
  | updateParamEntry key value => exact h.entry hx.1 hx.2
  | addSetParmEntry t d early =>
    obtain ⟨n, rfl⟩ := hx
    exact h.add_other hfits
  | set key value =>
    refine ⟨⟨h.tidy.tempMap, h.tidy.batch⟩, h.backend, ?_, h.zslFree, h.hfr, h.hfrRange, h.hfrOn, h.flash,
      ?_⟩
    · obtain ⟨v, m, hv, hm, hnew, hz⟩ := h.zsl
      exact ⟨v, m, (Function.update_of_ne hx.1.symm _ _).trans hv, hm, hnew, hz⟩
    · exact h.fps.congr rfl rfl (Function.update_of_ne hx.2.symm _ _)
  | members m =>
    exact ⟨⟨h.tidy.tempMap, h.tidy.batch⟩, h.backend, h.zsl, h.zslFree, h.hfr, h.hfrRange, h.hfrOn,
      h.flash, h.fps⟩
  | locals l => exact hx.elim
  | flashDaemonValue v => exact hx.elim

theorem Going.plains (h : Going c s₀ s) (hl : ∀ x ∈ l, x.Plain) (hfits : FitsWrites l s) :
    Going c s₀ (runWrites l s) := by
  induction l generalizing s with
  | nil => exact h
  | cons x l ih =>
    exact ih (h.plain (hl x (List.mem_cons_self ..)) hfits.1)
      (fun y hy => hl y (List.mem_cons_of_mem _ hy)) hfits.2

theorem Going.fixed (h : Going c s₀ s) (b : Bool) :
    Going c s₀ { s with locals := { s.locals with fixedFrameRateSet := b } } :=
  ⟨⟨h.tidy.tempMap, h.tidy.batch⟩, h.backend, h.zsl, h.zslFree, h.hfr, h.hfrRange, h.hfrOn, h.flash, h.fps⟩

theorem zsl_ne_fpsRange : keyQcZsl ≠ keyPreviewFpsRange := by decide

theorem Going.setZslMode (h : Going c s₀ s) (hfits : FitsWrites (r.setZslMode s).1 s) :
    Going c s₀ (runWrites (r.setZslMode s).1 s) := by
  unfold Request.setZslMode at hfits ⊢
  cases hz : r.zsl with
  | none => exact h
  | some v =>
    rw [hz] at hfits
    dsimp only at hfits ⊢
    by_cases hsame : s.params keyQcZsl = some v
    · rw [if_pos hsame]
      exact h
    rw [if_neg hsame] at hfits ⊢
    cases hlookup : lookupAttr onOffModesMap v with
    | none => exact h
    | some value =>
      rw [hlookup] at hfits
      let u : Store := { s.set keyQcZsl v with locals := { s.locals with zslModeNew := 0 < value } }
      obtain ⟨size, hadd⟩ := @add_fits u _ _ _ hfits.2.2.1
      have hparams : u.params keyQcZsl = some v := by
        show Function.update s.params keyQcZsl (some v) keyQcZsl = some v
        exact Function.update_self ..
      have hrange : u.params keyPreviewFpsRange = s.params keyPreviewFpsRange := by
        show Function.update s.params keyQcZsl (some v) keyPreviewFpsRange = _
        exact Function.update_of_ne zsl_ne_fpsRange.symm _ _
      show Going c s₀ (u.addSetParmEntryToBatch r.earlyZsl (.setter .zslMode) (int32 value))
      rw [hadd]
      refine ⟨⟨h.tidy.tempMap, h.tidy.batch.put _ _⟩, h.backend, ?_, h.zslFree, ?_, h.hfrRange, h.hfrOn, ?_,
        ?_⟩
      · refine ⟨v, value, hparams, hlookup, rfl, ?_⟩
        exact Staging.through_put_self
      · exact (Staging.through_put_of_ne (by simp)).trans h.hfr
      · exact (Staging.through_put_of_ne (by simp)).trans h.flash
      · exact h.fps.congr (Staging.find_put_other (by simp)) rfl hrange

theorem Going.setPreviewFrameRate (h : Going c s₀ s) :
    Going c s₀ (runWrites (r.setPreviewFrameRate s).1 s) := by
  unfold Request.setPreviewFrameRate
  split
  · split_ifs
    · exact (h.entry (by decide) (by decide)).fixed true
    · exact h
  · exact h

theorem Going.updateFlash (h : Going c s₀ s) (hfits : FitsWrites (r.updateFlash s).1 s) :
    Going c s₀ (runWrites (r.updateFlash s).1 s) := by
  unfold Request.updateFlash at hfits ⊢
  by_cases hne : s.flashMode ≠ s.flashDaemonValue
  · rw [if_pos hne] at hfits ⊢
    obtain ⟨size, hadd⟩ := add_fits hfits.1
    show Going c s₀ { s.addSetParmEntryToBatch r.earlyFlash .ledMode (int32 s.flashMode) with
      flashDaemonValue := s.flashMode }
    rw [hadd]
    refine ⟨⟨h.tidy.tempMap, h.tidy.batch.put _ _⟩, h.backend, ?_, h.zslFree, ?_, h.hfrRange, h.hfrOn, ?_,
      ?_⟩
    · obtain ⟨v, m, hv, hm, hnew, hz⟩ := h.zsl
      exact ⟨v, m, hv, hm, hnew, (Staging.through_put_of_ne (by simp)).trans hz⟩
    · exact (Staging.through_put_of_ne (by simp)).trans h.hfr
    · exact Staging.through_put_self
    · exact h.fps.congr (Staging.find_put_other (by simp)) rfl rfl
  · rw [if_neg hne]
    exact h

theorem hfrLocals_changed {l : Locals} (hne : l.hfrMode ≠ r.newHfrMode) :
    (r.hfrLocals l).hfrMode = r.newHfrMode ∧
      (r.hfrLocals l).hfrFpsRange = (hfrFps r.newHfrMode, hfrFps r.newHfrMode) ∧
      (r.hfrLocals l).hfrOn = hfrIsOn r.newHfrMode ∧ (r.hfrLocals l).zslModeNew = l.zslModeNew := by
  unfold Request.hfrLocals
  dsimp only
  rw [if_pos hne]
  dsimp only
  cases hmodeOn : hfrIsOn r.newHfrMode with
  | true =>
    rw [if_pos rfl]
    exact ⟨rfl, rfl, rfl, rfl⟩
  | false =>
    rw [if_neg (by decide), hfrFps_off hmodeOn]
    exact ⟨rfl, rfl, rfl, rfl⟩

theorem Going.setHighFrameRate (h : Going c s₀ s)
    (hfits : FitsWrites (.locals (r.hfrLocals s.locals) :: if s.locals.hfrMode ≠ r.newHfrMode then
      [.addSetParmEntry (.setter .hfr) (int32 (r.hfrLocals s.locals).hfrMode) r.earlyHfr] else []) s) :
    Going c s₀ (runWrites (.locals (r.hfrLocals s.locals) :: if s.locals.hfrMode ≠ r.newHfrMode then
      [.addSetParmEntry (.setter .hfr) (int32 (r.hfrLocals s.locals).hfrMode) r.earlyHfr] else []) s) ∧
      (runWrites (.locals (r.hfrLocals s.locals) :: if s.locals.hfrMode ≠ r.newHfrMode then
        [.addSetParmEntry (.setter .hfr) (int32 (r.hfrLocals s.locals).hfrMode) r.earlyHfr] else [])
          s).locals = r.hfrLocals s.locals := by
  by_cases hne : s.locals.hfrMode ≠ r.newHfrMode
  · rw [if_pos hne] at hfits ⊢
    obtain ⟨hmode, hrange, hon, hnew⟩ := hfrLocals_changed hne
    let u : Store := { s with locals := r.hfrLocals s.locals }
    obtain ⟨size, hadd⟩ := @add_fits u _ _ _ hfits.2.1
    show Going c s₀ (u.addSetParmEntryToBatch r.earlyHfr (.setter .hfr)
      (int32 (r.hfrLocals s.locals).hfrMode)) ∧ (u.addSetParmEntryToBatch r.earlyHfr (.setter .hfr)
      (int32 (r.hfrLocals s.locals).hfrMode)).locals = r.hfrLocals s.locals
    rw [hadd]
    refine ⟨⟨⟨h.tidy.tempMap, h.tidy.batch.put _ _⟩, h.backend, ?_, h.zslFree, ?_, ?_, ?_, ?_, ?_⟩, rfl⟩
    · obtain ⟨v, m, hv, hm, hvnew, hz⟩ := h.zsl
      exact ⟨v, m, hv, hm, hnew.trans hvnew, (Staging.through_put_of_ne (by simp)).trans hz⟩
    · exact Staging.through_put_self
    · show (r.hfrLocals s.locals).hfrFpsRange = _
      rw [hrange, ← hmode]
    · show (r.hfrLocals s.locals).hfrOn = _
      rw [hon, ← hmode]
    · exact (Staging.through_put_of_ne (by simp)).trans h.flash
    · exact h.fps.congr (Staging.find_put_other (by simp)) rfl rfl
  · rw [if_neg hne, hfrLocals_same (not_not.mp hne) h.hfrRange h.hfrOn]
    exact ⟨h, rfl⟩

theorem Going.stageFpsRange (h : Going c s₀ s) {level : Nat} {early : Bool} {a b y z : Int}
    (hfits : FitsWrites (stageFpsRange c level early a b y z) s) :
    Going c s₀ (runWrites (stageFpsRange c level early a b y z) s) := by
  have hstage {a b y z : Int} (hfits : FitsWrites
      [.updateParamEntry keyPreviewFpsRange (rangeString a b),
        .addSetParmEntry (.setter .fpsRange) (c.fpsRange level a b y z) early] s) :
      Going c s₀ (runWrites [.updateParamEntry keyPreviewFpsRange (rangeString a b),
        .addSetParmEntry (.setter .fpsRange) (c.fpsRange level a b y z) early] s) := by
    let u : Store := s.updateParamEntry keyPreviewFpsRange (rangeString a b)
    obtain ⟨size, hadd⟩ := @add_fits u _ _ _ hfits.2.1
    show Going c s₀ (u.addSetParmEntryToBatch early (.setter .fpsRange) (c.fpsRange level a b y z))
    rw [hadd]
    refine ⟨⟨h.tidy.tempMap.put _ _, h.tidy.batch.put _ _⟩, h.backend, ?_, ?_, ?_, h.hfrRange, h.hfrOn, ?_,
      .inr ⟨level, a, b, y, z, Staging.find_put_same, Staging.find_put_same⟩⟩
    · obtain ⟨v, m, hv, hm, hnew, hz⟩ := h.zsl
      exact ⟨v, m, hv, hm, hnew, (Staging.through_put_of_ne (by simp)).trans hz⟩
    · show Staging.find (Staging.put s.tempMap _ _) keyQcZsl = none
      rw [Staging.find_put_other zsl_ne_fpsRange]
      exact h.zslFree
    · exact (Staging.through_put_of_ne (by simp)).trans h.hfr
    · exact (Staging.through_put_of_ne (by simp)).trans h.flash
  unfold ParamCommit.stageFpsRange at hfits ⊢
  split_ifs at hfits ⊢ with hfixed
  · exact hstage hfits
  · exact hstage hfits

theorem Going.lookupFpsRange (h : Going c s₀ s) {l : Locals} {a b : Int}
    (hfits : FitsWrites (r.lookupFpsRange c l a b).1 s) :
    Going c s₀ (runWrites (r.lookupFpsRange c l a b).1 s) := by
  unfold Request.lookupFpsRange at hfits ⊢
  split_ifs at hfits ⊢
  · exact h.stageFpsRange hfits
  · exact h.stageFpsRange hfits
  · exact h

theorem entryIfChanged_plain {key : String} (hz : key ≠ keyQcZsl) (hf : key ≠ keyPreviewFpsRange)
    (str : Option String) (s : Store) : ∀ x ∈ Request.entryIfChanged key str s, x.Plain := by
  intro x hx
  unfold Request.entryIfChanged at hx
  split at hx
  · split_ifs at hx
    · rw [List.mem_singleton.mp hx]
      exact ⟨hz, hf⟩
    · cases hx
  · cases hx

theorem entries_locals (key : String) (str : Option String) (u : Store) :
    (runWrites (Request.entryIfChanged key str u) s).locals = s.locals := by
  unfold Request.entryIfChanged
  split
  · split_ifs <;> rfl
  · rfl

theorem Going.updateHFRFrameRate (h : Going c s₀ s) (hfits : FitsWrites (r.updateHFRFrameRate s) s) :
    Going c s₀ (runWrites (r.updateHFRFrameRate s) s) ∧
      (runWrites (r.updateHFRFrameRate s) s).locals = r.hfrLocals s.locals := by
  unfold Request.updateHFRFrameRate at hfits ⊢
  dsimp only at hfits ⊢
  obtain ⟨hentries, hend⟩ := fits_append.mp hfits
  let u : Store := runWrites (Request.entryIfChanged keyQcVideoHighFrameRate r.hfr s ++
    Request.entryIfChanged keyQcVideoHighSpeedRecording r.hsr s) s
  have hu : Going c s₀ u := by
    refine h.plains (fun x hx => ?_) hentries
    rcases List.mem_append.mp hx with hx | hx
    · exact entryIfChanged_plain (by decide) (by decide) _ _ x hx
    · exact entryIfChanged_plain (by decide) (by decide) _ _ x hx
  have hlocals : u.locals = s.locals := by
    show (runWrites (_ ++ _) s).locals = s.locals
    rw [runWrites_append, entries_locals, entries_locals]
  rw [runWrites_append, ← hlocals]
  rw [← hlocals] at hend
  exact hu.setHighFrameRate hend

theorem Going.setPreviewFpsRange (h : Going c s₀ s) (hfits : FitsWrites (r.setPreviewFpsRange c s).1 s) :
    Going c s₀ (runWrites (r.setPreviewFpsRange c s).1 s) := by
  have hthen {k : List Write} (hfits : FitsWrites (r.updateHFRFrameRate s ++ k) s) :
      ∃ u, Going c s₀ u ∧ u.locals = r.hfrLocals s.locals ∧ FitsWrites k u ∧
        runWrites (r.updateHFRFrameRate s ++ k) s = runWrites k u := by
    obtain ⟨hhfr, hk⟩ := fits_append.mp hfits
    obtain ⟨hgoing, hlocals⟩ := h.updateHFRFrameRate hhfr
    exact ⟨_, hgoing, hlocals, hk, runWrites_append⟩
  unfold Request.setPreviewFpsRange at hfits ⊢
  dsimp only at hfits ⊢
  split_ifs at hfits ⊢ with hkept hfixed hmode
  · obtain ⟨u, hu, hlocals, hk, hrun⟩ := hthen hfits
    rw [hrun]
    rw [← hlocals] at hk ⊢
    exact (hu.fixed false).lookupFpsRange hk.2
  · exact (h.updateHFRFrameRate hfits).1
  · obtain ⟨u, hu, _, hk, hrun⟩ := hthen hfits
    rw [hrun]
    exact hu.lookupFpsRange hk
  · obtain ⟨u, hu, _, hk, hrun⟩ := hthen hfits
    rw [hrun]
    exact hu.lookupFpsRange hk

def Goes (c : Config) (s₀ : Store) (fs : List Setter) : Prop :=
  ∀ s, Going c s₀ s → FitsSetters fs s → Going c s₀ (runSetters fs s).1

theorem Goes.append {fs gs : List Setter} (hf : Goes c s₀ fs) (hg : Goes c s₀ gs) :
    Goes c s₀ (fs ++ gs) := by
  intro s hs hfits
  obtain ⟨hfirst, hrest⟩ := fitsSetters_append.mp hfits
  rw [runSetters_append]
  exact hg _ (hf s hs hfirst) hrest

theorem Goes.cons {f : Setter} {fs : List Setter}
    (hf : ∀ s, Going c s₀ s → FitsWrites (f s).1 s → Going c s₀ (runWrites (f s).1 s))
    (hg : Goes c s₀ fs) : Goes c s₀ (f :: fs) :=
  fun s hs hfits => hg _ (hf s hs hfits.1) hfits.2

theorem Goes.others (os : List OtherSetter) : Goes c s₀ (os.map OtherSetter.setter) := by
  induction os with
  | nil => exact fun s hs _ => hs
  | cons o os ih => exact Goes.cons (fun s hs hfits => hs.plains (o.plain _) hfits) ih

theorem goes_setters : Goes c s₀ (r.setters c) := by
  unfold Request.setters
  refine (Goes.others _).append (Goes.cons (fun s hs => hs.setZslMode) ?_)
  refine (Goes.others _).append (Goes.cons (fun s hs _ => hs.setPreviewFrameRate) ?_)
  refine Goes.cons (fun s hs => hs.setPreviewFpsRange) ?_
  exact (Goes.others _).append (Goes.cons (fun s hs => hs.updateFlash) (Goes.others _))

theorem Agreement.of_init (h : Agreement c w) (ht : t.initBatchUpdate = w.store.initBatchUpdate) :
    Agreement c { w with store := t } := by
  have hinit : Agreement c { w with store := w.store.initBatchUpdate } :=
    ⟨h.zsl, h.hfr, h.hfrRange, h.hfrOn, h.flash, h.fps⟩
  rw [← ht] at hinit
  exact ⟨hinit.zsl, hinit.hfr, hinit.hfrRange, hinit.hfrOn, hinit.flash, hinit.fps⟩

theorem Agreement.going (h : Agreement c w) :
    Going c w.store.initBatchUpdate w.store.initBatchUpdate := by
  refine ⟨Store.tidy_init, rfl, ?_, rfl, h.hfr, h.hfrRange, h.hfrOn, h.flash, .inl ⟨rfl, rfl, rfl⟩⟩
  obtain ⟨v, n, hv, hn, _, hnew, hz⟩ := h.zsl
  exact ⟨v, n, hv, hn, hnew, hz⟩

theorem commit_refused (h : (World.commitParameterChanges r s).2 = false) :
    (World.commitParameterChanges r s).1 = s := by
  unfold World.commitParameterChanges at h ⊢
  dsimp only at h ⊢
  cases hq : (s.commitSetBatch r.accepts).2 with
  | true =>
    rw [hq] at h
    cases hc : r.count with
    | some count =>
      rw [hc] at h
      cases h
    | none =>
      rw [hc] at h
      exact absurd (hq.symm.trans h) (by decide)
  | false =>
    have hs := Store.commitSetBatch_refused hq
    split
    · exact hs
    · exact hs

theorem commit_accepted (h : (World.commitParameterChanges r s).2 = true) :
    (s.commitSetBatch r.accepts).2 = true ∧ ∃ p,
      (World.commitParameterChanges r s).1 = { (s.commitSetBatch r.accepts).1 with params := p } ∧
        ∀ k, k ≠ "num-snaps-per-shutter" → p k = (s.commitSetBatch r.accepts).1.params k := by
  unfold World.commitParameterChanges at h ⊢
  dsimp only at h ⊢
  cases hc : r.count with
  | none =>
    rw [hc] at h
    exact ⟨h, _, rfl, fun _ _ => rfl⟩
  | some count =>
    rw [hc] at h
    dsimp only at h ⊢
    cases hq : (s.commitSetBatch r.accepts).2 with
    | false =>
      rw [hq, if_neg (by decide)] at h
      exact absurd (hq.symm.trans h) (by decide)
    | true =>
      rw [if_pos rfl]
      exact ⟨rfl, _, rfl, fun k hk => Function.update_of_ne hk _ _⟩

theorem failed_kept (h : Agreement c w) (hs : Sound c w (.setParams r))
    (hfailed : (w.setParams c r).2 = false) :
    Agreement c (w.setParams c r).1 ∧
      (w.setParams c r).1.store.initBatchUpdate = w.store.initBatchUpdate := by
  have hharmless : r.Harmless c w.store := by
    refine hs.2.resolve_left ?_
    rw [hfailed]
    decide
  have hidle : (w.updateParameters c r).1.initBatchUpdate = w.store.initBatchUpdate :=
    harmless_idle h hharmless _ rfl hs.1
  have hleft : (w.setParams c r).1 = { w with store := (w.updateParameters c r).1 } := by
    unfold World.setParams at hfailed ⊢
    dsimp only at hfailed ⊢
    cases hu : (w.updateParameters c r).2 with
    | false =>
      rw [if_pos (by decide)]
    | true =>
      rw [hu, if_neg (by decide)] at hfailed
      rw [if_neg (by decide)]
      have hq : (World.commitParameterChanges r (w.updateParameters c r).1).2 = false := hfailed
      rw [commit_refused hq, hq]
      simp
  rw [hleft]
  exact ⟨h.of_init hidle, hidle⟩

theorem accepted_kept (h : Agreement c w) (hs : Sound c w (.setParams r))
    (haccepted : (w.setParams c r).2 = true) :
    Agreement c (w.setParams c r).1 ∧
      Taken w (w.updateParameters c r).1 (w.setParams c r).1.store := by
  have hgoing : Going c w.store.initBatchUpdate (w.updateParameters c r).1 :=
    goes_setters _ h.going hs.1
  generalize hu : (w.updateParameters c r).1 = u at hgoing ⊢
  have hok : (w.updateParameters c r).2 = true := by
    by_contra hne
    unfold World.setParams at haccepted
    dsimp only at haccepted
    rw [if_pos (by simpa using hne)] at haccepted
    cases haccepted
  have hset : (w.setParams c r) = (⟨(World.commitParameterChanges r u).1, w.adjusted &&
      !((World.commitParameterChanges r u).2 && (Staging.find u.batch (.setter .fpsRange)).isSome)⟩,
      (World.commitParameterChanges r u).2) := by
    unfold World.setParams
    dsimp only
    rw [hok, if_neg (by decide), hu]
  rw [hset] at haccepted ⊢
  have hq : (World.commitParameterChanges r u).2 = true := haccepted
  obtain ⟨hcommit, p, hp, hparams⟩ := commit_accepted hq
  have hc := Store.commitSetBatch_accepted hgoing.tidy hcommit
  rw [hq]
  dsimp only
  rw [hp]
  have hpzsl : p keyQcZsl = u.params keyQcZsl := by
    rw [hparams _ (by decide), hc.params]
    exact Staging.through_of_none hgoing.zslFree
  refine ⟨⟨?_, ?_, ?_, ?_, ?_, ?_⟩, ?_, ?_, ?_⟩
  · obtain ⟨v, n, hv, hn, hnew, hz⟩ := hgoing.zsl
    refine ⟨v, n, hpzsl.trans hv, hn, hc.zslMode.trans hnew, ?_, ?_⟩
    · show (u.commitSetBatch r.accepts).1.locals.zslModeNew = _
      rw [hc.locals, hnew]
    · show (u.commitSetBatch r.accepts).1.backend _ = _
      rw [hc.backend, hz]
  · show (u.commitSetBatch r.accepts).1.backend _ =
      some (int32 (u.commitSetBatch r.accepts).1.locals.hfrMode)
    rw [hc.backend, hc.locals, hgoing.hfr]
  · show (u.commitSetBatch r.accepts).1.locals.hfrFpsRange = _
    rw [hc.locals, hgoing.hfrRange]
  · show (u.commitSetBatch r.accepts).1.locals.hfrOn = _
    rw [hc.locals, hgoing.hfrOn]
  · show (u.commitSetBatch r.accepts).1.backend _ =
      some (int32 (u.commitSetBatch r.accepts).1.flashDaemonValue)
    rw [hc.backend, hc.daemon, hgoing.flash]
  · intro hadjusted
    rcases hgoing.fps with ⟨hb, hm, hv⟩ | ⟨level, a, b, y, z, hm, hb⟩
    · have hbefore : w.adjusted = false := by
        rw [hb] at hadjusted
        simpa using hadjusted
      obtain ⟨level, a, b, y, z, hrange, hback⟩ := h.fps hbefore
      refine ⟨level, a, b, y, z, ?_, ?_⟩
      · show p keyPreviewFpsRange = _
        rw [hparams _ (by decide), hc.params]
        exact (Staging.through_of_none hm).trans (hv.trans hrange)
      · show (u.commitSetBatch r.accepts).1.backend _ = _
        rw [hc.backend]
        refine (Staging.through_of_none hb).trans ?_
        rw [hgoing.backend]
        exact hback
    · refine ⟨level, a, b, y, z, ?_, ?_⟩
      · show p keyPreviewFpsRange = _
        rw [hparams _ (by decide), hc.params]
        exact Staging.through_of_some hm
      · show (u.commitSetBatch r.accepts).1.backend _ = _
        rw [hc.backend]
        exact Staging.through_of_some hb
  · intro k v hk hfind
    show p k = some v
    rw [hparams k hk, hc.params]
    exact Staging.through_of_some hfind
  · intro q d hfind
    show (u.commitSetBatch r.accepts).1.backend q = some d
    rw [hc.backend]
    exact Staging.through_of_some hfind
  · intro q hfind
    show (u.commitSetBatch r.accepts).1.backend q = _
    rw [hc.backend]
    refine (Staging.through_of_none hfind).trans ?_
    rw [hgoing.backend]
    rfl

structure Own (s s' : Store) : Prop where
  params : s'.params = s.params
  locals : s'.locals = s.locals
  zslMode : s'.zslMode = s.zslMode ∨ s'.zslMode = s.locals.zslModeNew
  backend : s'.backend = s.backend

theorem add_init (s : Store) (accepts : Bool) (t : ParmType) (d : Data) :
    Own s (s.initBatchUpdate.addSetParmEntryToBatch accepts t d) ∧
      (s.initBatchUpdate.addSetParmEntryToBatch accepts t d).tempMap = [] ∧
      (s.initBatchUpdate.addSetParmEntryToBatch accepts t d).batch = [(t, d)] ∧
      (s.initBatchUpdate.addSetParmEntryToBatch accepts t d).flashDaemonValue = s.flashDaemonValue := by
  unfold Store.addSetParmEntryToBatch
  have hnone : ¬(Staging.find s.initBatchUpdate.batch t).isSome = true := Bool.false_ne_true
  rw [if_neg hnone]
  dsimp only
  split_ifs
  · exact ⟨⟨rfl, rfl, .inr rfl, rfl⟩, rfl, rfl, rfl⟩
  · exact ⟨⟨rfl, rfl, .inl rfl, rfl⟩, rfl, rfl, rfl⟩

theorem Own.agreement (h : Agreement c w) (ho : Own w.store s) {s' : Store} {b : Bool}
    (hp : s'.params = s.params) (hl : s'.locals = s.locals)
    (hz : s'.zslMode = s.zslMode ∨ s'.zslMode = s.locals.zslModeNew)
    (hzsl : s'.backend (.setter .zslMode) = s.backend (.setter .zslMode))
    (hhfr : s'.backend (.setter .hfr) = s.backend (.setter .hfr))
    (hfps : b = false → w.adjusted = false ∧
      s'.backend (.setter .fpsRange) = s.backend (.setter .fpsRange))
    (hflash : s'.backend .ledMode = some (int32 s'.flashDaemonValue)) :
    Agreement c { store := s', adjusted := b } := by
  have hlocals : s'.locals = w.store.locals := hl.trans ho.locals
  refine ⟨?_, ?_, ?_, ?_, hflash, fun hb => ?_⟩
  · obtain ⟨v, n, hv, hn, hmode, hnew, hback⟩ := h.zsl
    have hzsame : s'.zslMode = decide (0 < n) := by
      rcases hz with hz | hz
      · rcases ho.zslMode with hz' | hz'
        · rw [hz, hz', hmode]
        · rw [hz, hz', hnew]
      · rw [hz, ho.locals, hnew]
    refine ⟨v, n, ?_, hn, hzsame, ?_, ?_⟩
    · show s'.params _ = _
      rw [hp, ho.params, hv]
    · show s'.locals.zslModeNew = _
      rw [hlocals, hnew]
    · show s'.backend _ = _
      rw [hzsl, ho.backend, hback]
  · show s'.backend _ = some (int32 s'.locals.hfrMode)
    rw [hhfr, ho.backend, hlocals, h.hfr]
  · show s'.locals.hfrFpsRange = (hfrFps s'.locals.hfrMode, hfrFps s'.locals.hfrMode)
    rw [hlocals, h.hfrRange]
  · show s'.locals.hfrOn = hfrIsOn s'.locals.hfrMode
    rw [hlocals, h.hfrOn]
  · obtain ⟨hbefore, hback⟩ := hfps hb
    obtain ⟨level, a, a', y, z, hrange, hdata⟩ := h.fps hbefore
    refine ⟨level, a, a', y, z, ?_, ?_⟩
    · show s'.params _ = _
      rw [hp, ho.params, hrange]
    · show s'.backend _ = _
      rw [hback, ho.backend, hdata]

theorem commit_alone {accepts : Bool} {d : Data} {q : ParmType} (hm : s.tempMap = [])
    (hb : s.batch = [(q, d)]) :
    (s.commitSetBatch accepts).1.params = s.params ∧ (s.commitSetBatch accepts).1.locals = s.locals ∧
      ((s.commitSetBatch accepts).1.zslMode = s.zslMode ∨
        (s.commitSetBatch accepts).1.zslMode = s.locals.zslModeNew) ∧
      (s.commitSetBatch accepts).1.flashDaemonValue = s.flashDaemonValue ∧
      (s.commitSetBatch accepts).2 = accepts ∧
      (s.commitSetBatch accepts).1.backend =
        if accepts then Function.update s.backend q (some d) else s.backend := by
  have hne : s.batch ≠ [] := by
    rw [hb]
    exact List.cons_ne_nil _ _
  unfold Store.commitSetBatch
  rw [if_neg hne]
  cases accepts with
  | false => exact ⟨rfl, rfl, .inl rfl, rfl, rfl, rfl⟩
  | true =>
    refine ⟨?_, rfl, .inr rfl, rfl, rfl, ?_⟩
    · show Staging.commit s.tempMap s.params = s.params
      rw [hm]
      rfl
    · show Staging.commit s.batch s.backend = _
      rw [hb]
      rfl

theorem updateFlash_kept (h : Agreement c w) {accepts : Bool}
    (hs : accepts = true ∨ w.store.flashMode = w.store.flashDaemonValue) :
    Agreement c { w with store := (w.store.updateFlash accepts).1 } ∧
      (w.store.updateFlash accepts).1.params = w.store.params := by
  by_cases hne : w.store.flashMode ≠ w.store.flashDaemonValue
  · obtain rfl : accepts = true := hs.resolve_right hne
    let u : Store := { w.store.initBatchUpdate.addSetParmEntryToBatch true .ledMode
      (int32 w.store.flashMode) with flashDaemonValue := w.store.flashMode }
    have hstaged : w.store.initBatchUpdate.stageFlash true = u := if_pos hne
    obtain ⟨ho, hm, hb, _⟩ := add_init w.store true .ledMode (int32 w.store.flashMode)
    have hown : Own w.store u := ⟨ho.params, ho.locals, ho.zslMode, ho.backend⟩
    obtain ⟨hp, hl, hz, hdaemon, _, hback⟩ := @commit_alone u true _ _ hm hb
    rw [if_pos rfl] at hback
    unfold Store.updateFlash
    rw [hstaged]
    refine ⟨hown.agreement h hp hl hz ?_ ?_ (fun ha => ⟨ha, ?_⟩) ?_, hp.trans ho.params⟩
    · rw [hback, Function.update_of_ne (by simp)]
    · rw [hback, Function.update_of_ne (by simp)]
    · rw [hback, Function.update_of_ne (by simp)]
    · rw [hback, Function.update_self, hdaemon]
  · have hstaged : w.store.initBatchUpdate.stageFlash accepts = w.store.initBatchUpdate := if_neg hne
    have hown : Own w.store w.store.initBatchUpdate := ⟨rfl, rfl, .inl rfl, rfl⟩
    have hcommit : (w.store.initBatchUpdate.commitSetBatch accepts).1 =
        w.store.initBatchUpdate.commitParamChanges := rfl
    unfold Store.updateFlash
    rw [hstaged, hcommit]
    exact ⟨hown.agreement h rfl rfl (.inr rfl) rfl rfl (fun ha => ⟨ha, rfl⟩) h.flash, rfl⟩

theorem adjust_kept (h : Agreement c w) (range : Data) (accepts : Bool) :
    Agreement c { store := (w.store.adjustPreviewFpsRange accepts range).1,
                  adjusted := w.adjusted || (w.store.adjustPreviewFpsRange accepts range).2 } ∧
      (w.store.adjustPreviewFpsRange accepts range).1.params = w.store.params := by
  unfold Store.adjustPreviewFpsRange Store.commitEntry
  obtain ⟨hown, hm, hb, hd⟩ := add_init w.store accepts (.setter .fpsRange) range
  obtain ⟨hp, hl, hz, hdaemon, hok, hback⟩ := @commit_alone _ accepts _ _ hm hb
  have hsame {q : ParmType} (hq : q ≠ .setter .fpsRange) :
      ((w.store.initBatchUpdate.addSetParmEntryToBatch accepts (.setter .fpsRange) range).commitSetBatch
        accepts).1.backend q =
      (w.store.initBatchUpdate.addSetParmEntryToBatch accepts (.setter .fpsRange) range).backend q := by
    rw [hback]
    split_ifs
    · exact Function.update_of_ne hq _ _
    · rfl
  refine ⟨hown.agreement h hp hl hz (hsame (by simp)) (hsame (by simp)) (fun ha => ?_) ?_,
    hp.trans hown.params⟩
  · rw [hok] at ha
    obtain ⟨hbefore, rfl⟩ := Bool.or_eq_false_iff.mp ha
    rw [hback]
    exact ⟨hbefore, rfl⟩
  · rw [hsame (by simp), hown.backend, hdaemon, hd]
    exact h.flash

theorem step_kept {e : Event} (h : Agreement c w) (hs : Sound c w e) (hw : step c w e = some w') :
    Agreement c w' ∧ Kept c w w' e := by
  cases e with
  | setParams r =>
    obtain rfl := Option.some.inj hw
    unfold Kept
    dsimp only
    cases hr : (w.setParams c r).2 with
    | false =>
      obtain ⟨hagree, hinit⟩ := failed_kept h hs hr
      rw [if_neg (by decide)]
      refine ⟨hagree, hinit, ?_⟩
      unfold World.updateParameters
      rw [hinit]
    | true =>
      rw [if_pos rfl]
      exact accepted_kept h hs hr
  | updateFlash accepts =>
    obtain rfl := Option.some.inj hw
    exact updateFlash_kept h hs
  | adjustPreviewFpsRange range accepts =>
    obtain rfl := Option.some.inj hw
    exact adjust_kept h range accepts
  | setHDRSceneEnable bflag accepts =>
    obtain rfl := Option.some.inj hw
    unfold Store.setHDRSceneEnable
    dsimp only
    have hscene : Agreement c { w with store := { w.store with hdrSceneEnabled := bflag } } :=
      ⟨h.zsl, h.hfr, h.hfrRange, h.hfrOn, h.flash, h.fps⟩
    by_cases hne : w.store.hdrSceneEnabled ≠ bflag
    · rw [if_pos hne]
      exact updateFlash_kept hscene (hs.imp_right fun hrest => hrest.resolve_left hne)
    · rw [if_neg hne]
      exact ⟨hscene, rfl⟩

/-- Between requests what is remembered is what the backend accepted last, and a request that fails
leaves no trace. -/
theorem committed_agrees {es : List Event} (h : Agreement c w) (hs : Runs.Along (step c) (Sound c) w es) :
    Runs.Along (step c) (fun v e => ∀ v', step c v e = some v' → Agreement c v' ∧ Kept c v v' e) w es :=
  Runs.Along.of_invariant (fun _ _ _ hi hp hst => (step_kept hi hp hst).1)
    (fun _ _ hi hp _ hst => step_kept hi hp hst) h hs

def wholeRange (_ : Nat) (min max vidMin vidMax : Int) : Data :=
  int32 min ++ int32 max ++ int32 vidMin ++ int32 vidMax

def parsedRange (s : Option String) : Int × Int :=
  if s = some "15000,30000" then (15000, 30000) else (-1, -1)

def device : Config :=
  { parseFpsRange := parsedRange, fpsRangesTbl := [(15000, 30000)], fpsRange := wholeRange }

def opened : World where
  store :=
    { params := fun k => if k = keyQcZsl then some "off"
        else if k = keyPreviewFpsRange then some "15000,30000" else none
      backend := fun t => if t = .setter .fpsRange then some (wholeRange 0 15000 30000 15000 30000)
        else some (int32 0) }

theorem opened_agrees : Agreement device opened where
  zsl := ⟨"off", 0, rfl, by decide, rfl, rfl, rfl⟩
  hfr := rfl
  hfrRange := rfl
  hfrOn := rfl
  flash := rfl
  fps _ := ⟨0, 15000, 30000, 15000, 30000, rfl, rfl⟩

def stageOne : OtherSetter where
  run _ := ([.addSetParmEntry (.setter (.other 0)) (int32 5) true], true)
  plain _ x hx := by
    rw [List.mem_singleton.mp hx]
    exact ⟨0, rfl⟩

def zslOn : Request := { zsl := some "on", fpsRange := (15000, 30000) }

def refused : Request := { zslOn with last := [stageOne], accepts := false }

theorem refused_harmless : refused.Harmless device (opened.setParams device zslOn).1.store where
  zsl v hv := .inl (by obtain rfl := Option.some.inj hv; rfl)
  hfr := rfl
  rate := by decide +kernel
  flash := rfl
  others o ho x hx := by
    obtain rfl := List.mem_singleton.mp ho
    obtain rfl := List.mem_singleton.mp hx
    trivial

theorem committed_agrees_again :
    Runs.Along (step device)
      (fun v e => ∀ v', step device v e = some v' → Agreement device v' ∧ Kept device v v' e) opened
      [.setParams zslOn, .setParams refused, .adjustPreviewFpsRange (wholeRange 0 7500 15000 7500 15000) true,
        .updateFlash false] :=
  committed_agrees opened_agrees
    ⟨⟨by decide +kernel, .inl (by decide +kernel)⟩, by
      intro v hv
      obtain rfl := Option.some.inj hv
      exact ⟨⟨by decide +kernel, .inr refused_harmless⟩, fun v hv => ⟨trivial, fun u hu => by
        obtain rfl := Option.some.inj hv
        obtain rfl := Option.some.inj hu
        exact ⟨.inr rfl, fun _ _ => trivial⟩⟩⟩⟩

theorem notMem_repr {ch : Char} (h : ch.isDigit = false) (n : Nat) : ch ∉ n.repr.toList := by
  intro hmem
  rw [Nat.toList_repr] at hmem
  exact absurd (Nat.isDigit_of_mem_toDigits (by decide) (by decide) hmem) (by simp [h])

theorem comma_notMem (a : Int) : ',' ∉ a.repr.toList := by
  cases a with
  | ofNat n => exact notMem_repr rfl n
  | negSucc n =>
    intro hmem
    have hneg : ',' ∈ ("-" ++ (n + 1).repr).toList := hmem
    rw [String.toList_append] at hneg
    rcases List.mem_append.mp hneg with hneg | hneg
    · exact absurd hneg (by decide)
    · exact notMem_repr rfl (n + 1) hneg

theorem repr_ofNat {a : Int} {n : Nat} (h : a.repr.toList = n.repr.toList) : a = n := by
  cases a with
  | ofNat m =>
    have hdigits : m.repr.toList = n.repr.toList := h
    rw [Nat.toList_repr, Nat.toList_repr] at hdigits
    have hvalue := congrArg (fun l => Nat.ofDigitChars 10 l 0) hdigits
    rw [Nat.ofDigitChars_toDigits (by decide) (by decide),
      Nat.ofDigitChars_toDigits (by decide) (by decide)] at hvalue
    exact congrArg Int.ofNat hvalue
  | negSucc m =>
    have hneg : ("-" ++ (m + 1).repr).toList = n.repr.toList := h
    have hmem : '-' ∈ n.repr.toList := by
      rw [← hneg, String.toList_append]
      exact List.mem_append_left _ (by decide)
    exact absurd hmem (notMem_repr rfl n)

theorem rangeString_inj {a b : Int} {y z : Nat} (h : rangeString y z = rangeString a b) :
    a = y ∧ b = z := by
  have htext (a b : Int) : (rangeString a b).toList = a.repr.toList ++ ',' :: b.repr.toList := by
    have hrepr (a : Int) : toString a = a.repr := rfl
    unfold rangeString
    rw [hrepr, hrepr, String.toList_append, String.toList_append, List.append_assoc]
    rfl
  have hlist := congrArg String.toList h.symm
  rw [htext, htext] at hlist
  have hsplit := (List.append_cons_inj_of_notMem (comma_notMem a) (comma_notMem b)).mp hlist
  exact ⟨repr_ofNat hsplit.1, repr_ofNat hsplit.2.2⟩

/-- A capture halves the frame rate of the backend alone. -/
theorem halved_range_apart :
    ¬∀ (c : Config) (w w' : World) (es : List Event), w.adjusted = false → Agreement c w →
      Runs.play (step c) w es = some w' → Agreement c { w' with adjusted := false } := by
  intro h
  obtain ⟨level, a, b, y, z, hmap, hback⟩ := (h device opened _
    [.adjustPreviewFpsRange (wholeRange 0 7500 15000 7500 15000) true] rfl opened_agrees rfl).fps rfl
  have htext : rangeString (15000 : Nat) (30000 : Nat) = rangeString a b := Option.some.inj hmap
  obtain ⟨rfl, rfl⟩ := rangeString_inj htext
  have hrate : int32 7500 = int32 15000 :=
    congrArg (List.take 4) (Option.some.inj hback)
  exact absurd hrate (by decide)

end Wt88047.ParamCommit
