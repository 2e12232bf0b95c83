import Wt88047.QCamera.ParamSetters

/-! The parameter map and what the setters remember, against what the backend has accepted. A setter writes
at once on the store, or stages what it writes beside it. -/

namespace Wt88047.ParamCommit

open ParamStore
open Params (align4 entrySize capacity)

variable {c : Config} {s s₀ t : Store} {x : Write} {l k : List Write} {r : Request}

theorem of_init {α : Type*} (f : Store → α) (hf : ∀ s, f s.initBatchUpdate = f s)
    (h : t.initBatchUpdate = s.initBatchUpdate) : f t = f s := by
  rw [← hf t, h, hf s]

def Write.Fits (s : Store) : Write → Prop
  | .addSetParmEntry t d _ =>
    (Staging.find s.batch t).isSome = true ∨ align4 (d.length + entrySize) ≤ capacity - s.currSize
  | _ => True

def FitsWrites : List Write → Store → Prop
  | [], _ => True
  | x :: l, s => x.Fits s ∧ FitsWrites l (x.run s)

def FitsSetters : List Setter → Store → Prop
  | [], _ => True
  | f :: fs, s => FitsWrites (f s).1 s ∧ FitsSetters fs (runWrites (f s).1 s)

instance Write.Fits.decidable (s : Store) : ∀ x, Decidable (Write.Fits s x)
  | .updateParamEntry _ _ => isTrue trivial
  | .addSetParmEntry t d _ => inferInstanceAs (Decidable ((Staging.find s.batch t).isSome = true ∨
      align4 (d.length + entrySize) ≤ capacity - s.currSize))
  | .set _ _ => isTrue trivial
  | .members _ => isTrue trivial
  | .locals _ => isTrue trivial
  | .flashDaemonValue _ => isTrue trivial

instance FitsWrites.decidable : ∀ l s, Decidable (FitsWrites l s)
  | [], _ => isTrue trivial
  | x :: l, s =>
    have := FitsWrites.decidable l (x.run s)
    inferInstanceAs (Decidable (x.Fits s ∧ FitsWrites l (x.run s)))

instance FitsSetters.decidable : ∀ fs s, Decidable (FitsSetters fs s)
  | [], _ => isTrue trivial
  | f :: fs, s =>
    have := FitsSetters.decidable fs (runWrites (f s).1 s)
    inferInstanceAs (Decidable (FitsWrites (f s).1 s ∧ FitsSetters fs (runWrites (f s).1 s)))

def Write.Idle (s : Store) : Write → Prop
  | .updateParamEntry _ _ => True
  | .addSetParmEntry _ _ _ => True
  | .set key value => s.params key = some value
  | .members m => s.members = m
  | .locals l => s.locals = l
  | .flashDaemonValue v => s.flashDaemonValue = v

def Write.atOnce (s : Store) : Write → Store
  | .updateParamEntry _ _ => s
  | .addSetParmEntry _ _ _ => s
  | .set key value => s.set key value
  | .members m => { s with members := m }
  | .locals l => { s with locals := l }
  | .flashDaemonValue v => { s with flashDaemonValue := v }

theorem add_fits {t : ParmType} {d : Data} {early : Bool}
    (h : Write.Fits s (.addSetParmEntry t d early)) :
    ∃ n, s.addSetParmEntryToBatch early t d =
      { s with batch := Staging.put s.batch t d, currSize := n } := by
  unfold Store.addSetParmEntryToBatch
  by_cases hfound : (Staging.find s.batch t).isSome = true
  · rw [if_pos hfound]
    exact ⟨s.currSize, rfl⟩
  · have hroom : ¬capacity - s.currSize < align4 (d.length + entrySize) :=
      Nat.not_lt.mpr (h.resolve_left hfound)
    rw [if_neg hfound]
    dsimp only
    rw [if_neg hroom]
    exact ⟨_, rfl⟩

theorem run_atOnce (h : x.Fits s) : (x.run s).initBatchUpdate = x.atOnce s.initBatchUpdate := by
  cases x with
  | addSetParmEntry t d early =>
    obtain ⟨n, hn⟩ := add_fits h
    show (s.addSetParmEntryToBatch early t d).initBatchUpdate = _
    rw [hn]
    rfl
  | updateParamEntry key value => rfl
  | set key value => rfl
  | members m => rfl
  | locals l => rfl
  | flashDaemonValue v => rfl

theorem writes_atOnce (h : FitsWrites l s) :
    (runWrites l s).initBatchUpdate = l.foldl Write.atOnce s.initBatchUpdate := by
  induction l generalizing s with
  | nil => rfl
  | cons x l ih =>
    have hrest := ih h.2
    rw [run_atOnce h.1] at hrest
    exact hrest

theorem Write.Idle.atOnce (h : x.Idle s) : x.atOnce s = s := by
  cases x with
  | addSetParmEntry t d early => rfl
  | updateParamEntry key value => rfl
  | set key value =>
    have hsame : Function.update s.params key (some value) = s.params := by
      have hself := Function.update_eq_self key s.params
      rw [show s.params key = some value from h] at hself
      exact hself
    exact congrArg (fun p => ({ s with params := p } : Store)) hsame
  | members m => exact congrArg (fun p => ({ s with members := p } : Store)) (Eq.symm h)
  | locals l => exact congrArg (fun p => ({ s with locals := p } : Store)) (Eq.symm h)
  | flashDaemonValue v =>
    exact congrArg (fun p => ({ s with flashDaemonValue := p } : Store)) (Eq.symm h)

theorem idle_writes (h : ∀ x ∈ l, x.Idle s) : l.foldl Write.atOnce s = s := by
  induction l with
  | nil => rfl
  | cons x l ih =>
    rw [List.foldl_cons, (h x (List.mem_cons_self ..)).atOnce]
    exact ih fun y hy => h y (List.mem_cons_of_mem _ hy)

def Idles (fs : List Setter) (s₀ : Store) : Prop :=
  ∀ s, s.initBatchUpdate = s₀ → FitsSetters fs s → (runSetters fs s).1.initBatchUpdate = s₀

theorem runSetters_append (fs gs : List Setter) (s : Store) :
    (runSetters (fs ++ gs) s).1 = (runSetters gs (runSetters fs s).1).1 := by
  induction fs generalizing s with
  | nil => rfl
  | cons f fs ih => exact ih _

theorem fitsSetters_append {fs gs : List Setter} :
    FitsSetters (fs ++ gs) s ↔ FitsSetters fs s ∧ FitsSetters gs (runSetters fs s).1 := by
  induction fs generalizing s with
  | nil => simp [FitsSetters, runSetters]
  | cons f fs ih =>
    show FitsWrites (f s).1 s ∧ FitsSetters (fs ++ gs) (runWrites (f s).1 s) ↔ _
    rw [ih]
    exact and_assoc.symm

theorem Idles.append {fs gs : List Setter} (hf : Idles fs s₀) (hg : Idles gs s₀) :
    Idles (fs ++ gs) s₀ := by
  intro s hs hfits
  obtain ⟨hfirst, hrest⟩ := fitsSetters_append.mp hfits
  rw [runSetters_append]
  exact hg _ (hf s hs hfirst) hrest

theorem Idles.single {f : Setter}
    (h : ∀ s, s.initBatchUpdate = s₀ → (f s).1.foldl Write.atOnce s₀ = s₀) : Idles [f] s₀ := by
  intro s hs hfits
  show (runWrites (f s).1 s).initBatchUpdate = s₀
  rw [writes_atOnce hfits.1, hs]
  exact h s hs

theorem Idles.others {os : List OtherSetter}
    (h : ∀ o ∈ os, ∀ x ∈ (o.run s₀).1, x.Idle s₀) : Idles (os.map OtherSetter.setter) s₀ := by
  induction os with
  | nil => exact fun s hs _ => hs
  | cons o os ih =>
    have hfirst : Idles [o.setter] s₀ := by
      refine Idles.single fun s hs => ?_
      show (o.run s.initBatchUpdate).1.foldl Write.atOnce s₀ = s₀
      rw [hs]
      exact idle_writes (h o (List.mem_cons_self ..))
    exact hfirst.append (ih fun p hp => h p (List.mem_cons_of_mem _ hp))

variable {w w' : World}

/-- The values remembered are those that the backend accepted last; the preview frame rate is apart
while `adjustPreviewFpsRange` has set another. -/
structure Agreement (c : Config) (w : World) : Prop where
  zsl : ∃ v n, w.store.params keyQcZsl = some v ∧ lookupAttr onOffModesMap v = some n ∧
    w.store.zslMode = decide (0 < n) ∧ w.store.locals.zslModeNew = decide (0 < n) ∧
    w.store.backend (.setter .zslMode) = some (int32 n)
  hfr : w.store.backend (.setter .hfr) = some (int32 w.store.locals.hfrMode)
  hfrRange : w.store.locals.hfrFpsRange =
    (hfrFps w.store.locals.hfrMode, hfrFps w.store.locals.hfrMode)
  hfrOn : w.store.locals.hfrOn = hfrIsOn w.store.locals.hfrMode
  flash : w.store.backend .ledMode = some (int32 w.store.flashDaemonValue)
  fps : w.adjusted = false → ∃ level a b y z,
    w.store.params keyPreviewFpsRange = some (rangeString a b) ∧
      w.store.backend (.setter .fpsRange) = some (c.fpsRange level a b y z)

structure Taken (w : World) (u s : Store) : Prop where
  params : ∀ k v, k ≠ "num-snaps-per-shutter" → Staging.find u.tempMap k = some v →
    s.params k = some v
  backend : ∀ t d, Staging.find u.batch t = some d → s.backend t = some d
  rest : ∀ t, Staging.find u.batch t = none → s.backend t = w.store.backend t

/-- A request that fails leaves the store as it was, apart from what is staged, so that the setters
do the same when it is sent again; one that does not is taken over. The map is left alone by the
commits of the HAL. -/
def Kept (c : Config) (w w' : World) : Event → Prop
  | .setParams r =>
    if (w.setParams c r).2 then Taken w (w.updateParameters c r).1 w'.store
    else w'.store.initBatchUpdate = w.store.initBatchUpdate ∧
      w'.updateParameters c r = w.updateParameters c r
  | _ => w'.store.params = w.store.params

namespace Request

def others (r : Request) : List OtherSetter := r.beforeZsl ++ r.beforeRates ++ r.beforeFlash ++ r.last

def rateChanged (r : Request) (s : Store) : Bool :=
  match r.frameRate, s.params keyPreviewFrameRate with
  | some str, some prev => str ≠ prev
  | _, _ => false

/-- The request changes nothing that is written at once: not the ZSL mode, the HFR mode, the mark for
a fixed frame rate, the flash mode, nor what the other setters write at once. -/
structure Harmless (c : Config) (r : Request) (s : Store) : Prop where
  zsl : ∀ v, r.zsl = some v → s.params keyQcZsl = some v ∨ lookupAttr onOffModesMap v = none
  hfr : s.locals.hfrMode = r.newHfrMode
  rate : s.locals.fixedFrameRateSet = ((s.locals.fixedFrameRateSet || r.rateChanged s) &&
    r.fpsRange ≠ c.parseFpsRange (s.params keyPreviewFpsRange))
  flash : s.flashMode = s.flashDaemonValue
  others : ∀ o ∈ r.others, ∀ x ∈ (o.run s.initBatchUpdate).1, x.Idle s

end Request

def Sound (c : Config) (w : World) : Event → Prop
  | .setParams r => FitsSetters (r.setters c) w.store.initBatchUpdate ∧
      ((w.setParams c r).2 = true ∨ r.Harmless c w.store)
  | .updateFlash accepts => accepts = true ∨ w.store.flashMode = w.store.flashDaemonValue
  | .adjustPreviewFpsRange _ _ => True
  | .setHDRSceneEnable bflag accepts => accepts = true ∨ w.store.hdrSceneEnabled = bflag ∨
      ({ w.store with hdrSceneEnabled := bflag } : Store).flashMode = w.store.flashDaemonValue

theorem setZslMode_idle (h : ∀ v, r.zsl = some v →
      s.params keyQcZsl = some v ∨ lookupAttr onOffModesMap v = none)
    (ht : t.initBatchUpdate = s.initBatchUpdate) : (r.setZslMode t).1 = [] := by
  have hparams : t.params = s.params := of_init Store.params (fun _ => rfl) ht
  unfold Request.setZslMode
  cases hz : r.zsl with
  | none => rfl
  | some v =>
    dsimp only
    rw [hparams]
    by_cases hsame : s.params keyQcZsl = some v
    · rw [if_pos hsame]
    · rw [if_neg hsame, (h v hz).resolve_left hsame]

theorem updateFlash_idle (h : s.flashMode = s.flashDaemonValue)
    (ht : t.initBatchUpdate = s.initBatchUpdate) : (r.updateFlash t).1 = [] := by
  have hmode : t.flashMode = s.flashMode := of_init Store.flashMode (fun _ => rfl) ht
  have hdaemon : t.flashDaemonValue = s.flashDaemonValue :=
    of_init Store.flashDaemonValue (fun _ => rfl) ht
  unfold Request.updateFlash
  rw [hmode, hdaemon, if_neg (not_not.mpr h)]

theorem hfrFps_off {mode : Int} (h : hfrIsOn mode = false) : hfrFps mode = 0 := by
  unfold hfrIsOn at h
  unfold hfrFps
  have hout : ¬(0 < mode ∧ mode < 5) := by simpa using h
  rw [if_neg (by omega), if_neg (by omega), if_neg (by omega), if_neg (by omega)]

theorem hfrLocals_same {l : Locals} (hmode : l.hfrMode = r.newHfrMode)
    (hrange : l.hfrFpsRange = (hfrFps l.hfrMode, hfrFps l.hfrMode)) (hon : l.hfrOn = hfrIsOn l.hfrMode) :
    r.hfrLocals l = l := by
  unfold Request.hfrLocals
  dsimp only
  rw [if_neg (not_not.mpr hmode)]
  cases hmodeOn : hfrIsOn l.hfrMode with
  | true =>
    rw [if_pos rfl]
    rw [hmodeOn] at hon
    exact congrArg (fun b => ({ l with hfrOn := b } : Locals)) hon.symm
  | false =>
    rw [if_neg (by decide)]
    rw [hfrFps_off hmodeOn] at hrange
    rw [hmodeOn] at hon
    obtain ⟨zslModeNew, hfrMode, hfrFpsRange, hfrOn, fixedFrameRateSet⟩ := l
    simp_all

def Write.Stages : Write → Prop
  | .updateParamEntry _ _ => True
  | .addSetParmEntry _ _ _ => True
  | _ => False

theorem stages_atOnce (h : ∀ x ∈ l, x.Stages) (s : Store) : l.foldl Write.atOnce s = s := by
  refine idle_writes fun x hx => ?_
  have hstages := h x hx
  cases x with
  | updateParamEntry key value => trivial
  | addSetParmEntry t d early => trivial
  | set key value => exact hstages.elim
  | members m => exact hstages.elim
  | locals l => exact hstages.elim
  | flashDaemonValue v => exact hstages.elim

theorem entryIfChanged_stages (key : String) (str : Option String) (s : Store) :
    ∀ x ∈ Request.entryIfChanged key str s, x.Stages := by
  intro x hx
  unfold Request.entryIfChanged at hx
  split at hx
  · split_ifs at hx
    · rw [List.mem_singleton.mp hx]
      trivial
    · cases hx
  · cases hx

theorem stageFpsRange_stages (level : Nat) (early : Bool) (a b y z : Int) :
    ∀ x ∈ stageFpsRange c level early a b y z, x.Stages := by
  intro x hx
  unfold stageFpsRange at hx
  split_ifs at hx
  all_goals
    rcases List.mem_cons.mp hx with rfl | hx
    · trivial
    · rw [List.mem_singleton.mp hx]
      trivial

theorem lookupFpsRange_stages (l : Locals) (a b : Int) :
    ∀ x ∈ (r.lookupFpsRange c l a b).1, x.Stages := by
  unfold Request.lookupFpsRange
  split_ifs
  · exact stageFpsRange_stages _ _ _ _ _ _
  · exact stageFpsRange_stages _ _ _ _ _ _
  · exact fun x hx => nomatch hx

theorem setPreviewFrameRate_atOnce (s : Store) :
    (r.setPreviewFrameRate s).1.foldl Write.atOnce s =
      { s with locals := { s.locals with
          fixedFrameRateSet := s.locals.fixedFrameRateSet || r.rateChanged s } } := by
  unfold Request.setPreviewFrameRate Request.rateChanged
  cases hr : r.frameRate with
  | none => simp
  | some str =>
    cases hp : s.params keyPreviewFrameRate with
    | none => simp
    | some prev =>
      by_cases hne : str ≠ prev
      · simp [hne, Write.atOnce]
      · simp [hne]

theorem setPreviewFpsRange_atOnce (hmode : s.locals.hfrMode = r.newHfrMode)
    (hrange : s.locals.hfrFpsRange = (hfrFps s.locals.hfrMode, hfrFps s.locals.hfrMode))
    (hon : s.locals.hfrOn = hfrIsOn s.locals.hfrMode) :
    (r.setPreviewFpsRange c s).1.foldl Write.atOnce s =
      { s with locals := { s.locals with
          fixedFrameRateSet := s.locals.fixedFrameRateSet &&
            r.fpsRange ≠ c.parseFpsRange (s.params keyPreviewFpsRange) } } := by
  have hsame := hfrLocals_same hmode hrange hon
  have hentries : ∀ x ∈ Request.entryIfChanged keyQcVideoHighFrameRate r.hfr s ++
      Request.entryIfChanged keyQcVideoHighSpeedRecording r.hsr s, x.Stages := by
    intro x hx
    rcases List.mem_append.mp hx with hx | hx
    · exact entryIfChanged_stages _ _ _ x hx
    · exact entryIfChanged_stages _ _ _ x hx
  have hhfr : (r.updateHFRFrameRate s).foldl Write.atOnce s = s := by
    unfold Request.updateHFRFrameRate
    dsimp only
    rw [hsame, if_neg (not_not.mpr hmode), List.foldl_append, stages_atOnce hentries]
    rfl
  unfold Request.setPreviewFpsRange
  dsimp only
  rw [hsame]
  by_cases hkept : r.fpsRange = c.parseFpsRange (s.params keyPreviewFpsRange)
  · rw [if_pos hkept]
    cases hfixed : s.locals.fixedFrameRateSet with
    | true =>
      rw [if_pos rfl]
      dsimp only
      rw [List.foldl_append, hhfr, List.foldl_cons, stages_atOnce (lookupFpsRange_stages _ _ _)]
      simp [Write.atOnce, hkept]
    | false =>
      rw [if_neg (by decide), if_pos hmode, hhfr]
      have hback : ({ s.locals with fixedFrameRateSet := false } : Locals) = s.locals :=
        congrArg (fun b => ({ s.locals with fixedFrameRateSet := b } : Locals)) hfixed.symm
      simp [hback]
  · rw [if_neg hkept]
    dsimp only
    rw [List.foldl_append, hhfr, stages_atOnce (lookupFpsRange_stages _ _ _)]
    simp [hkept]

theorem rates_idle (hmode : s₀.locals.hfrMode = r.newHfrMode)
    (hrange : s₀.locals.hfrFpsRange = (hfrFps s₀.locals.hfrMode, hfrFps s₀.locals.hfrMode))
    (hon : s₀.locals.hfrOn = hfrIsOn s₀.locals.hfrMode)
    (hrate : s₀.locals.fixedFrameRateSet = ((s₀.locals.fixedFrameRateSet || r.rateChanged s₀) &&
      r.fpsRange ≠ c.parseFpsRange (s₀.params keyPreviewFpsRange))) :
    Idles [r.setPreviewFrameRate, r.setPreviewFpsRange c] s₀ := by
  intro s hs hfits
  let s₂ : Store := { s₀ with locals := { s₀.locals with
    fixedFrameRateSet := s₀.locals.fixedFrameRateSet || r.rateChanged s₀ } }
  have hfirst : r.setPreviewFrameRate s = r.setPreviewFrameRate s₀ := by
    rw [← hs]
    rfl
  have hmid : (runWrites (r.setPreviewFrameRate s).1 s).initBatchUpdate = s₂ := by
    rw [writes_atOnce hfits.1, hs, hfirst, setPreviewFrameRate_atOnce]
  have hsecond : r.setPreviewFpsRange c (runWrites (r.setPreviewFrameRate s).1 s) =
      r.setPreviewFpsRange c s₂ := by
    rw [← hmid]
    rfl
  show (runWrites (r.setPreviewFpsRange c (runWrites (r.setPreviewFrameRate s).1 s)).1
    (runWrites (r.setPreviewFrameRate s).1 s)).initBatchUpdate = s₀
  rw [writes_atOnce hfits.2.1, hmid, hsecond, @setPreviewFpsRange_atOnce c s₂ r hmode hrange hon]
  exact congrArg (fun b => ({ s₀ with locals := { s₀.locals with fixedFrameRateSet := b } } : Store))
    hrate.symm

theorem harmless_idle (h : Agreement c w) (hr : r.Harmless c w.store) :
    Idles (r.setters c) w.store.initBatchUpdate := by
  have hothers {os : List OtherSetter} (hos : ∀ o ∈ os, o ∈ r.others) :
      Idles (os.map OtherSetter.setter) w.store.initBatchUpdate :=
    Idles.others fun o ho => hr.others o (hos o ho)
  have hzsl : Idles [r.setZslMode] w.store.initBatchUpdate := by
    refine Idles.single fun s hs => ?_
    rw [setZslMode_idle hr.zsl hs]
    rfl
  have hrates : Idles [r.setPreviewFrameRate, r.setPreviewFpsRange c] w.store.initBatchUpdate :=
    rates_idle hr.hfr h.hfrRange h.hfrOn hr.rate
  have hflash : Idles [r.updateFlash] w.store.initBatchUpdate := by
    refine Idles.single fun s hs => ?_
    rw [updateFlash_idle hr.flash hs]
    rfl
  refine (hothers fun o ho => ?_).append (hzsl.append ((hothers fun o ho => ?_).append
    (hrates.append ((hothers fun o ho => ?_).append (hflash.append (hothers fun o ho => ?_))))))
  all_goals
    unfold Request.others
    simp [ho]

end Wt88047.ParamCommit
