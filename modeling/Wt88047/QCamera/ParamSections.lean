import Wt88047.Lib.Runs
import Wt88047.QCamera.ParamStore

/-! `updateParameters` and `commitParameterChanges` as two sections of `m_parm_lock`, with the
sections of other threads before, between and after them. `set_parms` succeeds throughout. -/

namespace Wt88047.ParamStore

inductive Stage
  | updateParamEntry (key value : String)
  | parm (p : SetterParm) (d : Data)
  | set (key value : String)
  | members (m : Members) (l : Locals)

inductive ThermalMode
  | adjustFps (range : Data)
  | frameSkip (pattern : Int)
  | incorrect

/-- `pending` while a successful `updateParameters` waits for its commit. What the last one has
staged is recorded in `wantMap` and `wantBatch`; a value that a setter then puts into the map at once
takes it out of the former. -/
structure World where
  store : Store
  pending : Bool := false
  wantMap : List (String × String) := []
  wantBatch : List (ParmType × Data) := []

namespace World

def add (t : ParmType) (d : Data) (w : World) : World :=
  { w with
    store := w.store.addSetParmEntryToBatch true t d
    wantBatch := Staging.put w.wantBatch t d }

def stage (w : World) : Stage → World
  | .updateParamEntry key value =>
    { w with
      store := w.store.updateParamEntry key value
      wantMap := Staging.put w.wantMap key value }
  | .parm p d => w.add (.setter p) d
  | .set key value =>
    { w with store := w.store.set key value, wantMap := Staging.drop w.wantMap key }
  | .members m l => { w with store := { w.store with members := m, locals := l } }

def updateFlash (w : World) : World :=
  if w.store.flashMode ≠ w.store.flashDaemonValue then
    { w with
      store := w.store.stageFlash true
      wantBatch := Staging.put w.wantBatch .ledMode (int32 w.store.flashMode) }
  else w

def runSetters (before : List Stage) (w : World) : World :=
  before.foldl stage { w with store := w.store.initBatchUpdate, wantMap := [], wantBatch := [] }

/-- `updateParameters` with the setters before and after `updateFlash`, and whether all of them
succeed. -/
def updateParameters (before after : List Stage) (ok : Bool) (w : World) : World :=
  { after.foldl stage (w.runSetters before).updateFlash with pending := ok }

/-- `commitParameterChanges`, with the count that `setNumOfSnapshot` sets unless it has no memory. -/
def commitParameterChanges (count : Option String) (w : World) : World :=
  let w := { w with store := (w.store.commitSetBatch true).1, pending := false }
  match count with
  | none => w
  | some count =>
    { w with
      store := w.store.set "num-snaps-per-shutter" count
      wantMap := Staging.drop w.wantMap "num-snaps-per-shutter" }

def updateThermalLevel (opened : Bool) (mode : ThermalMode) (w : World) : World :=
  if !opened then w
  else
    match mode with
    | .adjustFps range => { w with store := (w.store.adjustPreviewFpsRange true range).1 }
    | .frameSkip pattern => { w with store := (w.store.setFrameSkip true pattern).1 }
    | .incorrect => w

end World

inductive Event
  | update (before after : List Stage) (ok : Bool)
  | commit (count : Option String)
  | hdr (scene : Bool)
  | thermal (opened : Bool) (mode : ThermalMode)

def step (w : World) : Event → Option World
  | .update before after ok => if w.pending then none else some (w.updateParameters before after ok)
  | .commit count => if w.pending then some (w.commitParameterChanges count) else none
  | .hdr scene => some { w with store := w.store.setHDRSceneEnable true scene }
  | .thermal opened mode => some (w.updateThermalLevel opened mode)

/-- All that the last `updateParameters` staged is in the map and with the backend. -/
structure Delivered (w : World) : Prop where
  params : Staging.Agrees w.wantMap w.store.params
  backend : Staging.Agrees w.wantBatch w.store.backend

/-- A commit that returns `NO_ERROR` has delivered what was staged; the flash mode that a new HDR
scene calls for, and the frame rate or skip pattern of a thermal level, have been sent. -/
def Kept (w w' : World) : Event → Prop
  | .update _ _ _ => True
  | .commit count => count.isSome → Delivered w'
  | .hdr scene => w.store.hdrSceneEnabled ≠ scene →
      w'.store.backend .ledMode = some (int32 w'.store.flashMode)
  | .thermal opened (.adjustFps range) => opened = true → w'.store.backend (.setter .fpsRange) = some range
  | .thermal opened (.frameSkip pattern) =>
      opened = true → w'.store.backend .frameSkip = some (int32 pattern)
  | .thermal _ .incorrect => True

def Quiet (w : World) : Prop := w.pending = true → w.wantMap = [] ∧ w.wantBatch = []

/-- A section that empties the batch does not come between `updateParameters` and its commit; and an
`updateParameters` that fails, and so is not committed, calls for the flash mode that was sent last. -/
def Sound (w : World) : Event → Prop
  | .update before _ ok => ok = true ∨ (w.runSetters before).store.flashMode = w.store.flashDaemonValue
  | .commit _ => True
  | .hdr scene => w.store.hdrSceneEnabled = scene ∨ Quiet w
  | .thermal opened mode => opened = false ∨ mode = .incorrect ∨ Quiet w

structure Open (w : World) : Prop where
  tidy : Tidy w.store
  flash : w.store.ahead .ledMode = some (int32 w.store.flashDaemonValue)
  sent : Staging.find w.wantBatch .ledMode = none →
    w.store.backend .ledMode = some (int32 w.store.flashDaemonValue)
  mapAhead : Staging.Agrees w.wantMap w.store.mapAhead
  ahead : Staging.Agrees w.wantBatch w.store.ahead

structure Inv (w : World) : Prop where
  tidy : Tidy w.store
  idle : w.pending = false → w.store.backend .ledMode = some (int32 w.store.flashDaemonValue)
  opened : w.pending = true → Open w

variable {w w' : World} {t : ParmType} {d : Data}

theorem Open.add (h : Open w) (ht : t ≠ .ledMode) : Open (w.add t d) := by
  obtain ⟨hadded, hstaged⟩ := Store.addSetParm_true h.tidy t d
  refine ⟨hstaged.tidy, ?_, ?_, ?_, ?_⟩
  · show (w.store.addSetParmEntryToBatch true t d).ahead .ledMode = _
    rw [hadded, Function.update_of_ne ht.symm, h.flash]
    exact congrArg (fun v => some (int32 v)) hstaged.daemon.symm
  · intro hnone
    have hnone : Staging.find w.wantBatch .ledMode = none := by
      rw [← Staging.find_put_other ht.symm]
      exact hnone
    show (w.store.addSetParmEntryToBatch true t d).backend .ledMode =
      some (int32 (w.store.addSetParmEntryToBatch true t d).flashDaemonValue)
    rw [hstaged.daemon]
    rcases hstaged.backend with hsame | hahead
    · rw [hsame, h.sent hnone]
    · rw [hahead, h.flash]
  · show Staging.Agrees w.wantMap (w.store.addSetParmEntryToBatch true t d).mapAhead
    rw [hstaged.mapAhead]
    exact h.mapAhead
  · show Staging.Agrees (Staging.put w.wantBatch t d) (w.store.addSetParmEntryToBatch true t d).ahead
    rw [hadded]
    exact h.ahead.put t d

theorem Open.stage (h : Open w) (x : Stage) : Open (w.stage x) := by
  cases x with
  | updateParamEntry key value =>
    refine ⟨⟨h.tidy.tempMap.put key value, h.tidy.batch⟩, h.flash, h.sent, ?_, h.ahead⟩
    show Staging.Agrees _ (Staging.through (Staging.put w.store.tempMap key value) w.store.params)
    rw [Staging.through_put]
    exact h.mapAhead.put key value
  | parm p d => exact h.add ParmType.noConfusion
  | set key value =>
    refine ⟨⟨h.tidy.tempMap, h.tidy.batch⟩, h.flash, h.sent, ?_, h.ahead⟩
    exact h.mapAhead.drop fun j hj => Staging.through_update_of_ne hj _
  | members m l => exact ⟨⟨h.tidy.tempMap, h.tidy.batch⟩, h.flash, h.sent, h.mapAhead, h.ahead⟩

theorem Open.stages (h : Open w) (l : List Stage) : Open (l.foldl World.stage w) := by
  induction l generalizing w with
  | nil => exact h
  | cons x l ih => exact ih (h.stage x)

theorem stage_led (x : Stage) :
    Staging.find (w.stage x).wantBatch .ledMode = Staging.find w.wantBatch .ledMode := by
  cases x with
  | updateParamEntry key value => rfl
  | parm p d => exact Staging.find_put_other ParmType.noConfusion
  | set key value => rfl
  | members m l => rfl

theorem stages_led (l : List Stage) :
    Staging.find (l.foldl World.stage w).wantBatch .ledMode = Staging.find w.wantBatch .ledMode := by
  induction l generalizing w with
  | nil => rfl
  | cons x l ih => exact ih.trans (stage_led x)

theorem Open.stage_daemon (h : Open w) (x : Stage) :
    (w.stage x).store.flashDaemonValue = w.store.flashDaemonValue := by
  cases x with
  | updateParamEntry key value => rfl
  | parm p d => exact (Store.addSetParm_true h.tidy (.setter p) d).2.daemon
  | set key value => rfl
  | members m l => rfl

theorem Open.stages_daemon (h : Open w) (l : List Stage) :
    (l.foldl World.stage w).store.flashDaemonValue = w.store.flashDaemonValue := by
  induction l generalizing w with
  | nil => rfl
  | cons x l ih => exact (ih (h.stage x)).trans (h.stage_daemon x)

theorem Open.updateFlash (h : Open w) : Open w.updateFlash := by
  unfold World.updateFlash
  by_cases hne : w.store.flashMode ≠ w.store.flashDaemonValue
  · obtain ⟨hadded, hstaged⟩ := Store.addSetParm_true h.tidy .ledMode (int32 w.store.flashMode)
    have hstore : w.store.stageFlash true =
        { w.store.addSetParmEntryToBatch true .ledMode (int32 w.store.flashMode) with
          flashDaemonValue := w.store.flashMode } := if_pos hne
    rw [if_pos hne, hstore]
    refine ⟨⟨hstaged.tidy.tempMap, hstaged.tidy.batch⟩, ?_, ?_, ?_, ?_⟩
    · show (w.store.addSetParmEntryToBatch true .ledMode (int32 w.store.flashMode)).ahead .ledMode = _
      rw [hadded, Function.update_self]
    · intro hnone
      rw [Staging.find_put_same] at hnone
      cases hnone
    · show Staging.Agrees w.wantMap
        (w.store.addSetParmEntryToBatch true .ledMode (int32 w.store.flashMode)).mapAhead
      rw [hstaged.mapAhead]
      exact h.mapAhead
    · show Staging.Agrees (Staging.put w.wantBatch .ledMode (int32 w.store.flashMode))
        (w.store.addSetParmEntryToBatch true .ledMode (int32 w.store.flashMode)).ahead
      rw [hadded]
      exact h.ahead.put .ledMode _
  · rw [if_neg hne]
    exact h

theorem runSetters_open (hled : w.store.backend .ledMode = some (int32 w.store.flashDaemonValue))
    (before : List Stage) :
    Open (w.runSetters before) ∧ Staging.find (w.runSetters before).wantBatch .ledMode = none ∧
      (w.runSetters before).store.flashDaemonValue = w.store.flashDaemonValue := by
  have hopen : Open { w with store := w.store.initBatchUpdate, wantMap := [], wantBatch := [] } :=
    ⟨Store.tidy_init, hled, fun _ => hled, Staging.Agrees.nil, Staging.Agrees.nil⟩
  exact ⟨hopen.stages before, stages_led before, hopen.stages_daemon before⟩

theorem update_inv (h : Inv w) (hidle : w.pending = false) {before after : List Stage} {ok : Bool}
    (hok : ok = true ∨ (w.runSetters before).store.flashMode = w.store.flashDaemonValue) :
    Inv (w.updateParameters before after ok) := by
  obtain ⟨hbefore, hnone, hdaemon⟩ := runSetters_open (h.idle hidle) before
  have hopen := hbefore.updateFlash.stages after
  refine ⟨hopen.tidy, fun hfailed => ?_, fun _ => ⟨hopen.tidy, hopen.flash, hopen.sent, hopen.mapAhead,
    hopen.ahead⟩⟩
  have hflash : (w.runSetters before).store.flashMode = w.store.flashDaemonValue := by
    rcases hok with rfl | hflash
    · cases hfailed
    · exact hflash
  have hsame : (w.runSetters before).updateFlash = w.runSetters before :=
    if_neg fun hne => hne (hflash.trans hdaemon.symm)
  refine hopen.sent ?_
  rw [stages_led, hsame]
  exact hnone

theorem commit_inv (h : Inv w) (hpending : w.pending = true) (count : Option String) :
    Inv (w.commitParameterChanges count) ∧ Delivered (w.commitParameterChanges count) := by
  have hopen := h.opened hpending
  obtain ⟨_, hc⟩ := Store.commitSetBatch_true hopen.tidy
  have htidy := hc.tidy hopen.tidy
  have hled : (w.store.commitSetBatch true).1.backend .ledMode =
      some (int32 (w.store.commitSetBatch true).1.flashDaemonValue) := by
    rw [hc.backend, hc.daemon]
    exact hopen.flash
  have hparams : Staging.Agrees w.wantMap (w.store.commitSetBatch true).1.params := by
    rw [hc.params]
    exact hopen.mapAhead
  have hbackend : Staging.Agrees w.wantBatch (w.store.commitSetBatch true).1.backend := by
    rw [hc.backend]
    exact hopen.ahead
  cases count with
  | none => exact ⟨⟨htidy, fun _ => hled, fun hf => Bool.noConfusion hf⟩, hparams, hbackend⟩
  | some count =>
    refine ⟨⟨⟨htidy.tempMap, htidy.batch⟩, fun _ => hled, fun hf => Bool.noConfusion hf⟩, ?_, hbackend⟩
    exact hparams.drop fun j hj => Function.update_of_ne hj _ _

theorem other_inv {s : Store} (hquiet : Quiet w) (htidy : Tidy s)
    (hled : s.backend .ledMode = some (int32 s.flashDaemonValue))
    (hsettled : s.ahead = s.backend) : Inv { w with store := s } := by
  refine ⟨htidy, fun _ => hled, fun hpending => ?_⟩
  obtain ⟨hmap, hbatch⟩ := hquiet hpending
  refine ⟨htidy, ?_, fun _ => hled, ?_, ?_⟩
  · show s.ahead .ledMode = _
    rw [hsettled]
    exact hled
  · show Staging.Agrees w.wantMap _
    rw [hmap]
    exact Staging.Agrees.nil
  · show Staging.Agrees w.wantBatch _
    rw [hbatch]
    exact Staging.Agrees.nil

theorem Inv.led (h : Inv w) (hquiet : Quiet w) :
    w.store.backend .ledMode = some (int32 w.store.flashDaemonValue) := by
  cases hp : w.pending with
  | false => exact h.idle hp
  | true =>
    refine (h.opened hp).sent ?_
    rw [(hquiet hp).2]
    rfl

theorem hdr_inv (h : Inv w) {scene : Bool} (hs : w.store.hdrSceneEnabled = scene ∨ Quiet w) :
    Inv { w with store := w.store.setHDRSceneEnable true scene } ∧
      (w.store.hdrSceneEnabled ≠ scene → (w.store.setHDRSceneEnable true scene).backend .ledMode =
        some (int32 (w.store.setHDRSceneEnable true scene).flashMode)) := by
  unfold Store.setHDRSceneEnable
  dsimp only
  by_cases hne : w.store.hdrSceneEnabled ≠ scene
  · have hquiet : Quiet w := hs.resolve_left hne
    have hled := h.led hquiet
    obtain ⟨htidy, hsettled, hdaemon, hmode, hsent⟩ :=
      @Store.updateFlash_true { w.store with hdrSceneEnabled := scene } hled
    rw [if_pos hne]
    refine ⟨other_inv hquiet htidy ?_ hsettled, fun _ => ?_⟩
    · rw [hdaemon]
      exact hsent
    · rw [hmode]
      exact hsent
  · have heq : w.store.hdrSceneEnabled = scene := not_not.mp hne
    have hsame : ({ w.store with hdrSceneEnabled := scene } : Store) = w.store :=
      congrArg (fun b => ({ w.store with hdrSceneEnabled := b } : Store)) heq.symm
    rw [if_neg hne, hsame]
    exact ⟨h, fun hx => absurd hx hne⟩

theorem entry_inv (h : Inv w) (hquiet : Quiet w) (ht : t ≠ .ledMode) (d : Data) :
    Inv { w with store := (w.store.commitEntry true t d).1 } ∧
      (w.store.commitEntry true t d).1.backend t = some d := by
  obtain ⟨htidy, hsettled, hbackend, hdaemon⟩ := Store.commitEntry_true w.store t d
  refine ⟨other_inv hquiet htidy ?_ hsettled, ?_⟩
  · rw [hbackend, Function.update_of_ne ht.symm, hdaemon]
    exact h.led hquiet
  · rw [hbackend, Function.update_self]

theorem step_inv {e : Event} (h : Inv w) (hs : Sound w e) (hw : step w e = some w') :
    Inv w' ∧ Kept w w' e := by
  cases e with
  | update before after ok =>
    unfold step at hw
    split_ifs at hw with hp
    obtain rfl := Option.some.inj hw
    exact ⟨update_inv h (by simpa using hp) hs, trivial⟩
  | commit count =>
    unfold step at hw
    split_ifs at hw with hp
    obtain rfl := Option.some.inj hw
    obtain ⟨hinv, hdelivered⟩ := commit_inv h hp count
    exact ⟨hinv, fun _ => hdelivered⟩
  | hdr scene =>
    obtain rfl := Option.some.inj hw
    exact hdr_inv h hs
  | thermal opened mode =>
    obtain rfl := Option.some.inj hw
    cases opened with
    | false =>
      refine ⟨h, ?_⟩
      cases mode with
      | adjustFps range => exact fun hf => Bool.noConfusion hf
      | frameSkip pattern => exact fun hf => Bool.noConfusion hf
      | incorrect => trivial
    | true =>
      cases mode with
      | incorrect => exact ⟨h, trivial⟩
      | adjustFps range =>
        have hquiet : Quiet w := (hs.resolve_left Bool.noConfusion).resolve_left ThermalMode.noConfusion
        have hne : ParmType.setter .fpsRange ≠ .ledMode := ParmType.noConfusion
        obtain ⟨hinv, hsent⟩ := entry_inv h hquiet hne range
        exact ⟨hinv, fun _ => hsent⟩
      | frameSkip pattern =>
        have hquiet : Quiet w := (hs.resolve_left Bool.noConfusion).resolve_left ThermalMode.noConfusion
        have hne : ParmType.frameSkip ≠ .ledMode := ParmType.noConfusion
        obtain ⟨hinv, hsent⟩ := entry_inv h hquiet hne (int32 pattern)
        exact ⟨hinv, fun _ => hsent⟩

structure Started (w : World) : Prop where
  idle : w.pending = false
  tidy : Tidy w.store
  led : w.store.backend .ledMode = some (int32 w.store.flashDaemonValue)

theorem Started.inv (h : Started w) : Inv w := by
  refine ⟨h.tidy, fun _ => h.led, fun hp => ?_⟩
  rw [h.idle] at hp
  cases hp

/-- Where no section gets between a request and its commit, no change is lost. -/
theorem no_change_lost {es : List Event} (h : Started w) (hs : Runs.Along step Sound w es) :
    Runs.Along step (fun v e => ∀ v', step v e = some v' → Kept v v' e) w es :=
  Runs.Along.of_invariant (fun _ _ _ hi hp hst => (step_inv hi hp hst).1)
    (fun _ _ hi hp _ hst => (step_inv hi hp hst).2) h.inv hs

instance : DecidablePred Quiet := fun w =>
  inferInstanceAs (Decidable (w.pending = true → w.wantMap = [] ∧ w.wantBatch = []))

deriving instance DecidableEq for ThermalMode

instance (w : World) : ∀ e, Decidable (Sound w e)
  | .update before _ ok => inferInstanceAs
      (Decidable (ok = true ∨ (w.runSetters before).store.flashMode = w.store.flashDaemonValue))
  | .commit _ => isTrue trivial
  | .hdr scene => inferInstanceAs (Decidable (w.store.hdrSceneEnabled = scene ∨ Quiet w))
  | .thermal opened mode =>
    inferInstanceAs (Decidable (opened = false ∨ mode = .incorrect ∨ Quiet w))

def fresh : World :=
  { store := {
      params := fun _ => none
      backend := fun t => if t = .ledMode then some (int32 camFlashModeOff) else none } }

theorem fresh_started : Started fresh := ⟨rfl, ⟨List.nodup_nil, List.nodup_nil⟩, rfl⟩

/-- A request, its commit, then a new HDR scene and a thermal level. -/
theorem no_change_lost_apart : ∃ es,
    es = [.update [.updateParamEntry "zoom" "5", .parm (.other 7) (int32 5)] [] true, .commit (some "1"),
      .hdr true, .thermal true (.frameSkip 2)] ∧
    Runs.Along step (fun v e => ∀ v', step v e = some v' → Kept v v' e) fresh es :=
  ⟨_, rfl, no_change_lost fresh_started (by decide)⟩

/-- A new HDR scene between a request and its commit throws the request away. -/
theorem scene_change_loses_request :
    ¬∀ (w : World) (es : List Event), Started w →
      Runs.Along step (fun v e => ∀ v', step v e = some v' → Kept v v' e) w es := by
  intro h
  have hrun := h fresh [.update [.updateParamEntry "zoom" "5"] [] true, .hdr true, .commit (some "1")]
    fresh_started
  have hcommit := ((hrun.tail rfl).tail rfl).head _ rfl
  have hzoom := (hcommit rfl).params "zoom" "5" (by decide)
  exact absurd hzoom (by decide)

end Wt88047.ParamStore
