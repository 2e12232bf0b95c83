import Mathlib.Algebra.Order.Field.Rat
import Mathlib.Tactic.Linarith
import Mathlib.Tactic.Positivity
import Wt88047.QCamera.ParamSetters

/-! Requests for a preview frame rate and for a range of them: what is staged for the parameter map and for
the backend. Rates are exact, there is no property for a fixed rate, and the thermal level adjusts nothing. -/

namespace Wt88047.FrameRates

open ParamStore (Locals)
open ParamCommit (rangeString keyPreviewFpsRange keyPreviewFrameRate keyQcVideoHighFrameRate
  keyQcVideoHighSpeedRecording hfrFps hfrIsOn)

structure FpsRange where
  minFps : ℚ
  maxFps : ℚ
  videoMinFps : ℚ
  videoMaxFps : ℚ
  deriving DecidableEq

structure ValidRange where
  minFps : ℚ
  maxFps : ℚ
  pos : 0 < minFps
  le : minFps ≤ maxFps

/-- `getPreviewFpsRange` of the framework on a value of the map, and `fps_ranges_tbl`. -/
structure Capability where
  getPreviewFpsRange : Option String → Int32 × Int32
  fpsRangesTbl : List ValidRange

/-- The parameters of a request; `fpsRange` is what `getPreviewFpsRange` gives, and `previewFrameRate` what
`getPreviewFrameRate` does. -/
structure Request where
  hfr : Option String := none
  hsr : Option String := none
  frameRate : Option String := none
  previewFrameRate : Int32 := -1
  fpsRange : Int32 × Int32
  accepts : Bool := true

structure Store where
  params : String → Option String
  tempMap : List (String × String) := []
  fpsRange : Option FpsRange := none
  hfr : Option Int := none
  backendFpsRange : Option FpsRange := none
  backendHfr : Option Int := none
  needRestart : Bool := false
  locals : Locals := {}

abbrev noError : Int := 0

/-- `BAD_VALUE`, which is `-EINVAL` -/
abbrev badValue : Int := -22

namespace Store

def initBatchUpdate (s : Store) : Store := { s with tempMap := [], fpsRange := none, hfr := none }

def updateParamEntry (key value : String) (s : Store) : Store :=
  { s with tempMap := Staging.put s.tempMap key value }

def changes (key : String) (str : Option String) (s : Store) : Option String :=
  match str, s.params key with
  | some v, some prev => if v ≠ prev then some v else none
  | _, _ => none

def updateIfChanged (key : String) (str : Option String) (s : Store) : Store :=
  match s.changes key str with
  | some v => s.updateParamEntry key v
  | none => s

def fpsRangeOf (min max vidMin vidMax : Int) : FpsRange :=
  { minFps := min / 1000
    maxFps := max / 1000
    videoMinFps := vidMin / 1000
    videoMaxFps := vidMax / 1000 }

/-- `setPreviewFpsRange` of four rates. -/
def stageFpsRange (min max vidMin vidMax : Int) (s : Store) : Store :=
  { s.updateParamEntry keyPreviewFpsRange (rangeString min max) with
    fpsRange := some (fpsRangeOf min max vidMin vidMax) }

/-- `commitSetBatch` when `set_parms` succeeds. -/
def commit (s : Store) : Store :=
  { s with
    params := Staging.commit s.tempMap s.params
    tempMap := []
    backendFpsRange := s.fpsRange.or s.backendFpsRange
    backendHfr := s.hfr.or s.backendHfr }

end Store

namespace Request

def strings (r : Request) : ParamCommit.Request := { hfr := r.hfr, hsr := r.hsr }

def setPreviewFrameRate (r : Request) (s : Store) : Store :=
  match s.changes keyPreviewFrameRate r.frameRate with
  | some v => { s.updateParamEntry keyPreviewFrameRate v with locals := { s.locals with fixedFrameRateSet := true } }
  | none => s

/-- `UpdateHFRFrameRate` and, if the mode is new, `setHighFrameRate`. -/
def updateHFRFrameRate (r : Request) (s : Store) : Store :=
  let mode := s.locals.hfrMode
  let s := s.updateIfChanged keyQcVideoHighFrameRate r.hfr
  let s := s.updateIfChanged keyQcVideoHighSpeedRecording r.hsr
  let s := { s with locals := r.strings.hfrLocals s.locals }
  if mode ≠ r.strings.newHfrMode then { s with hfr := some s.locals.hfrMode, needRestart := true } else s

end Request

def ValidRange.lets (e : ValidRange) (min max : Int) : Prop := e.minFps * 1000 ≤ min ∧ max ≤ e.maxFps * 1000

instance (e : ValidRange) (min max : Int) : Decidable (e.lets min max) := inferInstanceAs (Decidable (_ ∧ _))

/-- The loop over the table in `setPreviewFpsRange`, and what follows it. -/
def lookupFpsRange (c : Capability) (min max : Int) (s : Store) : Store × Int :=
  if c.fpsRangesTbl.any fun e => e.lets min max then
    let hfr := s.locals.hfrFpsRange
    if hfr.1 ≤ 0 || hfr.2 ≤ 0 then (s.stageFpsRange min max min max, noError)
    else (s.stageFpsRange min max hfr.1 hfr.2, noError)
  else (s, badValue)

namespace Request

def setPreviewFpsRange (c : Capability) (r : Request) (s : Store) : Store × Int :=
  let prev := c.getPreviewFpsRange (s.params keyPreviewFpsRange)
  let updateNeeded : Bool := s.locals.hfrMode ≠ r.strings.newHfrMode
  let s := r.updateHFRFrameRate s
  if r.fpsRange = prev then
    if s.locals.fixedFrameRateSet then
      let rate := r.previewFrameRate * 1000
      lookupFpsRange c rate.toInt rate.toInt { s with locals := { s.locals with fixedFrameRateSet := false } }
    else if !updateNeeded then (s, noError)
    else lookupFpsRange c r.fpsRange.1.toInt r.fpsRange.2.toInt s
  else lookupFpsRange c r.fpsRange.1.toInt r.fpsRange.2.toInt s

/-- The two setters, in the order of `updateParameters`. -/
def update (c : Capability) (r : Request) (s : Store) : Store × Int :=
  r.setPreviewFpsRange c (r.setPreviewFrameRate s.initBatchUpdate)

end Request

/-- A request, and the commit if it may go ahead; `accepts` is whether nothing else is wrong and `set_parms`
succeeds. -/
def step (c : Capability) (s : Store) (r : Request) : Option Store :=
  let u := r.update c s
  some (if u.2 = noError ∧ r.accepts then u.1.commit else u.1)

def Supported (c : Capability) (min max : Int) : Prop := min ≤ max ∧ ∃ e ∈ c.fpsRangesTbl, e.lets min max

def asked (c : Capability) (s : Store) (r : Request) : Int × Int :=
  if r.fpsRange = c.getPreviewFpsRange (s.params keyPreviewFpsRange) ∧
      (r.setPreviewFrameRate s.initBatchUpdate).locals.fixedFrameRateSet = true then
    (r.previewFrameRate.toInt * 1000, r.previewFrameRate.toInt * 1000)
  else (r.fpsRange.1.toInt, r.fpsRange.2.toInt)

def entryOf (r : Request) (min max : Int) : FpsRange :=
  if hfrIsOn r.strings.newHfrMode then
    Store.fpsRangeOf min max (hfrFps r.strings.newHfrMode) (hfrFps r.strings.newHfrMode)
  else Store.fpsRangeOf min max min max

/-- A request that stages a range stages a supported one, in the map and in the entry; one that asks for a
range that is not supported is refused. -/
structure Meets (c : Capability) (s : Store) (r : Request) : Prop where
  staged : (r.update c s).2 = noError → ∀ e, (r.update c s).1.fpsRange = some e →
    ∃ min max, 0 < min ∧ Supported c min max ∧ e = entryOf r min max ∧
      Staging.find (r.update c s).1.tempMap keyPreviewFpsRange = some (rangeString min max)
  refused : ¬Supported c (asked c s r).1 (asked c s r).2 → (r.update c s).2 = badValue ∧
    (r.update c s).1.fpsRange = none ∧ Staging.find (r.update c s).1.tempMap keyPreviewFpsRange = none

/-- A fixed rate is not taken for another that is supported; a range that is repeated without any change is
supported; and a range with a minimum above its maximum is not let through. -/
def Fine (c : Capability) (s : Store) (r : Request) : Prop :=
  if r.fpsRange = c.getPreviewFpsRange (s.params keyPreviewFpsRange) ∧
      (r.setPreviewFrameRate s.initBatchUpdate).locals.fixedFrameRateSet = true then
    Supported c (r.previewFrameRate * 1000).toInt (r.previewFrameRate * 1000).toInt →
      Supported c (r.previewFrameRate.toInt * 1000) (r.previewFrameRate.toInt * 1000)
  else if r.fpsRange = c.getPreviewFpsRange (s.params keyPreviewFpsRange) ∧
      s.locals.hfrMode = r.strings.newHfrMode then
    Supported c r.fpsRange.1.toInt r.fpsRange.2.toInt
  else r.fpsRange.1 ≤ r.fpsRange.2 ∨ ∀ e ∈ c.fpsRangesTbl, ¬e.lets r.fpsRange.1.toInt r.fpsRange.2.toInt

variable {c : Capability} {r : Request} {s u : Store} {min max : Int}

def hfrRates (mode : Int) : Int × Int := if hfrIsOn mode then (hfrFps mode, hfrFps mode) else (0, 0)

def HfrSound (l : Locals) : Prop := l.hfrFpsRange = hfrRates l.hfrMode

theorem hfrFps_ge {mode : Int} (h : hfrIsOn mode = true) : 1000 ≤ hfrFps mode := by
  rw [hfrIsOn, Bool.and_eq_true, decide_eq_true_eq, decide_eq_true_eq] at h
  have hcases : mode = 1 ∨ mode = 2 ∨ mode = 3 ∨ mode = 4 := by omega
  rcases hcases with rfl | rfl | rfl | rfl <;> decide

theorem hfrLocals_mode (q : ParamCommit.Request) (l : Locals) : (q.hfrLocals l).hfrMode = q.newHfrMode := by
  rw [ParamCommit.Request.hfrLocals]
  by_cases h : l.hfrMode = q.newHfrMode
  · rw [if_neg (not_not_intro h)]
    split
    · exact h
    · exact h
  · rw [if_pos h]
    split
    · rfl
    · rfl

theorem hfrLocals_fixed (q : ParamCommit.Request) (l : Locals) :
    (q.hfrLocals l).fixedFrameRateSet = l.fixedFrameRateSet := by
  rw [ParamCommit.Request.hfrLocals]
  by_cases h : l.hfrMode = q.newHfrMode
  · rw [if_neg (not_not_intro h)]
    split
    · rfl
    · rfl
  · rw [if_pos h]
    split
    · rfl
    · rfl

theorem hfrLocals_sound (q : ParamCommit.Request) {l : Locals} (hl : HfrSound l) :
    (q.hfrLocals l).hfrFpsRange = hfrRates q.newHfrMode := by
  rw [ParamCommit.Request.hfrLocals]
  by_cases h : l.hfrMode = q.newHfrMode
  · rw [if_neg (not_not_intro h)]
    rw [HfrSound, hfrRates] at hl
    rw [hfrRates, ← h]
    split
    · rename_i hon
      rw [if_pos hon] at hl
      exact hl
    · rfl
  · rw [if_pos h, hfrRates]
    split
    · rfl
    · rfl

theorem frameRate_ne_fpsRange : keyPreviewFpsRange ≠ keyPreviewFrameRate := by decide

theorem hfr_ne_fpsRange : keyPreviewFpsRange ≠ keyQcVideoHighFrameRate := by decide

theorem hsr_ne_fpsRange : keyPreviewFpsRange ≠ keyQcVideoHighSpeedRecording := by decide

structure Keeps (s u : Store) : Prop where
  params : u.params = s.params
  fpsRange : u.fpsRange = s.fpsRange
  text : Staging.find u.tempMap keyPreviewFpsRange = Staging.find s.tempMap keyPreviewFpsRange

theorem Keeps.trans {t : Store} (h : Keeps s t) (h' : Keeps t u) : Keeps s u :=
  ⟨h'.params.trans h.params, h'.fpsRange.trans h.fpsRange, h'.text.trans h.text⟩

theorem updateIfChanged_keeps {key : String} (hkey : keyPreviewFpsRange ≠ key) (str : Option String) (s : Store) :
    Keeps s (s.updateIfChanged key str) ∧ (s.updateIfChanged key str).locals = s.locals := by
  rw [Store.updateIfChanged]
  split
  · exact ⟨⟨rfl, rfl, Staging.find_put_other hkey⟩, rfl⟩
  · exact ⟨⟨rfl, rfl, rfl⟩, rfl⟩

theorem setPreviewFrameRate_keeps (r : Request) (s : Store) :
    Keeps s (r.setPreviewFrameRate s) ∧ (r.setPreviewFrameRate s).locals.hfrMode = s.locals.hfrMode ∧
      (r.setPreviewFrameRate s).locals.hfrFpsRange = s.locals.hfrFpsRange := by
  rw [Request.setPreviewFrameRate]
  split
  · exact ⟨⟨rfl, rfl, Staging.find_put_other frameRate_ne_fpsRange⟩, rfl, rfl⟩
  · exact ⟨⟨rfl, rfl, rfl⟩, rfl, rfl⟩

theorem updateHFRFrameRate_keeps (r : Request) (s : Store) :
    Keeps s (r.updateHFRFrameRate s) ∧ (r.updateHFRFrameRate s).locals = r.strings.hfrLocals s.locals := by
  obtain ⟨hhfr, hlocals⟩ := updateIfChanged_keeps hfr_ne_fpsRange r.hfr s
  obtain ⟨hhsr, hlocals'⟩ :=
    updateIfChanged_keeps hsr_ne_fpsRange r.hsr (s.updateIfChanged keyQcVideoHighFrameRate r.hfr)
  have hkeeps := hhfr.trans hhsr
  rw [Request.updateHFRFrameRate]
  dsimp only
  rw [hlocals', hlocals]
  split
  · exact ⟨⟨hkeeps.params, hkeeps.fpsRange, hkeeps.text⟩, rfl⟩
  · exact ⟨⟨hkeeps.params, hkeeps.fpsRange, hkeeps.text⟩, rfl⟩

structure Ready (r : Request) (u : Store) : Prop where
  fpsRange : u.fpsRange = none
  text : Staging.find u.tempMap keyPreviewFpsRange = none
  hfr : u.locals.hfrFpsRange = hfrRates r.strings.newHfrMode

theorem ready_update (hs : HfrSound s.locals) (r : Request) :
    Ready r (r.updateHFRFrameRate (r.setPreviewFrameRate s.initBatchUpdate)) := by
  obtain ⟨hrate, hmode, hrates⟩ := setPreviewFrameRate_keeps r s.initBatchUpdate
  obtain ⟨hhfr, hlocals⟩ := updateHFRFrameRate_keeps r (r.setPreviewFrameRate s.initBatchUpdate)
  have hkeeps := hrate.trans hhfr
  have hsound : HfrSound (r.setPreviewFrameRate s.initBatchUpdate).locals := by
    rw [HfrSound, hmode, hrates]
    exact hs
  exact ⟨hkeeps.fpsRange, hkeeps.text, by rw [hlocals]; exact hfrLocals_sound _ hsound⟩

theorem Ready.unfix (h : Ready r u) : Ready r { u with locals := { u.locals with fixedFrameRateSet := false } } :=
  ⟨h.fpsRange, h.text, h.hfr⟩

theorem any_lets_iff : (c.fpsRangesTbl.any fun e => e.lets min max) = true ↔ ∃ e ∈ c.fpsRangesTbl, e.lets min max := by
  simp

theorem lookup_lets (hu : Ready r u) (h : ∃ e ∈ c.fpsRangesTbl, e.lets min max) :
    (lookupFpsRange c min max u).2 = noError ∧ (lookupFpsRange c min max u).1.fpsRange = some (entryOf r min max) ∧
      Staging.find (lookupFpsRange c min max u).1.tempMap keyPreviewFpsRange = some (rangeString min max) := by
  rw [lookupFpsRange, if_pos (any_lets_iff.mpr h), hu.hfr, entryOf, hfrRates]
  by_cases hon : hfrIsOn r.strings.newHfrMode = true
  · have hge := hfrFps_ge hon
    rw [if_pos hon, if_pos hon, if_neg (by simp; omega)]
    exact ⟨rfl, rfl, Staging.find_put_same⟩
  · rw [if_neg hon, if_neg hon, if_pos (by simp)]
    exact ⟨rfl, rfl, Staging.find_put_same⟩

theorem lookup_refuses (h : ∀ e ∈ c.fpsRangesTbl, ¬e.lets min max) : lookupFpsRange c min max u = (u, badValue) := by
  rw [lookupFpsRange, if_neg]
  rw [any_lets_iff]
  rintro ⟨e, he, hlets⟩
  exact h e he hlets

theorem lets_pos {e : ValidRange} (h : e.lets min max) : 0 < min := by
  have hpos := e.pos
  have hlow : (0 : ℚ) < min := by linarith [h.1]
  exact_mod_cast hlow

theorem entryOf_inj {min' max' : Int} (h : entryOf r min max = entryOf r min' max') : min = min' ∧ max = max' := by
  have hmin := congrArg FpsRange.minFps h
  have hmax := congrArg FpsRange.maxFps h
  have hrates (a b : Int) : (entryOf r a b).minFps = (a : ℚ) / 1000 ∧ (entryOf r a b).maxFps = (b : ℚ) / 1000 := by
    rw [entryOf]
    split
    · exact ⟨rfl, rfl⟩
    · exact ⟨rfl, rfl⟩
  rw [(hrates _ _).1, (hrates _ _).1, div_left_inj' (by norm_num)] at hmin
  rw [(hrates _ _).2, (hrates _ _).2, div_left_inj' (by norm_num)] at hmax
  exact ⟨by exact_mod_cast hmin, by exact_mod_cast hmax⟩

def searched (r : Request) (s : Store) : Store := r.updateHFRFrameRate (r.setPreviewFrameRate s.initBatchUpdate)

def Repeats (c : Capability) (s : Store) (r : Request) : Prop :=
  r.fpsRange = c.getPreviewFpsRange (s.params keyPreviewFpsRange)

def Fixed (s : Store) (r : Request) : Prop :=
  (r.setPreviewFrameRate s.initBatchUpdate).locals.fixedFrameRateSet = true

theorem fixed_iff (s : Store) (r : Request) : (searched r s).locals.fixedFrameRateSet = true ↔ Fixed s r := by
  rw [searched, (updateHFRFrameRate_keeps r _).2, hfrLocals_fixed]
  exact Iff.rfl

theorem repeats_params (s : Store) (r : Request) :
    (r.setPreviewFrameRate s.initBatchUpdate).params keyPreviewFpsRange = s.params keyPreviewFpsRange :=
  congrFun (setPreviewFrameRate_keeps r s.initBatchUpdate).1.params keyPreviewFpsRange

theorem update_fixed (hr : Repeats c s r) (hf : Fixed s r) :
    r.update c s = lookupFpsRange c (r.previewFrameRate * 1000).toInt (r.previewFrameRate * 1000).toInt
      { searched r s with locals := { (searched r s).locals with fixedFrameRateSet := false } } := by
  rw [Request.update, Request.setPreviewFpsRange, repeats_params]
  exact (if_pos hr).trans (if_pos ((fixed_iff s r).mpr hf))

theorem update_same (hr : Repeats c s r) (hf : ¬Fixed s r) (hm : s.locals.hfrMode = r.strings.newHfrMode) :
    r.update c s = (searched r s, noError) := by
  have hmode : (r.setPreviewFrameRate s.initBatchUpdate).locals.hfrMode = r.strings.newHfrMode :=
    (setPreviewFrameRate_keeps r s.initBatchUpdate).2.1.trans hm
  rw [Request.update, Request.setPreviewFpsRange, repeats_params]
  refine (if_pos hr).trans ((if_neg fun h => hf ((fixed_iff s r).mp h)).trans (if_pos ?_))
  simp [hmode]

theorem update_range (h : ¬(Repeats c s r ∧ (Fixed s r ∨ s.locals.hfrMode = r.strings.newHfrMode))) :
    r.update c s = lookupFpsRange c r.fpsRange.1.toInt r.fpsRange.2.toInt (searched r s) := by
  have hmode : (r.setPreviewFrameRate s.initBatchUpdate).locals.hfrMode = s.locals.hfrMode :=
    (setPreviewFrameRate_keeps r s.initBatchUpdate).2.1
  rw [Request.update, Request.setPreviewFpsRange, repeats_params]
  by_cases hr : Repeats c s r
  · refine (if_pos hr).trans ((if_neg fun hf => ?_).trans (if_neg ?_))
    · exact h ⟨hr, Or.inl ((fixed_iff s r).mp hf)⟩
    · rw [hmode]
      simpa using fun hm => h ⟨hr, Or.inr hm⟩
  · exact if_neg hr

theorem asked_fixed (hr : Repeats c s r) (hf : Fixed s r) :
    asked c s r = (r.previewFrameRate.toInt * 1000, r.previewFrameRate.toInt * 1000) := if_pos ⟨hr, hf⟩

theorem asked_range (h : ¬(Repeats c s r ∧ Fixed s r)) :
    asked c s r = (r.fpsRange.1.toInt, r.fpsRange.2.toInt) := if_neg h

theorem meets_lets (hu : Ready r u) (hupdate : r.update c s = lookupFpsRange c min max u)
    (h : ∃ e ∈ c.fpsRangesTbl, e.lets min max) :
    Meets c s r ↔ min ≤ max ∧ Supported c (asked c s r).1 (asked c s r).2 := by
  obtain ⟨hrc, hentry, htext⟩ := lookup_lets hu h
  rw [← hupdate] at hrc hentry htext
  constructor
  · intro hm
    obtain ⟨min', max', hpos, hsup, he, -⟩ := hm.staged hrc _ hentry
    obtain ⟨rfl, rfl⟩ := entryOf_inj he
    refine ⟨hsup.1, ?_⟩
    by_contra hno
    have hbad := (hm.refused hno).1
    rw [hrc] at hbad
    exact absurd hbad (by decide)
  · rintro ⟨hle, hasked⟩
    refine ⟨fun _ e he => ?_, fun hno => absurd hasked hno⟩
    rw [hentry] at he
    obtain ⟨v, hv, hlets⟩ := h
    exact ⟨min, max, lets_pos hlets, ⟨hle, v, hv, hlets⟩, (Option.some.inj he).symm, htext⟩

theorem meets_refuses (hu : Ready r u) (hupdate : r.update c s = lookupFpsRange c min max u)
    (h : ∀ e ∈ c.fpsRangesTbl, ¬e.lets min max) : Meets c s r := by
  rw [lookup_refuses h] at hupdate
  constructor
  · intro hrc
    rw [hupdate] at hrc
    have hbad : badValue = noError := hrc
    exact absurd hbad (by decide)
  · intro _
    rw [hupdate]
    exact ⟨rfl, hu.fpsRange, hu.text⟩

theorem fine_fixed (hr : Repeats c s r) (hf : Fixed s r) :
    Fine c s r ↔ (Supported c (r.previewFrameRate * 1000).toInt (r.previewFrameRate * 1000).toInt →
      Supported c (r.previewFrameRate.toInt * 1000) (r.previewFrameRate.toInt * 1000)) := by
  rw [Fine, if_pos ⟨hr, hf⟩]

theorem fine_same (hr : Repeats c s r) (hf : ¬Fixed s r) (hm : s.locals.hfrMode = r.strings.newHfrMode) :
    Fine c s r ↔ Supported c r.fpsRange.1.toInt r.fpsRange.2.toInt := by
  rw [Fine, if_neg fun h => hf h.2, if_pos ⟨hr, hm⟩]

theorem fine_range (h : ¬(Repeats c s r ∧ (Fixed s r ∨ s.locals.hfrMode = r.strings.newHfrMode))) :
    Fine c s r ↔ r.fpsRange.1 ≤ r.fpsRange.2 ∨
      ∀ e ∈ c.fpsRangesTbl, ¬e.lets r.fpsRange.1.toInt r.fpsRange.2.toInt := by
  rw [Fine, if_neg fun hf => h ⟨hf.1, Or.inl hf.2⟩, if_neg fun hm => h ⟨hm.1, Or.inr hm.2⟩]

theorem meets_iff_fine (hs : HfrSound s.locals) (c : Capability) (r : Request) : Meets c s r ↔ Fine c s r := by
  have hready := ready_update hs r
  by_cases hr : Repeats c s r
  · by_cases hf : Fixed s r
    · rw [fine_fixed hr hf]
      by_cases hlets : ∃ e ∈ c.fpsRangesTbl,
          e.lets (r.previewFrameRate * 1000).toInt (r.previewFrameRate * 1000).toInt
      · rw [meets_lets hready.unfix (update_fixed hr hf) hlets, asked_fixed hr hf]
        constructor
        · intro h _
          exact h.2
        · intro h
          exact ⟨le_rfl, h ⟨le_rfl, hlets⟩⟩
      · constructor
        · intro _ hsup
          exact absurd hsup.2 hlets
        · intro _
          exact meets_refuses hready.unfix (update_fixed hr hf) fun e he h => hlets ⟨e, he, h⟩
    · by_cases hm : s.locals.hfrMode = r.strings.newHfrMode
      · -- nothing changes, and nothing is searched
        have hupdate := update_same hr hf hm
        rw [fine_same hr hf hm]
        constructor
        · intro h
          by_contra hno
          have hasked := asked_range (c := c) fun hboth => hf hboth.2
          have hbad := (h.refused (by rw [hasked]; exact hno)).1
          rw [hupdate] at hbad
          have hgood : noError = badValue := hbad
          exact absurd hgood (by decide)
        · intro hsup
          constructor
          · intro _ e he
            have hnone : (r.update c s).1.fpsRange = none := by
              rw [hupdate]
              exact hready.fpsRange
            rw [hnone] at he
            cases he
          · intro hno
            rw [asked_range fun hboth => hf hboth.2] at hno
            exact absurd hsup hno
      · exact searched_range fun h => h.2.elim hf hm
  · exact searched_range fun h => hr h.1
where
  searched_range (h : ¬(Repeats c s r ∧ (Fixed s r ∨ s.locals.hfrMode = r.strings.newHfrMode))) :
      Meets c s r ↔ Fine c s r := by
    have hready := ready_update hs r
    have hupdate := update_range h
    rw [fine_range h]
    by_cases hlets : ∃ e ∈ c.fpsRangesTbl, e.lets r.fpsRange.1.toInt r.fpsRange.2.toInt
    · rw [meets_lets hready hupdate hlets, asked_range fun hf => h ⟨hf.1, Or.inl hf.2⟩, Int32.le_iff_toInt_le]
      constructor
      · intro hm
        exact Or.inl hm.1
      · rintro (hle | hno)
        · exact ⟨hle, hle, hlets⟩
        · obtain ⟨e, he, hl⟩ := hlets
          exact absurd hl (hno e he)
    · constructor
      · intro _
        exact Or.inr fun e he hl => hlets ⟨e, he, hl⟩
      · intro _
        exact meets_refuses hready hupdate fun e he hl => hlets ⟨e, he, hl⟩

theorem lookup_locals (c : Capability) (min max : Int) (u : Store) :
    (lookupFpsRange c min max u).1.locals = u.locals := by
  rw [lookupFpsRange]
  split
  · dsimp only
    split
    · rfl
    · rfl
  · rfl

theorem update_sound (hs : HfrSound s.locals) (c : Capability) (r : Request) : HfrSound (r.update c s).1.locals := by
  have hmode : (searched r s).locals.hfrMode = r.strings.newHfrMode := by
    rw [searched, (updateHFRFrameRate_keeps r _).2, hfrLocals_mode]
  have hsound : HfrSound (searched r s).locals := by
    rw [HfrSound, hmode]
    exact (ready_update hs r).hfr
  by_cases h : Repeats c s r ∧ (Fixed s r ∨ s.locals.hfrMode = r.strings.newHfrMode)
  · obtain ⟨hr, hor⟩ := h
    by_cases hf : Fixed s r
    · rw [update_fixed hr hf, lookup_locals]
      exact hsound
    · rw [update_same hr hf (hor.resolve_left hf)]
      exact hsound
  · rw [update_range h, lookup_locals]
    exact hsound

theorem step_sound (hs : HfrSound s.locals) (h : step c s r = some u) : HfrSound u.locals := by
  have hupdate := update_sound hs c r
  obtain rfl := Option.some.inj h
  split
  · exact hupdate
  · exact hupdate

/-- Before the first request no mode is on, and the map and the backend have what they have. -/
def opened (params : String → Option String) (fpsRange : Option FpsRange) (hfr : Option Int) : Store :=
  { params := params, backendFpsRange := fpsRange, backendHfr := hfr }

theorem opened_sound (params : String → Option String) (fpsRange : Option FpsRange) (hfr : Option Int) :
    HfrSound (opened params fpsRange hfr).locals := rfl

/-- In a run of requests each stages a supported range or is refused exactly when each is fine. -/
theorem frame_rates_supported_iff (c : Capability) (params : String → Option String) (fpsRange : Option FpsRange)
    (hfr : Option Int) (rs : List Request) :
    Runs.Along (step c) (Meets c) (opened params fpsRange hfr) rs ↔
      Runs.Along (step c) (Fine c) (opened params fpsRange hfr) rs := by
  constructor
  · exact Runs.Along.of_invariant (fun _ _ _ hs _ hstep => step_sound hs hstep)
      (fun _ r hs hm => (meets_iff_fine hs c r).mp hm) (opened_sound params fpsRange hfr)
  · exact Runs.Along.of_invariant (fun _ _ _ hs _ hstep => step_sound hs hstep)
      (fun _ r hs hf => (meets_iff_fine hs c r).mpr hf) (opened_sound params fpsRange hfr)

def camera : Capability where
  getPreviewFpsRange _ := (15000, 30000)
  fpsRangesTbl := [⟨15, 30, by norm_num, by norm_num⟩]

def inverted : Request := { fpsRange := (30000, 15000) }

/-- The range is let through, since its minimum is not below the table's nor its maximum above. -/
theorem inverted_range_staged :
    ¬Runs.Along (step camera) (Meets camera) (opened (fun _ => none) none none) [inverted] := by
  intro h
  have hfine := (meets_iff_fine (opened_sound (fun _ => none) none none) camera inverted).mp h.head
  have hrange : ¬(Repeats camera (opened (fun _ => none) none none) inverted ∧
      (Fixed (opened (fun _ => none) none none) inverted ∨
        (opened (fun _ => none) none none).locals.hfrMode = inverted.strings.newHfrMode)) := by
    intro hsame
    have hranges : ((30000 : Int32), (15000 : Int32)) = (15000, 30000) := hsame.1
    exact absurd hranges (by decide)
  rcases (fine_range hrange).mp hfine with hle | hno
  · exact absurd hle (by decide)
  · apply hno _ List.mem_cons_self
    have hmin : (30000 : Int32).toInt = 30000 := by decide
    have hmax : (15000 : Int32).toInt = 15000 := by decide
    constructor
    · norm_num [inverted, hmin]
    · norm_num [inverted, hmax]

end Wt88047.FrameRates
