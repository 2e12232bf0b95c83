import Wt88047.QCamera.FrameRates

/-! Frame rates under a thermal level: what `calcThermalLevel` makes of the configured range, and what of it
is sent to the backend or staged. Rates are exact. -/

namespace Wt88047.ThermalRates

open ParamCommit (hfrIsOn hfrFps)
open FrameRates (FpsRange hfrRates hfrFps_ge noError badValue)
open FrameRates.Store (fpsRangeOf)

abbrev noAdjustment : Int := 0

abbrev slightAdjustment : Int := 1

abbrev bigAdjustment : Int := 2

abbrev maxAdjustment : Int := 3

abbrev shutdown : Int := 10

inductive ThermalMode
  | adjustFps
  | adjustFrameskip
  deriving DecidableEq

/-- `msm_vfe_frame_skip_pattern` -/
inductive SkipPattern
  | noSkip
  | every2Frame
  | every4Frame
  | maxSkip
  deriving DecidableEq

structure Range where
  minFps : Int
  maxFps : Int
  one : 1000 ≤ minFps
  le : minFps ≤ maxFps

structure Config where
  range : Range
  hfrMode : Int
  recordingHint : Bool
  thermalMode : ThermalMode
  cameraOpened : Bool

/-- What `calcThermalLevel` writes through its references, if it was set at all, and whether it notified an
error. -/
structure Target where
  range : Option FpsRange := none
  skipPattern : Option SkipPattern := none
  errorNotified : Bool := false

def videoFps (c : Config) (minFps maxFps : Int) : Int × Int :=
  if hfrIsOn c.hfrMode then hfrRates c.hfrMode else (minFps, maxFps)

def full (c : Config) (minFps maxFps : Int) : FpsRange :=
  let video := videoFps c minFps maxFps
  fpsRangeOf minFps maxFps video.1 video.2

def atLeastOne (rate : ℚ) : ℚ := if rate < 1 then 1 else rate

def slowed (n : ℚ) (c : Config) (minFps maxFps : Int) : FpsRange :=
  let video := videoFps c minFps maxFps
  { minFps := atLeastOne (minFps / n / 1000)
    maxFps := atLeastOne (maxFps / n / 1000)
    videoMinFps := atLeastOne (video.1 / n / 1000)
    videoMaxFps := atLeastOne (video.2 / n / 1000) }

def lowestFps (tbl : List FpsRange) (rate : ℚ) : ℚ :=
  tbl.foldl (fun lowest e => if e.minFps < lowest then e.minFps else lowest) rate

def lowest (tbl : List FpsRange) (minFps : Int) : FpsRange :=
  let rate := lowestFps tbl (minFps / 1000)
  { minFps := rate, maxFps := rate, videoMinFps := rate, videoMaxFps := rate }

def adjusted (tbl : List FpsRange) (c : Config) (level minFps maxFps : Int) : Option (FpsRange × SkipPattern) :=
  if level = noAdjustment then some (full c minFps maxFps, .noSkip)
  else if level = slightAdjustment then some (slowed 2 c minFps maxFps, .every2Frame)
  else if level = bigAdjustment then some (slowed 4 c minFps maxFps, .every4Frame)
  else if level = maxAdjustment then some (lowest tbl minFps, .maxSkip)
  else none

def calcThermalLevel (tbl : List FpsRange) (c : Config) (level minFps maxFps : Int) (t : Target) : Int × Target :=
  match adjusted tbl c level minFps maxFps with
  | some (range, skip) =>
    if c.recordingHint then
      (noError, { t with range := some (full c minFps maxFps), skipPattern := some .noSkip })
    else (noError, { t with range := some range, skipPattern := some skip })
  | none => if level = shutdown then (noError, { t with errorNotified := true }) else (badValue, t)

/-- A range that is handed on, with the configuration it is for; it is `none` when it was not set. -/
structure Handed where
  config : Config
  range : Option FpsRange

/-- The parameters, `mThermalLevel`, and what the last event handed to the backend or staged. -/
structure World where
  config : Config
  thermalLevel : Int := noAdjustment
  handed : Option Handed := none
  frameSkip : Option (Option SkipPattern) := none

/-- `recalcFPSRange`, which does not look at the return code. -/
def recalcFPSRange (tbl : List FpsRange) (w : World) (minFps maxFps : Int) (range : FpsRange) : Option FpsRange :=
  (calcThermalLevel tbl w.config w.thermalLevel minFps maxFps { range := some range }).2.range

/-- The part of `setPreviewFpsRange` of four rates that adjusts the range it stages, which it does for an open
camera and in one mode. -/
def stageFpsRange (tbl : List FpsRange) (r : Range) (w : World) : World :=
  if w.config.cameraOpened ∧ w.config.thermalMode = .adjustFps then
    let range := recalcFPSRange tbl w r.minFps r.maxFps (full w.config r.minFps r.maxFps)
    { w with handed := some ⟨{ w.config with range := r }, range⟩ }
  else w

def updateThermalLevel (tbl : List FpsRange) (level : Int) (w : World) : World :=
  if w.config.cameraOpened then
    let t := (calcThermalLevel tbl w.config level w.config.range.minFps w.config.range.maxFps {}).2
    let w := { w with thermalLevel := level }
    match w.config.thermalMode with
    | .adjustFps => { w with handed := some ⟨w.config, t.range⟩ }
    | .adjustFrameskip => { w with frameSkip := some t.skipPattern }
  else w

/-- `configure` is what other requests make of the parameters. -/
inductive Event
  | configure (c : Config)
  | setPreviewFpsRange (r : Range)
  | thermal (level : Int)

def apply (tbl : List FpsRange) (w : World) : Event → World
  | .configure c => { w with config := c, handed := none }
  | .setPreviewFpsRange r => stageFpsRange tbl r { w with handed := none }
  | .thermal level => updateThermalLevel tbl level { w with handed := none }

def step (tbl : List FpsRange) (w : World) (e : Event) : Option World := some (apply tbl w e)

def Config.video (c : Config) : Int × Int := videoFps c c.range.minFps c.range.maxFps

/-- The rates are positive, in order, and no higher than configured. -/
structure Within (c : Config) (r : FpsRange) : Prop where
  pos : 0 < r.minFps
  le : r.minFps ≤ r.maxFps
  max : r.maxFps ≤ c.range.maxFps / 1000
  videoPos : 0 < r.videoMinFps
  videoLe : r.videoMinFps ≤ r.videoMaxFps
  videoMax : r.videoMaxFps ≤ c.video.2 / 1000

structure Below (r s : FpsRange) : Prop where
  minFps : r.minFps ≤ s.minFps
  maxFps : r.maxFps ≤ s.maxFps
  videoMinFps : r.videoMinFps ≤ s.videoMinFps
  videoMaxFps : r.videoMaxFps ≤ s.videoMaxFps

def rangeAt (tbl : List FpsRange) (c : Config) (level : Int) : Option FpsRange :=
  (calcThermalLevel tbl c level c.range.minFps c.range.maxFps {}).2.range

def Graded (tbl : List FpsRange) (c : Config) : Prop :=
  ∀ l m r s, l ≤ m → rangeAt tbl c l = some r → rangeAt tbl c m = some s → Below s r

structure Handed.Good (tbl : List FpsRange) (h : Handed) : Prop where
  set : ∃ r, h.range = some r ∧ Within h.config r
  graded : Graded tbl h.config

def Meets (tbl : List FpsRange) (w : World) (e : Event) : Prop := ∀ h ∈ (apply tbl w e).handed, h.Good tbl

def Config.lowest (tbl : List FpsRange) (c : Config) : ℚ := lowestFps tbl (c.range.minFps / 1000)

/-- While nothing is recorded, that rate is no higher than a quarter of the preview's and the video's minimum, or
than one where these are lower. -/
def LowEnough (tbl : List FpsRange) (c : Config) : Prop :=
  c.recordingHint = true ∨ (c.lowest tbl ≤ atLeastOne (c.range.minFps / 4 / 1000) ∧
    c.lowest tbl ≤ atLeastOne (c.video.1 / 4 / 1000))

def LevelFits (tbl : List FpsRange) (c : Config) (level : Int) : Prop :=
  level = maxAdjustment → c.recordingHint = false → 0 < c.lowest tbl ∧ c.lowest tbl ≤ c.video.2 / 1000

def Fine (tbl : List FpsRange) (w : World) : Event → Prop
  | .configure _ => True
  | .setPreviewFpsRange r =>
    w.config.cameraOpened = true → w.config.thermalMode = .adjustFps →
      LowEnough tbl { w.config with range := r } ∧ LevelFits tbl { w.config with range := r } w.thermalLevel
  | .thermal level =>
    w.config.cameraOpened = true → w.config.thermalMode = .adjustFps →
      LowEnough tbl w.config ∧ LevelFits tbl w.config level ∧ noAdjustment ≤ level ∧ level ≤ maxAdjustment

variable {tbl : List FpsRange} {c : Config} {w : World} {level : Int} {a b n : ℚ}

theorem one_le_atLeastOne (a : ℚ) : 1 ≤ atLeastOne a := by
  rw [atLeastOne]
  split
  · exact le_refl 1
  · linarith

theorem atLeastOne_le (hone : 1 ≤ b) (h : a ≤ b) : atLeastOne a ≤ b := by
  rw [atLeastOne]
  split
  · exact hone
  · exact h

theorem le_atLeastOne (a : ℚ) : a ≤ atLeastOne a := by
  rw [atLeastOne]
  split
  · linarith
  · exact le_refl a

theorem atLeastOne_mono (h : a ≤ b) : atLeastOne a ≤ atLeastOne b :=
  atLeastOne_le (one_le_atLeastOne b) (h.trans (le_atLeastOne b))

theorem lowestFps_le (tbl : List FpsRange) (a : ℚ) : lowestFps tbl a ≤ a := by
  induction tbl generalizing a with
  | nil => exact le_refl a
  | cons e tbl ih =>
    rw [lowestFps, List.foldl_cons]
    split
    · rename_i hlt
      exact (ih e.minFps).trans hlt.le
    · exact ih a

theorem video_valid (c : Config) : 1000 ≤ c.video.1 ∧ c.video.1 ≤ c.video.2 := by
  rw [Config.video, videoFps]
  split
  · rename_i hon
    rw [hfrRates, if_pos hon]
    exact ⟨hfrFps_ge hon, le_refl _⟩
  · exact ⟨c.range.one, c.range.le⟩

theorem slowed_le {rate bound : Int} (hn : 1 ≤ n) (hone : 1000 ≤ bound) (h : rate ≤ bound) (hrate : 0 ≤ rate) :
    atLeastOne (rate / n / 1000) ≤ (bound : ℚ) / 1000 := by
  have hbound : (1000 : ℚ) ≤ bound := by exact_mod_cast hone
  have hle : (rate : ℚ) ≤ bound := by exact_mod_cast h
  have hpos : (0 : ℚ) ≤ rate := by exact_mod_cast hrate
  have hdiv : (rate : ℚ) / n ≤ rate := div_le_self hpos hn
  apply atLeastOne_le
  · linarith
  · linarith

theorem Below.refl (r : FpsRange) : Below r r := ⟨le_refl _, le_refl _, le_refl _, le_refl _⟩

theorem Below.trans {r s t : FpsRange} (h : Below r s) (h' : Below s t) : Below r t :=
  ⟨h.minFps.trans h'.minFps, h.maxFps.trans h'.maxFps, h.videoMinFps.trans h'.videoMinFps,
    h.videoMaxFps.trans h'.videoMaxFps⟩

def Config.full (c : Config) : FpsRange := ThermalRates.full c c.range.minFps c.range.maxFps

def Config.slowed (n : ℚ) (c : Config) : FpsRange := ThermalRates.slowed n c c.range.minFps c.range.maxFps

theorem full_eq (c : Config) : c.full = fpsRangeOf c.range.minFps c.range.maxFps c.video.1 c.video.2 := rfl

theorem slowed_eq (n : ℚ) (c : Config) :
    c.slowed n =
      { minFps := atLeastOne (c.range.minFps / n / 1000)
        maxFps := atLeastOne (c.range.maxFps / n / 1000)
        videoMinFps := atLeastOne (c.video.1 / n / 1000)
        videoMaxFps := atLeastOne (c.video.2 / n / 1000) } := rfl

theorem within_full (c : Config) : Within c c.full := by
  obtain ⟨hvideo, hvideoLe⟩ := video_valid c
  have hmin : (1000 : ℚ) ≤ c.range.minFps := by exact_mod_cast c.range.one
  have hle : (c.range.minFps : ℚ) ≤ c.range.maxFps := by exact_mod_cast c.range.le
  have hvmin : (1000 : ℚ) ≤ c.video.1 := by exact_mod_cast hvideo
  have hvle : (c.video.1 : ℚ) ≤ c.video.2 := by exact_mod_cast hvideoLe
  rw [full_eq]
  exact
    { pos := div_pos (by linarith) (by norm_num)
      le := div_le_div_of_nonneg_right hle (by norm_num)
      max := le_refl _
      videoPos := div_pos (by linarith) (by norm_num)
      videoLe := div_le_div_of_nonneg_right hvle (by norm_num)
      videoMax := le_refl _ }

theorem within_slowed (hn : 1 ≤ n) (c : Config) : Within c (c.slowed n) := by
  obtain ⟨hvideo, hvideoLe⟩ := video_valid c
  have hone := c.range.one
  have hrange := c.range.le
  have hle : (c.range.minFps : ℚ) ≤ c.range.maxFps := by exact_mod_cast c.range.le
  have hvle : (c.video.1 : ℚ) ≤ c.video.2 := by exact_mod_cast hvideoLe
  have hpos : (0 : ℚ) < n := by linarith
  rw [slowed_eq]
  exact
    { pos := lt_of_lt_of_le one_pos (one_le_atLeastOne _)
      le := atLeastOne_mono (div_le_div_of_nonneg_right (div_le_div_of_nonneg_right hle hpos.le) (by norm_num))
      max := slowed_le hn (by omega) (le_refl _) (by omega)
      videoPos := lt_of_lt_of_le one_pos (one_le_atLeastOne _)
      videoLe := atLeastOne_mono (div_le_div_of_nonneg_right (div_le_div_of_nonneg_right hvle hpos.le) (by norm_num))
      videoMax := slowed_le hn (by omega) (le_refl _) (by omega) }

theorem within_lowest (tbl : List FpsRange) (c : Config) :
    Within c (lowest tbl c.range.minFps) ↔ 0 < c.lowest tbl ∧ c.lowest tbl ≤ c.video.2 / 1000 := by
  constructor
  · intro h
    exact ⟨h.pos, h.videoMax⟩
  · rintro ⟨hpos, hvideo⟩
    have hle : (c.range.minFps : ℚ) ≤ c.range.maxFps := by exact_mod_cast c.range.le
    have hlow : c.lowest tbl ≤ c.range.minFps / 1000 := lowestFps_le tbl _
    exact
      { pos := hpos
        le := le_refl _
        max := hlow.trans (div_le_div_of_nonneg_right hle (by norm_num))
        videoPos := hpos
        videoLe := le_refl _
        videoMax := hvideo }

theorem below_slowed_full (hn : 1 ≤ n) (c : Config) : Below (c.slowed n) c.full := by
  obtain ⟨hvideo, hvideoLe⟩ := video_valid c
  have hone := c.range.one
  have hrange := c.range.le
  rw [slowed_eq, full_eq]
  exact
    { minFps := slowed_le hn hone (le_refl _) (by omega)
      maxFps := slowed_le hn (by omega) (le_refl _) (by omega)
      videoMinFps := slowed_le hn hvideo (le_refl _) (by omega)
      videoMaxFps := slowed_le hn (by omega) (le_refl _) (by omega) }

theorem quarter_le_half {rate : Int} (h : 0 ≤ rate) : (rate : ℚ) / 4 / 1000 ≤ rate / 2 / 1000 := by
  have hpos : (0 : ℚ) ≤ rate := by exact_mod_cast h
  linarith

theorem below_quarter_half (c : Config) : Below (c.slowed 4) (c.slowed 2) := by
  obtain ⟨hvideo, hvideoLe⟩ := video_valid c
  have hone := c.range.one
  have hrange := c.range.le
  rw [slowed_eq, slowed_eq]
  exact
    { minFps := atLeastOne_mono (quarter_le_half (by omega))
      maxFps := atLeastOne_mono (quarter_le_half (by omega))
      videoMinFps := atLeastOne_mono (quarter_le_half (by omega))
      videoMaxFps := atLeastOne_mono (quarter_le_half (by omega)) }

theorem below_lowest_quarter (tbl : List FpsRange) (c : Config) :
    Below (lowest tbl c.range.minFps) (c.slowed 4) ↔
      c.lowest tbl ≤ atLeastOne (c.range.minFps / 4 / 1000) ∧ c.lowest tbl ≤ atLeastOne (c.video.1 / 4 / 1000) := by
  have hquarter := within_slowed (n := 4) (by norm_num) c
  constructor
  · intro h
    exact ⟨h.minFps, h.videoMinFps⟩
  · rintro ⟨hmin, hvideo⟩
    exact
      { minFps := hmin
        maxFps := hmin.trans hquarter.le
        videoMinFps := hvideo
        videoMaxFps := hvideo.trans hquarter.videoLe }

def Adjusts (level : Int) : Prop := noAdjustment ≤ level ∧ level ≤ maxAdjustment

def levelRange (tbl : List FpsRange) (c : Config) (level : Int) : FpsRange :=
  if level = noAdjustment then c.full
  else if level = slightAdjustment then c.slowed 2
  else if level = bigAdjustment then c.slowed 4
  else lowest tbl c.range.minFps

theorem adjusted_some (tbl : List FpsRange) (c : Config) (h : Adjusts level) : ∃ skip,
    adjusted tbl c level c.range.minFps c.range.maxFps = some (levelRange tbl c level, skip) := by
  have hcases : level = 0 ∨ level = 1 ∨ level = 2 ∨ level = 3 := by
    obtain ⟨hlow, hhigh⟩ := h
    rw [noAdjustment] at hlow
    rw [maxAdjustment] at hhigh
    omega
  rcases hcases with rfl | rfl | rfl | rfl
  · exact ⟨_, rfl⟩
  · exact ⟨_, rfl⟩
  · exact ⟨_, rfl⟩
  · exact ⟨_, rfl⟩

theorem adjusted_none (h : ¬Adjusts level) (minFps maxFps : Int) : adjusted tbl c level minFps maxFps = none := by
  have hne (k : Int) (hk : Adjusts k) : level ≠ k := fun heq => h (heq ▸ hk)
  rw [adjusted, if_neg (hne _ ⟨by decide, by decide⟩), if_neg (hne _ ⟨by decide, by decide⟩),
    if_neg (hne _ ⟨by decide, by decide⟩), if_neg (hne _ ⟨by decide, by decide⟩)]

theorem calc_adjusts (h : Adjusts level) (t : Target) :
    (calcThermalLevel tbl c level c.range.minFps c.range.maxFps t).2.range =
      some (if c.recordingHint then c.full else levelRange tbl c level) := by
  obtain ⟨skip, hadjusted⟩ := adjusted_some tbl c h
  rw [calcThermalLevel, hadjusted]
  dsimp only
  split
  · rfl
  · rfl

theorem calc_keeps (h : ¬Adjusts level) (minFps maxFps : Int) (t : Target) :
    (calcThermalLevel tbl c level minFps maxFps t).2.range = t.range := by
  rw [calcThermalLevel, adjusted_none h]
  dsimp only
  split
  · rfl
  · rfl

theorem rangeAt_adjusts (h : Adjusts level) :
    rangeAt tbl c level = some (if c.recordingHint then c.full else levelRange tbl c level) := calc_adjusts h {}

theorem rangeAt_none (h : ¬Adjusts level) : rangeAt tbl c level = none := calc_keeps h _ _ {}

theorem within_level_iff (h : Adjusts level) :
    Within c (if c.recordingHint then c.full else levelRange tbl c level) ↔ LevelFits tbl c level := by
  by_cases hhint : c.recordingHint = true
  · rw [if_pos hhint]
    constructor
    · intro _ _ hno
      rw [hhint] at hno
      cases hno
    · intro _
      exact within_full c
  · have hno : c.recordingHint = false := Bool.eq_false_iff.mpr hhint
    rw [if_neg hhint]
    by_cases hmax : level = maxAdjustment
    · subst hmax
      have hrange : levelRange tbl c maxAdjustment = lowest tbl c.range.minFps := rfl
      rw [hrange, within_lowest]
      exact ⟨fun hw _ _ => hw, fun hfits => hfits rfl hno⟩
    · constructor
      · intro _ heq
        exact absurd heq hmax
      · intro _
        rw [levelRange]
        split
        · exact within_full c
        · split
          · exact within_slowed (by norm_num) c
          · split
            · exact within_slowed (by norm_num) c
            · rename_i hzero hone htwo
              obtain ⟨hlow, hhigh⟩ := h
              rw [noAdjustment] at hlow hzero
              rw [slightAdjustment] at hone
              rw [bigAdjustment] at htwo
              rw [maxAdjustment] at hhigh hmax
              omega

theorem below_levels (h : Below (lowest tbl c.range.minFps) (c.slowed 4)) {l m : Int} (hl : Adjusts l)
    (hm : Adjusts m) (hle : l ≤ m) : Below (levelRange tbl c m) (levelRange tbl c l) := by
  have hzero : levelRange tbl c 0 = c.full := rfl
  have hone : levelRange tbl c 1 = c.slowed 2 := rfl
  have htwo : levelRange tbl c 2 = c.slowed 4 := rfl
  have hthree : levelRange tbl c 3 = lowest tbl c.range.minFps := rfl
  have hfirst : Below (levelRange tbl c 1) (levelRange tbl c 0) := by
    rw [hone, hzero]
    exact below_slowed_full (by norm_num) c
  have hsecond : Below (levelRange tbl c 2) (levelRange tbl c 1) := by
    rw [htwo, hone]
    exact below_quarter_half c
  have hthird : Below (levelRange tbl c 3) (levelRange tbl c 2) := by
    rw [hthree, htwo]
    exact h
  -- one step after the other, up to the level
  have hfrom (k : Nat) (hk : l + k ≤ 3) : Below (levelRange tbl c (l + k)) (levelRange tbl c l) := by
    induction k with
    | zero =>
      rw [Int.natCast_zero, Int.add_zero]
      exact Below.refl _
    | succ k ih =>
      have hstep : Below (levelRange tbl c (l + k + 1)) (levelRange tbl c (l + k)) := by
        have hlow := hl.1
        rw [noAdjustment] at hlow
        have hcases : l + k = 0 ∨ l + k = 1 ∨ l + k = 2 := by omega
        rcases hcases with hk | hk | hk
        · rw [hk]
          exact hfirst
        · rw [hk]
          exact hsecond
        · rw [hk]
          exact hthird
      have hsucc : l + ((k + 1 : Nat) : Int) = l + k + 1 := by omega
      rw [hsucc]
      exact hstep.trans (ih (by omega))
  have hhigh := hm.2
  rw [maxAdjustment] at hhigh
  have hreach := hfrom (m - l).toNat (by omega)
  have hm' : l + ((m - l).toNat : Int) = m := by omega
  rw [hm'] at hreach
  exact hreach

theorem graded_iff (tbl : List FpsRange) (c : Config) : Graded tbl c ↔ LowEnough tbl c := by
  by_cases hhint : c.recordingHint = true
  · constructor
    · intro _
      exact Or.inl hhint
    · intro _ l m r s _ hr hs
      have hall {k : Int} {q : FpsRange} (hk : rangeAt tbl c k = some q) : q = c.full := by
        by_cases hadj : Adjusts k
        · rw [rangeAt_adjusts hadj, if_pos hhint] at hk
          exact (Option.some.inj hk).symm
        · rw [rangeAt_none hadj] at hk
          cases hk
      rw [hall hr, hall hs]
      exact Below.refl _
  · have hlevel {k : Int} (hk : Adjusts k) : rangeAt tbl c k = some (levelRange tbl c k) := by
      rw [rangeAt_adjusts hk, if_neg hhint]
    have hlow : LowEnough tbl c ↔ Below (lowest tbl c.range.minFps) (c.slowed 4) := by
      rw [below_lowest_quarter]
      exact ⟨fun h => h.resolve_left hhint, Or.inr⟩
    rw [hlow]
    constructor
    · intro h
      exact h bigAdjustment maxAdjustment _ _ (by decide) (hlevel ⟨by decide, by decide⟩)
        (hlevel ⟨by decide, by decide⟩)
    · intro h l m r s hle hr hs
      have hadjusts {k : Int} {q : FpsRange} (hk : rangeAt tbl c k = some q) : Adjusts k := by
        by_contra hno
        rw [rangeAt_none hno] at hk
        cases hk
      have hl := hadjusts hr
      have hm := hadjusts hs
      rw [hlevel hl] at hr
      rw [hlevel hm] at hs
      rw [← Option.some.inj hr, ← Option.some.inj hs]
      exact below_levels h hl hm hle

def World.Adjusting (w : World) : Prop := w.config.cameraOpened = true ∧ w.config.thermalMode = .adjustFps

theorem staged_good_iff (tbl : List FpsRange) (c : Config) (level : Int) :
    Handed.Good tbl ⟨c, (calcThermalLevel tbl c level c.range.minFps c.range.maxFps { range := some c.full }).2.range⟩ ↔
      LowEnough tbl c ∧ LevelFits tbl c level := by
  by_cases hadj : Adjusts level
  · rw [calc_adjusts hadj]
    constructor
    · rintro ⟨⟨r, hr, hwithin⟩, hgraded⟩
      rw [← Option.some.inj hr] at hwithin
      exact ⟨(graded_iff tbl c).mp hgraded, (within_level_iff hadj).mp hwithin⟩
    · rintro ⟨hlow, hfits⟩
      exact ⟨⟨_, rfl, (within_level_iff hadj).mpr hfits⟩, (graded_iff tbl c).mpr hlow⟩
  · rw [calc_keeps hadj]
    constructor
    · rintro ⟨-, hgraded⟩
      refine ⟨(graded_iff tbl c).mp hgraded, fun hmax => ?_⟩
      exact absurd ⟨by rw [hmax]; decide, by rw [hmax]⟩ hadj
    · rintro ⟨hlow, -⟩
      exact ⟨⟨_, rfl, within_full c⟩, (graded_iff tbl c).mpr hlow⟩

theorem sent_good_iff (tbl : List FpsRange) (c : Config) (level : Int) :
    Handed.Good tbl ⟨c, rangeAt tbl c level⟩ ↔
      LowEnough tbl c ∧ LevelFits tbl c level ∧ noAdjustment ≤ level ∧ level ≤ maxAdjustment := by
  by_cases hadj : Adjusts level
  · rw [rangeAt_adjusts hadj]
    constructor
    · rintro ⟨⟨r, hr, hwithin⟩, hgraded⟩
      rw [← Option.some.inj hr] at hwithin
      exact ⟨(graded_iff tbl c).mp hgraded, (within_level_iff hadj).mp hwithin, hadj⟩
    · rintro ⟨hlow, hfits, -⟩
      exact ⟨⟨_, rfl, (within_level_iff hadj).mpr hfits⟩, (graded_iff tbl c).mpr hlow⟩
  · rw [rangeAt_none hadj]
    constructor
    · rintro ⟨⟨r, hr, -⟩, -⟩
      cases hr
    · rintro ⟨-, -, hlevel⟩
      exact absurd hlevel hadj

theorem handed_staged (h : w.Adjusting) (r : Range) :
    (apply tbl w (.setPreviewFpsRange r)).handed = some ⟨{ w.config with range := r },
      (calcThermalLevel tbl { w.config with range := r } w.thermalLevel r.minFps r.maxFps
        { range := some ({ w.config with range := r } : Config).full }).2.range⟩ := by
  rw [apply, stageFpsRange]
  dsimp only
  rw [if_pos ⟨h.1, h.2⟩]
  rfl

theorem handed_not_staged (h : ¬w.Adjusting) (r : Range) : (apply tbl w (.setPreviewFpsRange r)).handed = none := by
  rw [apply, stageFpsRange]
  dsimp only
  rw [if_neg fun hboth => h ⟨hboth.1, hboth.2⟩]

theorem handed_thermal (h : w.Adjusting) (level : Int) :
    (apply tbl w (.thermal level)).handed = some ⟨w.config, rangeAt tbl w.config level⟩ := by
  rw [apply, updateThermalLevel, if_pos h.1]
  dsimp only
  rw [h.2]
  rfl

theorem handed_not_thermal (h : ¬w.Adjusting) (level : Int) : (apply tbl w (.thermal level)).handed = none := by
  rw [apply, updateThermalLevel]
  split
  · rename_i hopen
    dsimp only
    split
    · rename_i hmode
      exact absurd ⟨hopen, hmode⟩ h
    · rfl
  · rfl

theorem meets_handed_iff {e : Event} {h : Handed} (hsome : (apply tbl w e).handed = some h) :
    Meets tbl w e ↔ h.Good tbl := by
  rw [Meets, hsome]
  constructor
  · intro hgood
    exact hgood h rfl
  · rintro hgood x hx
    obtain rfl := Option.some.inj hx
    exact hgood

theorem meets_none {e : Event} (hnone : (apply tbl w e).handed = none) : Meets tbl w e := by
  rw [Meets, hnone]
  intro x hx
  cases hx

theorem meets_iff_fine (tbl : List FpsRange) (w : World) (e : Event) : Meets tbl w e ↔ Fine tbl w e := by
  cases e with
  | configure c => exact iff_of_true (meets_none rfl) trivial
  | setPreviewFpsRange r =>
    by_cases hadj : w.Adjusting
    · rw [meets_handed_iff (handed_staged hadj r), staged_good_iff, Fine]
      exact ⟨fun h _ _ => h, fun h => h hadj.1 hadj.2⟩
    · exact iff_of_true (meets_none (handed_not_staged hadj r)) fun hopen hmode => absurd ⟨hopen, hmode⟩ hadj
  | thermal level =>
    by_cases hadj : w.Adjusting
    · rw [meets_handed_iff (handed_thermal hadj level), sent_good_iff, Fine]
      exact ⟨fun h _ _ => h, fun h => h hadj.1 hadj.2⟩
    · exact iff_of_true (meets_none (handed_not_thermal hadj level)) fun hopen hmode => absurd ⟨hopen, hmode⟩ hadj

/-- In a run of events all that is handed on is as it should be exactly when each event is fine. -/
theorem thermal_rates_bounded_iff (tbl : List FpsRange) (c : Config) (es : List Event) :
    Runs.Along (step tbl) (Meets tbl) { config := c } es ↔ Runs.Along (step tbl) (Fine tbl) { config := c } es :=
  ⟨Runs.Along.imp fun w e => (meets_iff_fine tbl w e).mp, Runs.Along.imp fun w e => (meets_iff_fine tbl w e).mpr⟩

def previewing : Config where
  range := ⟨15000, 30000, by decide, by decide⟩
  hfrMode := 0
  recordingHint := false
  thermalMode := .adjustFps
  cameraOpened := true

/-- At the shutdown level a range is sent that was never set. -/
theorem shutdown_range_not_set : ¬Runs.Along (step []) (Meets []) { config := previewing } [.thermal shutdown] := by
  intro h
  have hhanded : (apply [] { config := previewing } (.thermal shutdown)).handed = some ⟨previewing, none⟩ := rfl
  obtain ⟨r, hr, -⟩ := (h.head ⟨previewing, none⟩ hhanded).set
  cases hr

end Wt88047.ThermalRates
