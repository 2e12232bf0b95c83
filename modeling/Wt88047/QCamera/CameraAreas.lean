import Mathlib.Data.List.Forall2
import Wt88047.QCamera.SizesList

/-! The text of focus and metering areas: what is read of it, and what should be. -/

namespace Wt88047.CameraAreas

open Decimal (number strtol)
open SizesList (Text Long InRange noError badValue)

/-- `cam_area_t` with its rectangle. -/
structure Area where
  left : Int32
  top : Int32
  width : Int32
  height : Int32
  weight : Int32
  deriving DecidableEq

def readFields (long : Long) (delim : Char) : Nat → Text → Except Int (List Int32)
  | 0, _ => .ok []
  | n + 1, start =>
    let r := strtol long.max start
    if r.2.head? ≠ some delim ∧ 0 < n then .error (-1)
    else (readFields long delim n r.2.tail).map (Int32.ofInt r.1 :: ·)

def parseNDimVector (long : Long) (str : Text) (n : Nat) (delim : Char) : Except Int (List Int32) :=
  if str.head? ≠ some '(' ∨ str.getLast? ≠ some ')' then .error badValue
  else readFields long delim n str.tail

def areaOf (values : List Int32) : Area :=
  { left := values.getD 0 0
    top := values.getD 1 0
    width := values.getD 2 0 - values.getD 0 0
    height := values.getD 3 0 - values.getD 1 0
    weight := values.getD 4 0 }

/-- What `parseCameraAreaString` gives: its return code, `pAreas` as far as they are stored and
`num_areas_found`, and the highest index of each copy into `area_str` and each index of `pAreas` that it
wrote to. -/
structure Parsed where
  rc : Int := noError
  areas : List Area := []
  numAreasFound : Nat := 0
  copied : List Nat := []
  stored : List Nat := []

/-- `area_str` is copied with a NUL, and what was written beyond it is there to be read. -/
def Parsed.copy (areaStr : Text) (p : Parsed) : Parsed := { p with copied := p.copied ++ [areaStr.length] }

def Parsed.store (values : List Int32) (p : Parsed) : Parsed :=
  { p with areas := p.areas ++ [areaOf values], stored := p.stored ++ [p.areas.length] }

def Parsed.fail (p : Parsed) : Parsed := { p with rc := badValue }

def nextArea (start : Text) : Option (Text × Text) :=
  if start.head? ≠ some '(' then none
  else
    match start.dropWhile (· ≠ ')') with
    | [] => none
    | _ :: rest => some (start.takeWhile (· ≠ ')') ++ [')'], rest)

theorem nextArea_length {start areaStr rest : Text} (h : nextArea start = some (areaStr, rest)) :
    rest.length < start.length := by
  rw [nextArea] at h
  split at h
  · cases h
  · have hle := (List.dropWhile_suffix (fun c : Char => decide (c ≠ ')')) (l := start)).length_le
    split at h
    · cases h
    · rename_i heq
      cases h
      rw [heq, List.length_cons] at hle
      omega

theorem dropWhile_length_le (s : Text) : (s.dropWhile (· ≠ '(')).length ≤ s.length :=
  (List.dropWhile_suffix _).length_le

def parseLoop (long : Long) (maxNumAreas : Nat) (start : Text) (p : Parsed) : Parsed :=
  match _h : nextArea start with
  | none => p.fail
  | some (areaStr, rest) =>
    let p := p.copy areaStr
    match parseNDimVector long areaStr 5 ',' with
    | .error _ => p.fail
    | .ok values =>
      if maxNumAreas ≤ p.areas.length then p.fail
      else
        let p := p.store values
        -- `strchr(end, '(')`
        if rest.dropWhile (· ≠ '(') = [] then { p with numAreasFound := p.areas.length }
        else parseLoop long maxNumAreas (rest.dropWhile (· ≠ '(')) p
termination_by start.length
decreasing_by
  have hlt := nextArea_length _h
  have hle := dropWhile_length_le rest
  omega

def parseCameraAreaString (long : Long) (str : Text) (maxNumAreas : Nat) : Parsed :=
  parseLoop long maxNumAreas str {}

def Area.isDefault (a : Area) : Bool := a = ⟨0, 0, 0, 0, 0⟩

def Area.inBounds (a : Area) : Bool :=
  -1000 ≤ a.left && -1000 ≤ a.top && !(a.width ≤ 0 || a.height ≤ 0) &&
    a.left + a.width ≤ 1000 && a.top + a.height ≤ 1000 && !(a.weight < 1 || 1000 < a.weight)

def validateCameraAreas (areas : List Area) : Bool :=
  (areas.length = 1 && areas.all Area.isDefault) || areas.all Area.inBounds

/-- The checks that `setFocusAreas` and `setMeteringAreas` both begin with, and the areas they go on with. -/
def acceptAreas (long : Long) (str : Text) (maxNumAreas : Nat) : Option (List Area) :=
  let p := parseCameraAreaString long str maxNumAreas
  if p.rc ≠ noError then none
  else if validateCameraAreas (p.areas.take p.numAreasFound) then some (p.areas.take p.numAreasFound) else none

structure Written where
  left : Int
  top : Int
  right : Int
  bottom : Int
  weight : Int

def Written.five (a : Written) : List Int := [a.left, a.top, a.right, a.bottom, a.weight]

def IsArea (g : Text) (a : Written) : Prop :=
  ∃ fields, g = '(' :: ([','].intercalate fields ++ [')']) ∧
    List.Forall₂ (fun f n => number f = some (n, [])) fields a.five

def Reads (s : Text) (as : List Written) : Prop :=
  ∃ gs, gs ≠ [] ∧ s = [','].intercalate gs ∧ List.Forall₂ IsArea gs as

structure Written.Valid (a : Written) : Prop where
  left : -1000 ≤ a.left
  leftRight : a.left < a.right
  right : a.right ≤ 1000
  top : -1000 ≤ a.top
  topBottom : a.top < a.bottom
  bottom : a.bottom ≤ 1000
  weight : 1 ≤ a.weight ∧ a.weight ≤ 1000

structure InLanguage (maxNumAreas : Nat) (s : Text) (as : List Written) : Prop where
  reads : Reads s as
  few : as.length ≤ maxNumAreas
  valid : (∀ a ∈ as, a.Valid) ∨ as = [⟨0, 0, 0, 0, 0⟩]

def Written.area (a : Written) : Area :=
  { left := Int32.ofInt a.left
    top := Int32.ofInt a.top
    width := Int32.ofInt (a.right - a.left)
    height := Int32.ofInt (a.bottom - a.top)
    weight := Int32.ofInt a.weight }

/-- The writes stay within `area_str` and the areas, and the areas that are accepted are exactly those of the
texts that should be. -/
structure Good (long : Long) (maxNumAreas : Nat) (s : Text) : Prop where
  copied : ∀ k ∈ (parseCameraAreaString long s maxNumAreas).copied, k < 32
  stored : ∀ i ∈ (parseCameraAreaString long s maxNumAreas).stored, i < maxNumAreas
  accepts : ∀ out, acceptAreas long s maxNumAreas = some out ↔
    ∃ as, InLanguage maxNumAreas s as ∧ out = as.map Written.area

def groups (s : Text) : List Text × Bool :=
  match _h : nextArea s with
  | none => ([], false)
  | some (g, rest) =>
    if rest.dropWhile (· ≠ '(') = [] then ([g], true)
    else
      let r := groups (rest.dropWhile (· ≠ '('))
      (g :: r.1, r.2)
termination_by s.length
decreasing_by
  have hlt := nextArea_length _h
  have hle := dropWhile_length_le rest
  omega

def fiveOf (long : Long) (g : Text) : Option (List Int32) := (parseNDimVector long g 5 ',').toOption

/-- No group that is reached is too long: those up to the first that is not read, and one more than there may
be. -/
def Short (long : Long) (maxNumAreas : Nat) (s : Text) : Prop :=
  ∀ before g after, (groups s).1 = before ++ g :: after → (∀ f ∈ before, (fiveOf long f).isSome = true) →
    before.length ≤ maxNumAreas → g.length ≤ 31

structure Bounds (v : List Int32) : Prop where
  left : -1000 ≤ v.getD 0 0
  top : -1000 ≤ v.getD 1 0
  width : 0 < v.getD 2 0 - v.getD 0 0
  height : 0 < v.getD 3 0 - v.getD 1 0
  right : v.getD 2 0 ≤ 1000
  bottom : v.getD 3 0 ≤ 1000
  weight : 1 ≤ v.getD 4 0 ∧ v.getD 4 0 ≤ 1000

def Passes (long : Long) (maxNumAreas : Nat) (s : Text) : Prop :=
  (groups s).2 = true ∧ (groups s).1.length ≤ maxNumAreas ∧
    ∃ vs, List.Forall₂ (fun g v => fiveOf long g = some v) (groups s).1 vs ∧
      ((∀ v ∈ vs, Bounds v) ∨ vs = [[0, 0, 0, 0, 0]])

structure Written.Fits (a : Written) : Prop where
  five : ∀ n ∈ a.five, InRange n
  width : InRange (a.right - a.left)
  height : InRange (a.bottom - a.top)

def Plain (s : Text) : Prop := ∃ as, Reads s as ∧ ∀ a ∈ as, a.Fits

variable {long : Long} {maxNumAreas : Nat} {s g rest : Text} {p : Parsed}

theorem parseLoop_none (h : nextArea s = none) : parseLoop long maxNumAreas s p = p.fail := by
  rw [parseLoop]
  split
  · rfl
  · rename_i heq
    rw [h] at heq
    cases heq

theorem parseLoop_some (h : nextArea s = some (g, rest)) :
    parseLoop long maxNumAreas s p =
      match parseNDimVector long g 5 ',' with
      | .error _ => (p.copy g).fail
      | .ok values =>
        if maxNumAreas ≤ (p.copy g).areas.length then (p.copy g).fail
        else
          let p := (p.copy g).store values
          if rest.dropWhile (· ≠ '(') = [] then { p with numAreasFound := p.areas.length }
          else parseLoop long maxNumAreas (rest.dropWhile (· ≠ '(')) p := by
  rw [parseLoop]
  split
  · rename_i heq
    rw [h] at heq
    cases heq
  · rename_i heq
    rw [h] at heq
    cases heq
    rfl

theorem groups_none (h : nextArea s = none) : groups s = ([], false) := by
  rw [groups]
  split
  · rfl
  · rename_i heq
    rw [h] at heq
    cases heq

theorem groups_some (h : nextArea s = some (g, rest)) :
    groups s =
      if rest.dropWhile (· ≠ '(') = [] then ([g], true)
      else (g :: (groups (rest.dropWhile (· ≠ '('))).1, (groups (rest.dropWhile (· ≠ '('))).2) := by
  rw [groups]
  split
  · rename_i heq
    rw [h] at heq
    cases heq
  · rename_i heq
    rw [h] at heq
    cases heq
    rfl

def parseGroups (long : Long) (maxNumAreas : Nat) (closed : Bool) : List Text → Parsed → Parsed
  | [], p => if closed then { p with numAreasFound := p.areas.length } else p.fail
  | g :: gs, p =>
    match fiveOf long g with
    | none => (p.copy g).fail
    | some values =>
      if maxNumAreas ≤ p.areas.length then (p.copy g).fail
      else parseGroups long maxNumAreas closed gs ((p.copy g).store values)

theorem parseLoop_groups (s : Text) (p : Parsed) :
    parseLoop long maxNumAreas s p = parseGroups long maxNumAreas (groups s).2 (groups s).1 p := by
  induction hlen : s.length using Nat.strong_induction_on generalizing s p with
  | _ n ih =>
    rcases h : nextArea s with _ | ⟨g, rest⟩
    · rw [parseLoop_none h, groups_none h]
      rfl
    · have hlt := nextArea_length h
      have hle := dropWhile_length_le rest
      rw [parseLoop_some h, groups_some h]
      by_cases hrest : rest.dropWhile (· ≠ '(') = []
      · rw [if_pos hrest, parseGroups, fiveOf]
        rcases parseNDimVector long g 5 ',' with rc | values
        · rfl
        · dsimp only [Except.toOption]
          rw [if_pos hrest]
          rfl
      · have hnext := fun p => ih _ (by omega) (rest.dropWhile (· ≠ '(')) p rfl
        rw [if_neg hrest, parseGroups, fiveOf]
        rcases parseNDimVector long g 5 ',' with rc | values
        · rfl
        · dsimp only [Except.toOption]
          rw [if_neg hrest, hnext]
          rfl

theorem parseGroups_cons (closed : Bool) (g : Text) (gs : List Text) (p : Parsed) :
    parseGroups long maxNumAreas closed (g :: gs) p =
      match fiveOf long g with
      | none => (p.copy g).fail
      | some values =>
        if maxNumAreas ≤ p.areas.length then (p.copy g).fail
        else parseGroups long maxNumAreas closed gs ((p.copy g).store values) := rfl

theorem store_length (values : List Int32) (g : Text) (p : Parsed) :
    ((p.copy g).store values).areas.length = p.areas.length + 1 := List.length_append

theorem mem_copied_iff (long : Long) (closed : Bool) (gs : List Text) (hp : p.areas.length ≤ maxNumAreas)
    (k : Nat) :
    k ∈ (parseGroups long maxNumAreas closed gs p).copied ↔
      k ∈ p.copied ∨ ∃ before g after, gs = before ++ g :: after ∧
        (∀ f ∈ before, (fiveOf long f).isSome = true) ∧ p.areas.length + before.length ≤ maxNumAreas ∧
          k = g.length := by
  induction gs generalizing p with
  | nil =>
    have hcopied : (parseGroups long maxNumAreas closed [] p).copied = p.copied := by
      rw [parseGroups]
      split
      · rfl
      · rfl
    rw [hcopied]
    constructor
    · intro h
      exact Or.inl h
    · rintro (h | ⟨before, g, after, heq, -⟩)
      · exact h
      · exact absurd heq.symm (List.append_ne_nil_of_right_ne_nil _ (List.cons_ne_nil _ _))
  | cons g gs ih =>
    rw [parseGroups_cons]
    have hone : k ∈ (p.copy g).copied ↔ k ∈ p.copied ∨ k = g.length := by
      rw [Parsed.copy, List.mem_append, List.mem_singleton]
    by_cases hgo : (fiveOf long g).isSome = true ∧ p.areas.length < maxNumAreas
    · obtain ⟨hread, hlt⟩ := hgo
      obtain ⟨values, hvalues⟩ := Option.isSome_iff_exists.mp hread
      have hlen := store_length values g p
      have hcopied : ((p.copy g).store values).copied = (p.copy g).copied := rfl
      rw [hvalues]
      dsimp only
      rw [if_neg (by omega), ih (by omega), hcopied, hone, hlen]
      constructor
      · rintro ((hold | hk) | ⟨before, f, after, rfl, hall, hroom, hk⟩)
        · exact Or.inl hold
        · exact Or.inr ⟨[], g, gs, rfl, fun _ hf => absurd hf List.not_mem_nil, by simpa using hp, hk⟩
        · refine Or.inr ⟨g :: before, f, after, rfl, ?_, by rw [List.length_cons]; omega, hk⟩
          exact List.forall_mem_cons.mpr ⟨hread, hall⟩
      · rintro (hold | ⟨before, f, after, heq, hall, hroom, hk⟩)
        · exact Or.inl (Or.inl hold)
        · cases before with
          | nil =>
            obtain rfl := (List.cons.inj heq).1
            exact Or.inl (Or.inr hk)
          | cons b before =>
            rw [List.length_cons] at hroom
            exact Or.inr ⟨before, f, after, (List.cons.inj heq).2,
              fun f hf => hall f (List.mem_cons_of_mem b hf), by omega, hk⟩
    · have hstop : (match fiveOf long g with
          | none => (p.copy g).fail
          | some values =>
            if maxNumAreas ≤ p.areas.length then (p.copy g).fail
            else parseGroups long maxNumAreas closed gs ((p.copy g).store values)) = (p.copy g).fail := by
        rcases hvalues : fiveOf long g with _ | values
        · rfl
        · have hfull : ¬p.areas.length < maxNumAreas := fun hlt => hgo ⟨by rw [hvalues]; rfl, hlt⟩
          exact if_pos (by omega)
      have hcopied : (p.copy g).fail.copied = (p.copy g).copied := rfl
      rw [hstop, hcopied, hone]
      constructor
      · rintro (hold | hk)
        · exact Or.inl hold
        · exact Or.inr ⟨[], g, gs, rfl, fun _ hf => absurd hf List.not_mem_nil, by simpa using hp, hk⟩
      · rintro (hold | ⟨before, f, after, heq, hall, hroom, hk⟩)
        · exact Or.inl hold
        · cases before with
          | nil =>
            obtain rfl := (List.cons.inj heq).1
            exact Or.inr hk
          | cons b before =>
            obtain rfl := (List.cons.inj heq).1
            rw [List.length_cons] at hroom
            exact absurd ⟨hall g List.mem_cons_self, by omega⟩ hgo

theorem stored_lt (closed : Bool) (gs : List Text) (hp : ∀ i ∈ p.stored, i < maxNumAreas) :
    ∀ i ∈ (parseGroups long maxNumAreas closed gs p).stored, i < maxNumAreas := by
  induction gs generalizing p with
  | nil =>
    rw [parseGroups]
    split
    · exact hp
    · exact hp
  | cons g gs ih =>
    rw [parseGroups_cons]
    split
    · exact hp
    · split
      · exact hp
      · rename_i hroom
        apply ih
        intro i hi
        rcases List.mem_append.mp hi with hi | hi
        · exact hp i hi
        · have hlen : i = p.areas.length := List.mem_singleton.mp hi
          omega

def ReadAs (long : Long) (gs : List Text) (vs : List (List Int32)) : Prop :=
  List.Forall₂ (fun g v => fiveOf long g = some v) gs vs

theorem parseGroups_accepts (gs : List Text) (vs : List (List Int32)) (h : ReadAs long gs vs)
    (hrc : p.rc = noError) (hroom : p.areas.length + gs.length ≤ maxNumAreas) :
    (parseGroups long maxNumAreas true gs p).rc = noError ∧
      (parseGroups long maxNumAreas true gs p).areas = p.areas ++ vs.map areaOf ∧
      (parseGroups long maxNumAreas true gs p).numAreasFound = (p.areas ++ vs.map areaOf).length := by
  induction h generalizing p with
  | nil =>
    rw [List.map_nil, List.append_nil]
    exact ⟨hrc, rfl, rfl⟩
  | @cons g v gs vs hv _ ih =>
    rw [List.length_cons] at hroom
    have hlen := store_length v g p
    obtain ⟨hcode, hareas, hfound⟩ := ih (p := (p.copy g).store v) hrc (by omega)
    have hstore : ((p.copy g).store v).areas = p.areas ++ [areaOf v] := rfl
    rw [hstore, List.append_assoc, List.singleton_append, ← List.map_cons] at hareas hfound
    rw [parseGroups_cons, hv]
    dsimp only
    rw [if_neg (by omega)]
    exact ⟨hcode, hareas, hfound⟩

theorem fail_rc (p : Parsed) : p.fail.rc ≠ noError := by
  intro h
  have hbad : badValue = noError := h
  exact absurd hbad (by decide)

theorem parseGroups_accepted (closed : Bool) (gs : List Text) (hp : p.areas.length ≤ maxNumAreas)
    (h : (parseGroups long maxNumAreas closed gs p).rc = noError) :
    closed = true ∧ p.areas.length + gs.length ≤ maxNumAreas ∧ ∃ vs, ReadAs long gs vs := by
  induction gs generalizing p with
  | nil =>
    cases closed with
    | true => exact ⟨rfl, hp, [], List.Forall₂.nil⟩
    | false => exact absurd h (fail_rc p)
  | cons g gs ih =>
    rw [parseGroups_cons] at h
    rcases hv : fiveOf long g with _ | v
    · rw [hv] at h
      exact absurd h (fail_rc _)
    · rw [hv] at h
      dsimp only at h
      by_cases hroom : maxNumAreas ≤ p.areas.length
      · rw [if_pos hroom] at h
        exact absurd h (fail_rc _)
      · rw [if_neg hroom] at h
        have hlen := store_length v g p
        obtain ⟨hclosed, hle, vs, hvs⟩ := ih (by omega) h
        rw [List.length_cons]
        exact ⟨hclosed, by omega, v :: vs, hvs.cons hv⟩

theorem acceptAreas_iff (s : Text) (out : List Area) :
    acceptAreas long s maxNumAreas = some out ↔
      (groups s).2 = true ∧ (groups s).1.length ≤ maxNumAreas ∧ ∃ vs, ReadAs long (groups s).1 vs ∧
        validateCameraAreas (vs.map areaOf) = true ∧ out = vs.map areaOf := by
  have hparse : parseCameraAreaString long s maxNumAreas =
      parseGroups long maxNumAreas (groups s).2 (groups s).1 {} := parseLoop_groups s {}
  have hstart : (0 : Nat) + (groups s).1.length = (groups s).1.length := Nat.zero_add _
  rw [acceptAreas, hparse]
  constructor
  · intro h
    by_cases hrc : (parseGroups long maxNumAreas (groups s).2 (groups s).1 {}).rc = noError
    · obtain ⟨hclosed, hle, vs, hvs⟩ := parseGroups_accepted _ _ (Nat.zero_le _) hrc
      obtain ⟨-, hareas, hfound⟩ := parseGroups_accepts (p := {}) _ vs hvs rfl hle
      rw [if_neg (not_not_intro hrc), hclosed, hareas, hfound, List.take_length, List.nil_append] at h
      split at h
      · rename_i hvalid
        exact ⟨hclosed, hstart ▸ hle, vs, hvs, hvalid, (Option.some.inj h).symm⟩
      · cases h
    · rw [if_pos hrc] at h
      cases h
  · rintro ⟨hclosed, hle, vs, hvs, hvalid, rfl⟩
    obtain ⟨hrc, hareas, hfound⟩ := parseGroups_accepts (p := {}) _ vs hvs rfl (hstart.symm ▸ hle)
    rw [hclosed, if_neg (not_not_intro hrc), hareas, hfound, List.take_length, List.nil_append, if_pos hvalid]

theorem readFields_length {delim : Char} {n : Nat} {v : List Int32} (h : readFields long delim n s = .ok v) :
    v.length = n := by
  induction n generalizing s v with
  | zero =>
    cases h
    rfl
  | succ n ih =>
    rw [readFields] at h
    split at h
    · cases h
    · rcases hrest : readFields long delim n (strtol long.max s).2.tail with rc | w
      · rw [hrest] at h
        cases h
      · rw [hrest] at h
        cases h
        rw [List.length_cons, ih hrest]

theorem fiveOf_length {v : List Int32} (h : fiveOf long g = some v) : v.length = 5 := by
  rw [fiveOf, parseNDimVector] at h
  split at h
  · cases h
  · rcases hrest : readFields long ',' 5 g.tail with rc | w
    · rw [hrest] at h
      cases h
    · rw [hrest] at h
      cases h
      exact readFields_length hrest

theorem add_sub_left (a b : Int32) : a + (b - a) = b := by
  rw [Int32.add_comm, Int32.sub_add_cancel]

theorem inBounds_iff (v : List Int32) : (areaOf v).inBounds = true ↔ Bounds v := by
  have hwidth : (areaOf v).left + (areaOf v).width = v.getD 2 0 := add_sub_left _ _
  have hheight : (areaOf v).top + (areaOf v).height = v.getD 3 0 := add_sub_left _ _
  rw [Area.inBounds, hwidth, hheight]
  simp only [Bool.and_eq_true, Bool.not_eq_true', Bool.or_eq_false_iff, decide_eq_true_eq,
    decide_eq_false_iff_not, Int32.not_le, Int32.not_lt]
  constructor
  · rintro ⟨⟨⟨⟨⟨hleft, htop⟩, hw, hh⟩, hright⟩, hbottom⟩, hweight⟩
    exact ⟨hleft, htop, hw, hh, hright, hbottom, hweight⟩
  · intro h
    exact ⟨⟨⟨⟨⟨h.left, h.top⟩, h.width, h.height⟩, h.right⟩, h.bottom⟩, h.weight⟩

theorem isDefault_iff {v : List Int32} (hlen : v.length = 5) :
    (areaOf v).isDefault = true ↔ v = [0, 0, 0, 0, 0] := by
  match v, hlen with
  | [l, t, r, b, w], _ =>
    rw [Area.isDefault, decide_eq_true_eq]
    constructor
    · intro h
      have hl : l = 0 := congrArg Area.left h
      have ht : t = 0 := congrArg Area.top h
      have hr : r - l = 0 := congrArg Area.width h
      have hb : b - t = 0 := congrArg Area.height h
      have hw : w = 0 := congrArg Area.weight h
      subst hl ht hw
      rw [Int32.sub_zero] at hr hb
      rw [hr, hb]
    · intro h
      cases h
      rfl

theorem validate_iff {vs : List (List Int32)} (hlen : ∀ v ∈ vs, v.length = 5) :
    validateCameraAreas (vs.map areaOf) = true ↔ (∀ v ∈ vs, Bounds v) ∨ vs = [[0, 0, 0, 0, 0]] := by
  have hbounds : (vs.map areaOf).all Area.inBounds = true ↔ ∀ v ∈ vs, Bounds v := by
    rw [List.all_map, List.all_eq_true]
    exact forall_congr' fun v => imp_congr_right fun _ => inBounds_iff v
  rw [validateCameraAreas, Bool.or_eq_true, hbounds, Bool.and_eq_true, decide_eq_true_eq, List.length_map,
    or_comm]
  apply or_congr_right
  constructor
  · rintro ⟨hone, hall⟩
    obtain ⟨v, rfl⟩ := List.length_eq_one_iff.mp hone
    have hdefault : (areaOf v).isDefault = true := by simpa using hall
    rw [(isDefault_iff (hlen v List.mem_cons_self)).mp hdefault]
  · rintro rfl
    exact ⟨rfl, rfl⟩

theorem readAs_length {gs : List Text} {vs : List (List Int32)} (h : ReadAs long gs vs) : ∀ v ∈ vs, v.length = 5 := by
  induction h with
  | nil => exact fun v hv => absurd hv List.not_mem_nil
  | cons hv _ ih => exact List.forall_mem_cons.mpr ⟨fiveOf_length hv, ih⟩

theorem accepts_iff_passes (s : Text) (out : List Area) :
    acceptAreas long s maxNumAreas = some out ↔
      (groups s).2 = true ∧ (groups s).1.length ≤ maxNumAreas ∧ ∃ vs, ReadAs long (groups s).1 vs ∧
        ((∀ v ∈ vs, Bounds v) ∨ vs = [[0, 0, 0, 0, 0]]) ∧ out = vs.map areaOf := by
  rw [acceptAreas_iff]
  apply and_congr_right
  intro _
  apply and_congr_right
  intro _
  apply exists_congr
  intro vs
  apply and_congr_right
  intro hvs
  rw [validate_iff (readAs_length hvs)]

theorem close_breaks : Decimal.Breaks ')' := ⟨by decide, by decide, by decide, by decide⟩

variable {a : Written} {as : List Written} {fields : List Text} {ns : List Int}

theorem close_not_mem (h : List.Forall₂ (fun f n => number f = some (n, [])) fields ns) :
    ')' ∉ [','].intercalate fields := by
  induction h with
  | nil => exact List.not_mem_nil
  | @cons f n fs ns hf _ ih =>
    have hnot := close_breaks.not_mem_number hf
    cases fs with
    | nil =>
      rw [List.intercalate_singleton]
      exact hnot
    | cons f' fs =>
      rw [List.intercalate_cons_cons, List.mem_append, List.mem_append, not_or, not_or]
      exact ⟨⟨hnot, by decide⟩, ih⟩

theorem takeWhile_close {body : Text} (h : ')' ∉ body) (rest : Text) :
    (body ++ ')' :: rest).takeWhile (· ≠ ')') = body ∧
      (body ++ ')' :: rest).dropWhile (· ≠ ')') = ')' :: rest := by
  have hall : ∀ c ∈ body, decide (c ≠ ')') = true := fun c hc => decide_eq_true fun heq => h (heq ▸ hc)
  constructor
  · rw [List.takeWhile_append_of_pos hall]
    simp
  · rw [List.dropWhile_append_of_pos hall]
    simp

theorem nextArea_append (h : IsArea g a) (rest : Text) : nextArea (g ++ rest) = some (g, rest) := by
  obtain ⟨fields, rfl, hfields⟩ := h
  have hbody : ')' ∉ '(' :: [','].intercalate fields := by
    rw [List.mem_cons, not_or]
    exact ⟨by decide, close_not_mem hfields⟩
  obtain ⟨htake, hdrop⟩ := takeWhile_close hbody rest
  rw [List.cons_append] at htake hdrop
  rw [nextArea, List.cons_append, List.append_assoc, List.singleton_append, htake, hdrop, if_neg (by simp)]
  rfl

theorem isArea_head (h : IsArea g a) : g.head? = some '(' := by
  obtain ⟨fields, rfl, -⟩ := h
  rfl

theorem next_open {t : Text} (h : t.head? = some '(') : (',' :: t).dropWhile (· ≠ '(') = t := by
  cases t with
  | nil => cases h
  | cons c t =>
    obtain rfl := Option.some.inj h
    simp

theorem readFields_reads (long : Long) (h : List.Forall₂ (fun f n => number f = some (n, [])) fields ns)
    (hfit : ∀ n ∈ ns, InRange n) :
    readFields long ',' fields.length ([','].intercalate fields ++ [')']) = .ok (ns.map Int32.ofInt) := by
  induction h with
  | nil => rfl
  | @cons f n fs ns hf hfs ih =>
    have hrest := ih fun m hm => hfit m (List.mem_cons_of_mem n hm)
    have hread := SizesList.strtol_inRange long hf (hfit n List.mem_cons_self)
    cases hfs with
    | nil =>
      have hstop := Decimal.strtol_append long.max close_breaks f []
      rw [hread] at hstop
      rw [List.intercalate_singleton, List.length_cons, readFields, hstop]
      dsimp only
      rw [if_neg (fun h => absurd h.2 (Nat.lt_irrefl 0))]
      rfl
    | @cons f' n' fs ns hf' hfs' =>
      have hstop := Decimal.strtol_append long.max SizesList.comma_breaks f
        ([','].intercalate (f' :: fs) ++ [')'])
      rw [hread] at hstop
      rw [List.intercalate_cons_cons, List.append_assoc, List.append_assoc, List.singleton_append,
        List.length_cons, readFields, hstop]
      dsimp only [List.nil_append]
      rw [if_neg (fun h => h.1 rfl), List.tail_cons, hrest]
      rfl

theorem fiveOf_reads (long : Long) (h : IsArea g a) (hfit : ∀ n ∈ a.five, InRange n) :
    fiveOf long g = some (a.five.map Int32.ofInt) := by
  obtain ⟨fields, rfl, hfields⟩ := h
  have hlen : fields.length = 5 := hfields.length_eq
  have hread := readFields_reads long hfields hfit
  rw [hlen] at hread
  have hlast : ('(' :: ([','].intercalate fields ++ [')'])).getLast? = some ')' := by
    rw [← List.cons_append, List.getLast?_concat]
  rw [fiveOf, parseNDimVector, if_neg (by rw [hlast]; simp), List.tail_cons, hread]
  rfl

theorem groups_reads (long : Long) (h : Reads s as) (hfit : ∀ a ∈ as, ∀ n ∈ a.five, InRange n) :
    (groups s).2 = true ∧ (groups s).1.length = as.length ∧
      ReadAs long (groups s).1 (as.map fun a => a.five.map Int32.ofInt) := by
  obtain ⟨gs, hne, rfl, hgs⟩ := h
  induction hgs with
  | nil => exact absurd rfl hne
  | @cons g a gs as hg hgs ih =>
    have hread := fiveOf_reads long hg (hfit a List.mem_cons_self)
    cases hgs with
    | nil =>
      have hnext := nextArea_append hg []
      rw [List.append_nil] at hnext
      rw [List.intercalate_singleton, groups_some hnext, if_pos List.dropWhile_nil]
      exact ⟨rfl, rfl, List.Forall₂.cons hread List.Forall₂.nil⟩
    | @cons g' a' gs as hg' hgs' =>
      obtain ⟨hclosed, hlen, hreads⟩ := ih
        (fun b hb => hfit b (List.mem_cons_of_mem a hb)) (List.cons_ne_nil g' gs)
      have hopen : ([','].intercalate (g' :: gs)).head? = some '(' := by
        cases gs with
        | nil =>
          rw [List.intercalate_singleton]
          exact isArea_head hg'
        | cons g'' gs =>
          rw [List.intercalate_cons_cons, List.append_assoc, List.head?_append, isArea_head hg']
          rfl
      have hnext := nextArea_append hg (',' :: [','].intercalate (g' :: gs))
      have hdrop := next_open hopen
      rw [List.intercalate_cons_cons, List.append_assoc, List.singleton_append, groups_some hnext, hdrop,
        if_neg (by intro hnil; rw [hnil] at hopen; cases hopen)]
      exact ⟨hclosed, congrArg (· + 1) hlen, List.Forall₂.cons hread hreads⟩

theorem ReadAs.unique {gs : List Text} {vs ws : List (List Int32)} (h : ReadAs long gs vs)
    (h' : ReadAs long gs ws) : vs = ws := by
  induction h generalizing ws with
  | nil =>
    cases h'
    rfl
  | cons hv _ ih =>
    cases h' with
    | cons hw hws =>
      rw [hv] at hw
      rw [Option.some.inj hw, ih hws]

theorem toInt_ofInt {n : Int} (h : InRange n) : (Int32.ofInt n).toInt = n := Int32.toInt_ofInt_of_le h.1 h.2

theorem ofInt_eq_zero {n : Int} (h : InRange n) : Int32.ofInt n = 0 ↔ n = 0 := by
  constructor
  · intro hzero
    have hint := congrArg Int32.toInt hzero
    rw [toInt_ofInt h] at hint
    exact hint
  · rintro rfl
    rfl

theorem ofInt_le {n m : Int} {k : Int32} (hn : InRange n) (hk : k.toInt = m) : Int32.ofInt n ≤ k ↔ n ≤ m := by
  rw [Int32.le_iff_toInt_le, toInt_ofInt hn, hk]

theorem le_ofInt {n m : Int} {k : Int32} (hn : InRange n) (hk : k.toInt = m) : k ≤ Int32.ofInt n ↔ m ≤ n := by
  rw [Int32.le_iff_toInt_le, toInt_ofInt hn, hk]

theorem sub_pos {n m : Int} (h : InRange (n - m)) : 0 < Int32.ofInt n - Int32.ofInt m ↔ m < n := by
  rw [← Int32.ofInt_sub, Int32.lt_iff_toInt_lt, toInt_ofInt h, Int32.toInt_zero]
  omega

theorem areaOf_five (a : Written) : areaOf (a.five.map Int32.ofInt) = a.area := by
  rw [Written.area, Int32.ofInt_sub, Int32.ofInt_sub]
  rfl

theorem map_areaOf_five (as : List Written) :
    (as.map fun a => a.five.map Int32.ofInt).map areaOf = as.map Written.area := by
  rw [List.map_map]
  exact List.map_congr_left fun a _ => areaOf_five a

theorem bounds_five_iff (h : a.Fits) : Bounds (a.five.map Int32.ofInt) ↔ a.Valid := by
  have hfive := h.five
  rw [Written.five, List.forall_mem_cons, List.forall_mem_cons, List.forall_mem_cons, List.forall_mem_cons,
    List.forall_mem_singleton] at hfive
  obtain ⟨hleft, htop, hright, hbottom, hweight⟩ := hfive
  have hlow : (-1000 : Int32).toInt = -1000 := by decide
  have hhigh : (1000 : Int32).toInt = 1000 := by decide
  have hone : (1 : Int32).toInt = 1 := by decide
  constructor
  · intro hb
    exact
      { left := (le_ofInt hleft hlow).mp hb.left
        leftRight := (sub_pos h.width).mp hb.width
        right := (ofInt_le hright hhigh).mp hb.right
        top := (le_ofInt htop hlow).mp hb.top
        topBottom := (sub_pos h.height).mp hb.height
        bottom := (ofInt_le hbottom hhigh).mp hb.bottom
        weight := ⟨(le_ofInt hweight hone).mp hb.weight.1, (ofInt_le hweight hhigh).mp hb.weight.2⟩ }
  · intro hv
    exact
      { left := (le_ofInt hleft hlow).mpr hv.left
        top := (le_ofInt htop hlow).mpr hv.top
        width := (sub_pos h.width).mpr hv.leftRight
        height := (sub_pos h.height).mpr hv.topBottom
        right := (ofInt_le hright hhigh).mpr hv.right
        bottom := (ofInt_le hbottom hhigh).mpr hv.bottom
        weight := ⟨(le_ofInt hweight hone).mpr hv.weight.1, (ofInt_le hweight hhigh).mpr hv.weight.2⟩ }

theorem five_eq_zero_iff (h : a.Fits) : a.five.map Int32.ofInt = [0, 0, 0, 0, 0] ↔ a = ⟨0, 0, 0, 0, 0⟩ := by
  constructor
  · intro hzero
    have hall : ∀ n ∈ a.five, n = 0 := by
      intro n hn
      have hmem := List.mem_map_of_mem (f := Int32.ofInt) hn
      rw [hzero] at hmem
      exact (ofInt_eq_zero (h.five n hn)).mp (by simpa using hmem)
    rw [Written.five, List.forall_mem_cons, List.forall_mem_cons, List.forall_mem_cons, List.forall_mem_cons,
      List.forall_mem_singleton] at hall
    obtain ⟨hleft, htop, hright, hbottom, hweight⟩ := hall
    cases a
    dsimp only at hleft htop hright hbottom hweight
    rw [hleft, htop, hright, hbottom, hweight]
  · rintro rfl
    rfl

theorem Written.Valid.fits (h : a.Valid) : a.Fits := by
  obtain ⟨hleft, hlr, hright, htop, htb, hbottom, hweight⟩ := h
  constructor
  · rw [Written.five, List.forall_mem_cons, List.forall_mem_cons, List.forall_mem_cons, List.forall_mem_cons,
      List.forall_mem_singleton]
    exact ⟨⟨by omega, by omega⟩, ⟨by omega, by omega⟩, ⟨by omega, by omega⟩, ⟨by omega, by omega⟩, by omega, by omega⟩
  · exact ⟨by omega, by omega⟩
  · exact ⟨by omega, by omega⟩

theorem InLanguage.fits (h : InLanguage maxNumAreas s as) : ∀ a ∈ as, a.Fits := by
  rcases h.valid with hvalid | rfl
  · exact fun a ha => (hvalid a ha).fits
  · rw [List.forall_mem_singleton]
    exact ⟨by decide, by decide, by decide⟩

theorem bounds_reads_iff (h : ∀ a ∈ as, a.Fits) :
    ((∀ v ∈ as.map fun a => a.five.map Int32.ofInt, Bounds v) ∨
        (as.map fun a => a.five.map Int32.ofInt) = [[0, 0, 0, 0, 0]]) ↔
      (∀ a ∈ as, a.Valid) ∨ as = [⟨0, 0, 0, 0, 0⟩] := by
  apply or_congr
  · rw [List.forall_mem_map]
    exact forall₂_congr fun a ha => bounds_five_iff (h a ha)
  · constructor
    · intro hzero
      obtain ⟨a, rfl⟩ := List.length_eq_one_iff.mp (by simpa using congrArg List.length hzero)
      rw [(five_eq_zero_iff (h a List.mem_cons_self)).mp (List.cons.inj hzero).1]
    · rintro rfl
      rfl

theorem accepts_language (h : InLanguage maxNumAreas s as) :
    acceptAreas long s maxNumAreas = some (as.map Written.area) := by
  have hfits := h.fits
  obtain ⟨hclosed, hlen, hreads⟩ := groups_reads long h.reads fun a ha => (hfits a ha).five
  have hfew := h.few
  exact (accepts_iff_passes s _).mpr
    ⟨hclosed, by omega, _, hreads, (bounds_reads_iff hfits).mpr h.valid, (map_areaOf_five as).symm⟩

theorem language_accepts {out : List Area} (hplain : Plain s) (h : acceptAreas long s maxNumAreas = some out) :
    ∃ as, InLanguage maxNumAreas s as ∧ out = as.map Written.area := by
  obtain ⟨-, hfew, vs, hvs, hbounds, rfl⟩ := (accepts_iff_passes s out).mp h
  obtain ⟨as, hreads, hfits⟩ := hplain
  obtain ⟨-, hlen, has⟩ := groups_reads long hreads fun a ha => (hfits a ha).five
  obtain rfl := hvs.unique has
  exact ⟨as, ⟨hreads, by omega, (bounds_reads_iff hfits).mp hbounds⟩, map_areaOf_five as⟩

theorem parse_eq_groups (long : Long) (s : Text) (maxNumAreas : Nat) :
    parseCameraAreaString long s maxNumAreas = parseGroups long maxNumAreas (groups s).2 (groups s).1 {} :=
  parseLoop_groups s {}

theorem short_iff (long : Long) (maxNumAreas : Nat) (s : Text) :
    (∀ k ∈ (parseCameraAreaString long s maxNumAreas).copied, k < 32) ↔ Short long maxNumAreas s := by
  have hmem := fun k => mem_copied_iff long (p := {}) (groups s).2 (groups s).1 (Nat.zero_le maxNumAreas) k
  rw [parse_eq_groups]
  constructor
  · intro h before g after heq hall hroom
    have hlt := h g.length ((hmem g.length).mpr
      (Or.inr ⟨before, g, after, heq, hall, (Nat.zero_add before.length).symm ▸ hroom, rfl⟩))
    omega
  · intro h k hk
    rcases (hmem k).mp hk with hnone | ⟨before, g, after, heq, hall, hroom, rfl⟩
    · exact absurd hnone List.not_mem_nil
    · have hle := h before g after heq hall (Nat.zero_add before.length ▸ hroom)
      omega

/-- The areas are read as they should be exactly when the text of each area that is reached fits into
`area_str`, and what passes the checks is plain. -/
theorem camera_areas_accepted_iff (long : Long) (maxNumAreas : Nat) (s : Text) :
    Good long maxNumAreas s ↔ Short long maxNumAreas s ∧ (Passes long maxNumAreas s → Plain s) := by
  constructor
  · intro h
    refine ⟨(short_iff long maxNumAreas s).mp h.copied, ?_⟩
    rintro ⟨hclosed, hfew, vs, hvs, hbounds⟩
    obtain ⟨as, has, -⟩ := (h.accepts _).mp
      ((accepts_iff_passes s _).mpr ⟨hclosed, hfew, vs, hvs, hbounds, rfl⟩)
    exact ⟨as, has.reads, has.fits⟩
  · rintro ⟨hshort, hplain⟩
    refine ⟨(short_iff long maxNumAreas s).mpr hshort, ?_, fun out => ⟨fun h => ?_, ?_⟩⟩
    · rw [parse_eq_groups]
      exact stored_lt _ _ fun i hi => absurd hi List.not_mem_nil
    · obtain ⟨hclosed, hfew, vs, hvs, hbounds, -⟩ := (accepts_iff_passes s out).mp h
      exact language_accepts (hplain ⟨hclosed, hfew, vs, hvs, hbounds⟩) h
    · rintro ⟨as, has, rfl⟩
      exact accepts_language has

def longArea : Text := '(' :: (List.replicate 40 '0' ++ [')'])

/-- It is copied past the end of `area_str`. -/
theorem area_copied_past_buffer : ¬Good ⟨2 ^ 31 - 1, Nat.le_refl _⟩ 1 longArea := by
  intro h
  have hshort := (short_iff _ 1 longArea).mp h.copied
  have hnext : nextArea longArea = some (longArea, []) := rfl
  have hgroups : (groups longArea).1 = [] ++ longArea :: [] := by
    rw [groups_some hnext, if_pos List.dropWhile_nil]
    rfl
  have hlen := hshort [] longArea [] hgroups (fun f hf => absurd hf List.not_mem_nil) (Nat.zero_le 1)
  exact absurd hlen (by decide)

end Wt88047.CameraAreas
