import Wt88047.Lib.Decimal

/-! Lists of sizes as text: how they are written, and what `parseSizesList` reads of any text. -/

namespace Wt88047.SizesList

open Decimal (number strtol render)

abbrev Text := List Char

/-- `cam_dimension_t`, and `Size` of the framework. -/
structure Size where
  width : Int32
  height : Int32
  deriving DecidableEq

/-- `cam_hfr_info_t` -/
structure HfrInfo where
  dim : Size

/-- A `long`, which is no smaller than an `int`. -/
structure Long where
  max : Nat
  wide : 2 ^ 31 - 1 ≤ max

/-- `snprintf` into a buffer of 32. -/
def snprintf (s : Text) : Text := s.take 31

/-- `%dx%d` -/
def sizeText (z : Size) : Text := render z.width.toInt ++ 'x' :: render z.height.toInt

def dimsString : List Size → Text
  | [] => []
  | z :: zs => snprintf (sizeText z) ++ zs.flatMap fun z => snprintf (',' :: sizeText z)

def createSizesString (sizes : List Size) : Text := dimsString sizes

def createHfrSizesString (values : List HfrInfo) : Text := dimsString (values.map HfrInfo.dim)

abbrev noError : Int := 0

/-- `BAD_VALUE`, which is `-EINVAL` -/
abbrev badValue : Int := -22

/-- `parse_pair`; when it fails, it leaves what its pointers point to as it was. -/
def parsePair (long : Long) (str : Text) (delim : Char) : Except Int (Size × Text) :=
  let (w, rest) := strtol long.max str
  match rest with
  | [] => .error badValue
  | c :: rest =>
    if c ≠ delim then .error badValue
    else
      let (h, rest) := strtol long.max rest
      .ok (⟨Int32.ofInt w, Int32.ofInt h⟩, rest)

variable {z : Size}

theorem parsePair_ok_iff {long : Long} {str : Text} {delim : Char} {rest : Text} :
    parsePair long str delim = .ok (z, rest) ↔
      ∃ w t h, strtol long.max str = (w, delim :: t) ∧ strtol long.max t = (h, rest) ∧
        z = ⟨Int32.ofInt w, Int32.ofInt h⟩ := by
  rcases hfirst : strtol long.max str with ⟨w, _ | ⟨c, t⟩⟩
  · rw [parsePair, hfirst]
    constructor
    · intro h
      cases h
    · rintro ⟨_, _, _, h, -⟩
      cases h
  · rcases hsecond : strtol long.max t with ⟨h, u⟩
    rw [parsePair, hfirst]
    dsimp only
    rw [hsecond]
    by_cases hc : c = delim
    · subst hc
      rw [if_neg (not_not_intro rfl)]
      constructor
      · intro hok
        cases hok
        exact ⟨w, t, h, rfl, hsecond, rfl⟩
      · rintro ⟨_, _, _, hw, hh, rfl⟩
        cases hw
        rw [hsecond] at hh
        cases hh
        rfl
    · rw [if_pos hc]
      constructor
      · intro hok
        cases hok
      · rintro ⟨_, _, _, hw, -⟩
        cases hw
        exact absurd rfl hc

theorem parsePair_suffix {long : Long} {str : Text} {delim : Char} {rest : Text}
    (h : parsePair long str delim = .ok (z, rest)) : rest <:+ str ∧ rest.length < str.length := by
  obtain ⟨w, t, n, hfirst, hsecond, -⟩ := parsePair_ok_iff.mp h
  have hone := Decimal.strtol_suffix long.max str
  have htwo := Decimal.strtol_suffix long.max t
  rw [hfirst] at hone
  rw [hsecond] at htwo
  dsimp only at hone htwo
  have hle := hone.length_le
  have hle' := htwo.length_le
  rw [List.length_cons] at hle
  exact ⟨htwo.trans ((List.suffix_cons _ _).trans hone), by omega⟩

/-- One turn of the loop: the return code, `width` and `height`, and `sizeStartPtr`. -/
def turn (long : Long) (unset : Size) (ptr : Text) : Int × Size × Text :=
  match parsePair long ptr 'x' with
  | .error rc => (rc, unset, ptr)
  | .ok (z, rest) => (noError, z, rest)

theorem turn_length (long : Long) (unset : Size) (ptr : Text) :
    (turn long unset ptr).2.2.length ≤ ptr.length := by
  rw [turn]
  split
  · exact Nat.le_refl _
  · rename_i z rest heq
    exact Nat.le_of_lt (parsePair_suffix heq).2

/-- The loop, from the turn `i` on; `unset` is what `width` and `height` hold in a turn before they are
set. -/
def parseFrom (long : Long) (unset : Nat → Size) (i : Nat) (ptr : Text) : List Size :=
  let r := turn long (unset i) ptr
  if r.1 = -1 then []
  else
    match h : r.2.2 with
    | [] => [r.2.1]
    | c :: rest => if c = ',' then r.2.1 :: parseFrom long unset (i + 1) rest else []
termination_by ptr.length
decreasing_by
  have hle := turn_length long (unset i) ptr
  rw [h, List.length_cons] at hle
  omega

def parseSizesList (long : Long) (unset : Nat → Size) (sizesStr : Option Text) : List Size :=
  match sizesStr with
  | none => []
  | some s => parseFrom long unset 0 s

def InRange (n : Int) : Prop := -2 ^ 31 ≤ n ∧ n < 2 ^ 31

instance (n : Int) : Decidable (InRange n) := inferInstanceAs (Decidable (_ ∧ _))

def sizeOf (piece : Text) : Option Size :=
  match number piece with
  | some (w, 'x' :: rest) =>
    match number rest with
    | some (h, []) => if InRange w ∧ InRange h then some ⟨Int32.ofInt w, Int32.ofInt h⟩ else none
    | _ => none
  | _ => none

def leadingSizes (ps : List Text) : List Size := ((ps.map sizeOf).takeWhile Option.isSome).filterMap id

def listedSizes (s : Text) : List Size := leadingSizes (s.splitOn ',')

def Loose (s : Text) : Prop := s = [] ∨ ∃ n, number s = some (n, [])

def Trap (piece : Text) : Prop := piece = [] ∨ ∃ w h, piece = w ++ 'x' :: h ∧ Loose w ∧ Loose h

def SafePieces (ps : List Text) : Prop :=
  ∀ before piece after, ps = before ++ piece :: after → (∀ p ∈ before, (sizeOf p).isSome = true) →
    sizeOf piece = none → ¬Trap piece

def Safe (s : Text) : Prop := SafePieces (s.splitOn ',')

variable {long : Long} {unset : Nat → Size} {piece rest s : Text}

theorem comma_breaks : Decimal.Breaks ',' := ⟨by decide, by decide, by decide, by decide⟩

theorem x_breaks : Decimal.Breaks 'x' := ⟨by decide, by decide, by decide, by decide⟩

theorem parsePair_append (long : Long) (piece rest : Text) :
    parsePair long (piece ++ ',' :: rest) 'x' =
      (parsePair long piece 'x').map fun p => (p.1, p.2 ++ ',' :: rest) := by
  have hfirst := Decimal.strtol_append long.max comma_breaks piece rest
  rw [parsePair, parsePair, hfirst]
  rcases strtol long.max piece with ⟨w, _ | ⟨c, t⟩⟩
  · rfl
  · dsimp only [List.cons_append]
    split
    · rfl
    · rw [Decimal.strtol_append _ comma_breaks]
      rfl

def pieceSize (long : Long) (unset : Size) (piece : Text) : Option Size :=
  if piece = [] then some unset
  else
    match parsePair long piece 'x' with
    | .ok (z, []) => some z
    | _ => none

def readPieces (long : Long) (unset : Nat → Size) : Nat → List Text → List Size
  | _, [] => []
  | i, piece :: rest =>
    match pieceSize long (unset i) piece with
    | none => []
    | some z => z :: readPieces long unset (i + 1) rest

variable {rc : Int}

theorem parseFrom_cons {i : Nat} {ptr rest : Text} {c : Char}
    (h : turn long (unset i) ptr = (rc, z, c :: rest)) :
    parseFrom long unset i ptr =
      if rc = -1 then [] else if c = ',' then z :: parseFrom long unset (i + 1) rest else [] := by
  rw [parseFrom]
  split
  · rename_i hrc
    rw [h] at hrc
    rw [if_pos hrc]
  · rename_i hrc
    rw [h] at hrc
    rw [if_neg hrc]
    split
    · rename_i heq
      rw [h] at heq
      cases heq
    · rename_i heq
      rw [h] at heq
      cases heq
      rw [h]

theorem parseFrom_nil {i : Nat} {ptr : Text} (h : turn long (unset i) ptr = (rc, z, [])) :
    parseFrom long unset i ptr = if rc = -1 then [] else [z] := by
  rw [parseFrom]
  split
  · rename_i hrc
    rw [h] at hrc
    rw [if_pos hrc]
  · rename_i hrc
    rw [h] at hrc
    rw [if_neg hrc]
    split
    · rw [h]
    · rename_i heq
      rw [h] at heq
      cases heq

theorem turn_error {ptr : Text} {u : Size} (h : parsePair long ptr 'x' = .error rc) :
    turn long u ptr = (rc, u, ptr) := by
  rw [turn, h]

theorem turn_ok {ptr rest : Text} {u : Size} (h : parsePair long ptr 'x' = .ok (z, rest)) :
    turn long u ptr = (noError, z, rest) := by
  rw [turn, h]

theorem parsePair_error {str : Text} (h : parsePair long str 'x' = .error rc) : rc = badValue := by
  rcases hfirst : strtol long.max str with ⟨w, _ | ⟨c, t⟩⟩
  · rw [parsePair, hfirst] at h
    cases h
    rfl
  · rw [parsePair, hfirst] at h
    dsimp only at h
    split at h
    · cases h
      rfl
    · cases h

theorem parseFrom_piece (hpiece : ',' ∉ piece) (i : Nat) (rest : Text) :
    parseFrom long unset i (piece ++ ',' :: rest) =
      match pieceSize long (unset i) piece with
      | none => []
      | some z => z :: parseFrom long unset (i + 1) rest := by
  have happend := parsePair_append long piece rest
  rcases hpair : parsePair long piece 'x' with rc | ⟨z, t⟩
  · rw [hpair] at happend
    have hrc := parsePair_error happend
    have hturn := turn_error (u := unset i) happend
    cases piece with
    | nil =>
      rw [List.nil_append] at hturn ⊢
      rw [parseFrom_cons hturn, hrc, if_neg (by decide), if_pos rfl, pieceSize, if_pos rfl]
    | cons c cs =>
      rw [List.cons_append] at hturn ⊢
      have hc : c ≠ ',' := fun heq => hpiece (heq ▸ List.mem_cons_self ..)
      rw [parseFrom_cons hturn, hrc, if_neg (by decide), if_neg hc, pieceSize,
        if_neg (List.cons_ne_nil c cs), hpair]
  · rw [hpair] at happend
    have hturn := turn_ok (u := unset i) happend
    have hne : piece ≠ [] := by
      rintro rfl
      exact absurd (parsePair_suffix hpair).2 (Nat.not_lt_zero _)
    rw [pieceSize, if_neg hne, hpair]
    cases t with
    | nil => rw [parseFrom_cons hturn, if_neg (by decide), if_pos rfl]
    | cons c cs =>
      have hc : c ≠ ',' := fun heq => hpiece ((parsePair_suffix hpair).1.subset (heq ▸ List.mem_cons_self ..))
      rw [List.cons_append] at hturn
      rw [parseFrom_cons hturn, if_neg (by decide), if_neg hc]

theorem parseFrom_last (hpiece : ',' ∉ piece) (i : Nat) :
    parseFrom long unset i piece =
      match pieceSize long (unset i) piece with
      | none => []
      | some z => [z] := by
  rcases hpair : parsePair long piece 'x' with rc | ⟨z, t⟩
  · have hrc := parsePair_error hpair
    have hturn := turn_error (u := unset i) hpair
    cases piece with
    | nil => rw [parseFrom_nil hturn, hrc, if_neg (by decide), pieceSize, if_pos rfl]
    | cons c cs =>
      have hc : c ≠ ',' := fun heq => hpiece (heq ▸ List.mem_cons_self ..)
      rw [parseFrom_cons hturn, hrc, if_neg (by decide), if_neg hc, pieceSize,
        if_neg (List.cons_ne_nil c cs), hpair]
  · have hturn := turn_ok (u := unset i) hpair
    have hne : piece ≠ [] := by
      rintro rfl
      exact absurd (parsePair_suffix hpair).2 (Nat.not_lt_zero _)
    rw [pieceSize, if_neg hne, hpair]
    cases t with
    | nil => rw [parseFrom_nil hturn, if_neg (by decide)]
    | cons c cs =>
      have hc : c ≠ ',' := fun heq => hpiece ((parsePair_suffix hpair).1.subset (heq ▸ List.mem_cons_self ..))
      rw [parseFrom_cons hturn, if_neg (by decide), if_neg hc]

theorem parseFrom_pieces (long : Long) (unset : Nat → Size) (ps : List Text) (hps : ∀ p ∈ ps, ',' ∉ p)
    (hne : ps ≠ []) (i : Nat) :
    parseFrom long unset i ([','].intercalate ps) = readPieces long unset i ps := by
  induction ps generalizing i with
  | nil => exact absurd rfl hne
  | cons p ps ih =>
    have hp := hps p List.mem_cons_self
    cases ps with
    | nil =>
      rw [List.intercalate_singleton, parseFrom_last hp, readPieces]
      split
      · rfl
      · rfl
    | cons q ps =>
      have hrest := ih (fun r hr => hps r (List.mem_cons_of_mem p hr)) (List.cons_ne_nil q ps) (i + 1)
      rw [List.intercalate_cons_cons, List.append_assoc, List.singleton_append, parseFrom_piece hp, hrest]
      rfl

theorem not_mem_of_mem_splitOn {c : Char} {p : Text} (h : p ∈ s.splitOn c) : c ∉ p := by
  induction s generalizing p with
  | nil =>
    rw [List.splitOn_nil, List.mem_singleton] at h
    rw [h]
    exact List.not_mem_nil
  | cons d s ih =>
    rw [List.splitOn_cons_eq_if_modifyHead] at h
    by_cases hd : d = c
    · rw [if_pos (beq_iff_eq.mpr hd)] at h
      rcases List.mem_cons.mp h with rfl | h
      · exact List.not_mem_nil
      · exact ih h
    · rw [if_neg (by simp [hd])] at h
      obtain ⟨q, qs, hsplit⟩ := List.exists_cons_of_ne_nil (List.splitOn_ne_nil c s)
      rw [hsplit, List.modifyHead_cons] at h
      rcases List.mem_cons.mp h with rfl | h
      · rw [List.mem_cons, not_or]
        exact ⟨fun heq => hd heq.symm, ih (by rw [hsplit]; exact List.mem_cons_self)⟩
      · exact ih (by rw [hsplit]; exact List.mem_cons_of_mem q h)

theorem parseSizesList_pieces (s : Text) :
    parseSizesList long unset (some s) = readPieces long unset 0 (s.splitOn ',') := by
  have hread := parseFrom_pieces long unset (s.splitOn ',')
    (fun p hp => not_mem_of_mem_splitOn hp) (List.splitOn_ne_nil ',' s) 0
  rw [List.intercalate_splitOn] at hread
  exact hread

theorem loose_iff : Loose s ↔ (strtol long.max s).2 = [] := Decimal.strtol_ends.symm

theorem pieceSize_iff (long : Long) (u : Size) (hne : piece ≠ []) : pieceSize long u piece ≠ none ↔ Trap piece := by
  have hpair : pieceSize long u piece ≠ none ↔ ∃ z, parsePair long piece 'x' = .ok (z, []) := by
    rw [pieceSize, if_neg hne]
    split
    · rename_i z heq
      exact ⟨fun _ => ⟨z, heq⟩, fun _ h => (nomatch h)⟩
    · rename_i hno
      exact ⟨fun h => absurd rfl h, fun ⟨z, heq⟩ => absurd heq (hno z)⟩
  rw [hpair]
  constructor
  · rintro ⟨z, hz⟩
    obtain ⟨w, t, h, hfirst, hsecond, -⟩ := parsePair_ok_iff.mp hz
    obtain ⟨a, ha, hends, -⟩ := Decimal.strtol_stops x_breaks (congrArg Prod.snd hfirst)
    exact Or.inr ⟨a, t, ha, loose_iff.mpr hends, loose_iff.mpr (congrArg Prod.snd hsecond)⟩
  · rintro (hnil | ⟨a, t, ha, hloose, hloose'⟩)
    · exact absurd hnil hne
    · have hfirst := Decimal.strtol_append long.max x_breaks a t
      rw [← ha, loose_iff.mp hloose] at hfirst
      exact ⟨_, parsePair_ok_iff.mpr ⟨_, t, _, hfirst, Prod.ext rfl (loose_iff.mp hloose'), rfl⟩⟩

theorem sizeOf_some (h : sizeOf piece = some z) :
    ∃ w rest h, number piece = some (w, 'x' :: rest) ∧ number rest = some (h, []) ∧ InRange w ∧ InRange h ∧
      z = ⟨Int32.ofInt w, Int32.ofInt h⟩ := by
  rw [sizeOf] at h
  split at h
  · rename_i w rest hfirst
    split at h
    · rename_i n hsecond
      split at h
      · rename_i hrange
        exact ⟨w, rest, n, hfirst, hsecond, hrange.1, hrange.2, (Option.some.inj h).symm⟩
      · cases h
    · cases h
  · cases h

theorem strtol_inRange (long : Long) {n : Int} (h : number s = some (n, rest)) (hn : InRange n) :
    strtol long.max s = (n, rest) := by
  have hwide := long.wide
  exact Decimal.strtol_fits h (by have := hn.1; omega) (by have := hn.2; omega)

theorem pieceSize_of_sizeOf {u : Size} (h : sizeOf piece = some z) :
    pieceSize long u piece = some z := by
  obtain ⟨w, rest, n, hfirst, hsecond, hw, hn, rfl⟩ := sizeOf_some h
  have hne : piece ≠ [] := by
    rintro rfl
    cases hfirst
  have hpair := parsePair_ok_iff.mpr
    ⟨w, rest, n, strtol_inRange long hfirst hw, strtol_inRange long hsecond hn, rfl⟩
  rw [pieceSize, if_neg hne, hpair]

theorem pieceSize_of_none {u : Size} : pieceSize long u piece = none ↔ ¬Trap piece := by
  by_cases hne : piece = []
  · subst hne
    constructor
    · intro h
      cases h
    · intro h
      exact absurd (Or.inl rfl) h
  · rw [← pieceSize_iff long u hne, not_not]

variable {ps : List Text}

theorem leadingSizes_cons_some {p : Text} (h : sizeOf p = some z) :
    leadingSizes (p :: ps) = z :: leadingSizes ps := by
  simp [leadingSizes, h]

theorem leadingSizes_cons_none {p : Text} (h : sizeOf p = none) : leadingSizes (p :: ps) = [] := by
  simp [leadingSizes, h]

theorem safePieces_cons_some {p : Text} (h : sizeOf p = some z) :
    SafePieces (p :: ps) ↔ SafePieces ps := by
  constructor
  · intro hsafe before piece after heq hbefore
    apply hsafe (p :: before) piece after (by rw [heq]; rfl)
    intro q hq
    rcases List.mem_cons.mp hq with rfl | hq
    · rw [h]
      rfl
    · exact hbefore q hq
  · intro hsafe before piece after heq hbefore hnone
    cases before with
    | nil =>
      obtain rfl := (List.cons.inj heq).1
      rw [h] at hnone
      cases hnone
    | cons q before =>
      exact hsafe before piece after (List.cons.inj heq).2
        (fun r hr => hbefore r (List.mem_cons_of_mem q hr)) hnone

theorem safePieces_cons_none {p : Text} (h : sizeOf p = none) : SafePieces (p :: ps) ↔ ¬Trap p := by
  constructor
  · intro hsafe
    exact hsafe [] p ps rfl (fun _ hq => absurd hq List.not_mem_nil) h
  · intro htrap before piece after heq hbefore _
    cases before with
    | nil =>
      obtain rfl := (List.cons.inj heq).1
      exact htrap
    | cons q before =>
      obtain rfl := (List.cons.inj heq).1
      have hsome := hbefore p List.mem_cons_self
      rw [h] at hsome
      cases hsome

theorem readPieces_iff (ps : List Text) (i : Nat) : readPieces long unset i ps = leadingSizes ps ↔ SafePieces ps := by
  induction ps generalizing i with
  | nil =>
    constructor
    · intro _ before piece after heq
      exact absurd heq.symm (List.append_ne_nil_of_right_ne_nil _ (List.cons_ne_nil _ _))
    · intro _
      rfl
  | cons p ps ih =>
    rcases h : sizeOf p with _ | z
    · rw [safePieces_cons_none h, leadingSizes_cons_none h, readPieces, ← pieceSize_of_none]
      split
      · rename_i hnone
        exact ⟨fun _ => hnone, fun _ => rfl⟩
      · rename_i z hsome
        constructor
        · intro heq
          cases heq
        · intro hnone
          rw [hnone] at hsome
          cases hsome
    · rw [safePieces_cons_some h, leadingSizes_cons_some h, readPieces, pieceSize_of_sizeOf h]
      rw [← ih (i + 1)]
      exact ⟨fun heq => (List.cons.inj heq).2, fun heq => congrArg _ heq⟩

theorem inRange_toInt (n : Int32) : InRange n.toInt := ⟨Int32.le_toInt n, Int32.toInt_lt n⟩

theorem render_int32_length (n : Int32) : (render n.toInt).length ≤ 11 := by
  obtain ⟨hlow, hhigh⟩ := inRange_toInt n
  apply Decimal.render_length (by decide)
  omega

theorem sizeText_length (z : Size) : (sizeText z).length ≤ 23 := by
  have hwidth := render_int32_length z.width
  have hheight := render_int32_length z.height
  rw [sizeText, List.length_append, List.length_cons]
  omega

theorem snprintf_first (z : Size) : snprintf (sizeText z) = sizeText z := by
  have hlen := sizeText_length z
  exact List.take_of_length_le (by omega)

theorem snprintf_next (z : Size) : snprintf (',' :: sizeText z) = ',' :: sizeText z := by
  have hlen := sizeText_length z
  exact List.take_of_length_le (by rw [List.length_cons]; omega)

variable (zs : List Size)

theorem dimsString_eq : dimsString zs = [','].intercalate (zs.map sizeText) := by
  cases zs with
  | nil => rfl
  | cons z zs =>
    rw [dimsString, snprintf_first]
    induction zs generalizing z with
    | nil => simp
    | cons y zs ih =>
      rw [List.flatMap_cons, snprintf_next, List.map_cons, List.map_cons, List.intercalate_cons_cons,
        ← List.map_cons, ← ih y]
      simp

theorem comma_not_mem_sizeText (z : Size) : ',' ∉ sizeText z := by
  rw [sizeText, List.mem_append, List.mem_cons, not_or, not_or]
  exact ⟨comma_breaks.not_mem_render _, by decide, comma_breaks.not_mem_render _⟩

theorem sizeOf_sizeText (z : Size) : sizeOf (sizeText z) = some z := by
  have hfirst := Decimal.number_append x_breaks (render z.width.toInt) (render z.height.toInt)
  rw [Decimal.number_render, Option.map_some, List.nil_append] at hfirst
  have hsecond := Decimal.number_render z.height.toInt
  simp [sizeOf, sizeText, hfirst, hsecond, inRange_toInt]

theorem readPieces_sizeTexts (i : Nat) : readPieces long unset i (zs.map sizeText) = zs := by
  induction zs generalizing i with
  | nil => rfl
  | cons z zs ih => rw [List.map_cons, readPieces, pieceSize_of_sizeOf (sizeOf_sizeText z), ih]

theorem parse_dimsString (hne : zs ≠ []) :
    parseSizesList long unset (some (dimsString zs)) = zs := by
  have hsplit : (dimsString zs).splitOn ',' = zs.map sizeText := by
    rw [dimsString_eq]
    apply List.splitOn_intercalate
    · intro p hp
      obtain ⟨z, -, rfl⟩ := List.mem_map.mp hp
      exact comma_not_mem_sizeText z
    · exact fun hnil => hne (List.map_eq_nil_iff.mp hnil)
  rw [parseSizesList_pieces, hsplit, readPieces_sizeTexts]

theorem parse_nil : parseSizesList long unset (some []) = [unset 0] := parseSizesList_pieces []

theorem parse_dimsString_iff : parseSizesList long unset (some (dimsString zs)) = zs ↔ zs ≠ [] := by
  constructor
  · rintro hread rfl
    rw [dimsString, parse_nil] at hread
    cases hread
  · exact parse_dimsString zs

/-- A list is read back exactly when it is not empty, and of any text only the sizes are read exactly when
its first piece that is none is neither empty nor a pair in which a number is missing or too large. -/
theorem sizes_list_read_iff (long : Long) (unset : Nat → Size) :
    (∀ sizes, parseSizesList long unset (some (createSizesString sizes)) = sizes ↔ sizes ≠ []) ∧
      (∀ values, parseSizesList long unset (some (createHfrSizesString values)) = values.map HfrInfo.dim ↔
        values ≠ []) ∧
      ∀ s, parseSizesList long unset (some s) = listedSizes s ↔ Safe s := by
  refine ⟨parse_dimsString_iff, fun values => ?_, fun s => ?_⟩
  · rw [createHfrSizesString, parse_dimsString_iff, ne_eq, List.map_eq_nil_iff]
  · rw [parseSizesList_pieces]
    exact readPieces_iff _ 0

example (unset : Nat → Size) :
    parseSizesList ⟨2 ^ 31 - 1, Nat.le_refl _⟩ unset (some "640x480,".toList) = [⟨640, 480⟩, unset 1] := by
  rw [parseSizesList_pieces]
  rfl

/-- Nothing was written, and a size comes back that was not read from anywhere. -/
theorem empty_sizes_list_read_as_one :
    parseSizesList ⟨2 ^ 31 - 1, Nat.le_refl _⟩ (fun _ => ⟨7, 9⟩) (some (createSizesString [])) = [⟨7, 9⟩] := by
  rw [createSizesString, dimsString, parse_nil]

end Wt88047.SizesList
