import Wt88047.Gps.LocCfg

/-! What `calibrate` of the accelerometer and of the proximity sensor make of the driver's reply. -/

namespace Wt88047.Calibrate

open LocCfg (Text isSpace cString strtok digitValue takeSign dropHex)

abbrev array : Nat := 3

abbrev length : Nat := 33

def baseOf : Text → Nat
  | '0' :: 'x' :: c :: _ | '0' :: 'X' :: c :: _ => if digitValue c < 16 then 16 else 8
  | '0' :: _ => 8
  | _ => 10

def numberOf (s : Text) : Option Int :=
  let (negative, s) := takeSign (s.dropWhile isSpace)
  let base := baseOf s
  let digits := (if base = 16 then dropHex s else s).takeWhile fun c => digitValue c < base
  let n : Nat := digits.foldl (fun n c => n * base + digitValue c) 0
  if digits = [] then none else some (if negative then -n else n)

def InRange (n : Int) : Prop := -2 ^ 31 ≤ n ∧ n < 2 ^ 31

/-- `strtol` of base 0, as an `int`, with whether `endptr` has moved on. -/
def strtol (s : Text) : Int32 × Bool :=
  match numberOf s with
  | none => (0, false)
  | some n => (Int32.ofInt (min (max n (-2 ^ 31)) (2 ^ 31 - 1)), true)

/-- What comes of the calibration node: whether it opens, whether the command can be written, and what
`read` gives, if it does not fail. -/
structure Node where
  opened : Bool
  written : Bool
  reply : Option Text

def tokens (bytes : Text) : List Text := strtok ',' (cString (bytes.take (array * length - 1)))

/-- The loop over the tokens, from index `i` of `temp` on; a token that is too long ends it. -/
def storeTokens : Nat → List Text → (Nat → Text) → Option (Nat → Text)
  | _, [], temp => some temp
  | i, token :: rest, temp =>
    if i < array then
      if length - 1 < token.length then none
      else storeTokens (i + 1) rest (Function.update temp i token)
    else some temp

def convertTokens (temp : Nat → Text) : List Nat → (Nat → Int32) → Int × (Nat → Int32)
  | [], offset => (0, offset)
  | i :: is, offset =>
    let value := strtol (temp i)
    let offset := Function.update offset i value.1
    if value.2 then convertTokens temp is offset else (-1, offset)

/-- `AccelSensor::calibrate`, with what the array `temp` held before, and the result. It does not look
whether the command was written. -/
def accelCalibrate (node : Node) (temp : Nat → Text) (offset : Nat → Int32) : Int × (Nat → Int32) :=
  match if node.opened then node.reply else none with
  | none => (-1, offset)
  | some bytes =>
    match storeTokens 0 (tokens bytes) temp with
    | none => (-1, offset)
    | some temp => convertTokens temp (List.range array) offset

/-- The index of an axis of the proximity sensor: `AXIS_THRESHOLD_H`, `AXIS_THRESHOLD_L` and
`AXIS_BIAS`. -/
def axisIndex (axis : Int) : Option Nat :=
  if axis = 0 then some 0 else if axis = 1 then some 1 else if axis = 2 then some 2 else none

/-- `ProximitySensor::calibrate`, with `mThreshold_h`, `mThreshold_l` and `mBias` as `member`, and
what `temp` held before; it gives the members and, when it succeeds, copies them into the result. -/
def proximityCalibrate (axis : Int) (node : Node) (temp : Nat → Text) (member result : Nat → Int32) :
    Int × (Nat → Int32) × (Nat → Int32) :=
  match if node.opened && node.written then node.reply else none with
  | none => (-1, member, result)
  | some bytes =>
    match storeTokens 0 (tokens bytes) temp with
    | none => (-1, member, result)
    | some temp =>
      match axisIndex axis with
      | none => (0, member, member)
      | some i =>
        let value := strtol (temp i)
        let member := Function.update member i value.1
        if value.2 then (0, member, member) else (-1, member, result)

def number (reply : Option Text) (i : Nat) : Option Int :=
  reply.bind fun bytes => (tokens bytes)[i]?.bind numberOf

def Parsed (reply : Option Text) (i : Nat) (before after : Int32) : Prop :=
  after = before ∨ number reply i = some after.toInt

/-- 0 is returned only when the reply has all the numbers, which are then in the result; a field that
changes is always the number of its token. -/
def AccelParses (node : Node) : Prop :=
  ∀ temp offset, let r := accelCalibrate node temp offset
    (r.1 = 0 → ∀ i < array, number node.reply i = some (r.2 i).toInt) ∧
    ∀ i < array, Parsed node.reply i (offset i) (r.2 i)

def ProximityParses (axis : Int) (node : Node) : Prop :=
  ∀ temp member result, let r := proximityCalibrate axis node temp member result
    (r.1 = 0 → (∀ i ∈ axisIndex axis, number node.reply i = some (r.2.2 i).toInt) ∧ r.2.2 = r.2.1) ∧
    (r.1 ≠ 0 → r.2.2 = result) ∧
    ∀ i < array, Parsed node.reply i (member i) (r.2.1 i)

def TooLong (reply : Option Text) : Prop :=
  ∃ bytes ∈ reply, ∃ token ∈ (tokens bytes).take array, length ≤ token.length

def HasNumber (reply : Option Text) (i : Nat) : Prop := ∃ n, number reply i = some n ∧ InRange n

/-- The reply is not converted, or it has all three numbers. -/
def AccelFits (node : Node) : Prop :=
  node.opened = false ∨ node.reply = none ∨ TooLong node.reply ∨
    ∀ i < array, HasNumber node.reply i

/-- The reply is not converted, or it has the number for the axis. -/
def ProximityFits (axis : Int) (node : Node) : Prop :=
  node.opened = false ∨ node.written = false ∨ node.reply = none ∨ TooLong node.reply ∨
    ∀ i ∈ axisIndex axis, HasNumber node.reply i

theorem clamp_eq_iff (n : Int) :
    (Int32.ofInt (min (max n (-2 ^ 31)) (2 ^ 31 - 1))).toInt = n ↔ InRange n := by
  rw [Int32.toInt_ofInt_of_le (by omega) (by omega), InRange]
  omega

theorem strtol_eq (s : Text) : strtol s =
    match numberOf s with
    | none => (0, false)
    | some n => (Int32.ofInt (min (max n (-2 ^ 31)) (2 ^ 31 - 1)), true) := rfl

theorem strtol_some {s : Text} {n : Int} (h : numberOf s = some n) :
    strtol s = (Int32.ofInt (min (max n (-2 ^ 31)) (2 ^ 31 - 1)), true) := by rw [strtol_eq, h]

theorem strtol_iff {s : Text} {n : Int} (h : numberOf s = some n) :
    numberOf s = some (strtol s).1.toInt ↔ InRange n := by
  rw [strtol_some h, h, Option.some.injEq, eq_comm, clamp_eq_iff]

theorem storeTokens_cons (i : Nat) (token : Text) (rest : List Text) (temp : Nat → Text) :
    storeTokens i (token :: rest) temp =
      if i < array then
        if length - 1 < token.length then none
        else storeTokens (i + 1) rest (Function.update temp i token)
      else some temp := rfl

theorem storeTokens_spec (ts : List Text) (i : Nat) (temp : Nat → Text) :
    ((∃ token ∈ ts.take (array - i), length ≤ token.length) → storeTokens i ts temp = none) ∧
    ((¬∃ token ∈ ts.take (array - i), length ≤ token.length) → ∃ temp',
      storeTokens i ts temp = some temp' ∧
        ∀ k, temp' k = if i ≤ k ∧ k < array then ts.getD (k - i) (temp k) else temp k) := by
  induction ts generalizing i temp with
  | nil =>
    refine ⟨fun ⟨token, ht, _⟩ => absurd ht (by simp), fun _ => ⟨temp, rfl, fun k => ?_⟩⟩
    rw [List.getD_nil, ite_self]
  | cons t ts ih =>
    rw [storeTokens_cons]
    by_cases hi : i < array
    · obtain ⟨m, hm⟩ : ∃ m, array - i = m + 1 := ⟨array - i - 1, by omega⟩
      have hrest : array - (i + 1) = m := by omega
      have hih := ih (i + 1) (Function.update temp i t)
      rw [hrest] at hih
      rw [if_pos hi, hm, List.take_succ_cons]
      simp only [List.exists_mem_cons_iff]
      by_cases hlong : length ≤ t.length
      · rw [if_pos ((show length - 1 < length by decide).trans_le hlong)]
        exact ⟨fun _ => rfl, fun h => absurd (Or.inl hlong) h⟩
      · rw [if_neg (show ¬length - 1 < t.length from fun hlt => hlong (Nat.le_of_pred_lt hlt))]
        refine ⟨fun h => hih.1 (h.resolve_left hlong), fun h => ?_⟩
        obtain ⟨temp', htemp, hcells⟩ := hih.2 fun he => h (Or.inr he)
        refine ⟨temp', htemp, fun k => ?_⟩
        rw [hcells]
        rcases Nat.lt_trichotomy k i with hlt | rfl | hgt
        · rw [if_neg (by omega), if_neg (by omega), Function.update_of_ne (by omega)]
        · rw [if_neg (by omega), if_pos (by omega), Function.update_self, Nat.sub_self, List.getD_cons_zero]
        · rw [Function.update_of_ne (by omega)]
          by_cases hk : k < array
          · rw [if_pos (by omega), if_pos (by omega), show k - i = k - (i + 1) + 1 by omega,
              List.getD_cons_succ]
          · rw [if_neg (by omega), if_neg (by omega)]
    · rw [if_neg hi, show array - i = 0 by omega, List.take_zero]
      refine ⟨fun ⟨token, ht, _⟩ => absurd ht (List.not_mem_nil), fun _ => ⟨temp, rfl, fun k => ?_⟩⟩
      rw [if_neg (by omega)]

variable {bytes : Text}

theorem storeTokens_fits (h : ¬TooLong (some bytes)) (temp : Nat → Text) : ∃ temp',
    storeTokens 0 (tokens bytes) temp = some temp' ∧
      ∀ k < array, temp' k = (tokens bytes).getD k (temp k) := by
  have hshort : ¬∃ token ∈ (tokens bytes).take (array - 0), length ≤ token.length :=
    fun he => h ⟨bytes, rfl, he⟩
  obtain ⟨temp', htemp, hcells⟩ := (storeTokens_spec (tokens bytes) 0 temp).2 hshort
  exact ⟨temp', htemp, fun k hk => by rw [hcells, if_pos ⟨Nat.zero_le k, hk⟩, Nat.sub_zero]⟩

theorem storeTokens_tooLong (h : TooLong (some bytes)) (temp : Nat → Text) :
    storeTokens 0 (tokens bytes) temp = none := by
  obtain ⟨b, hb, he⟩ := h
  obtain rfl := Option.some.inj hb
  exact (storeTokens_spec (tokens bytes) 0 temp).1 he

theorem number_some (bytes : Text) (i : Nat) :
    number (some bytes) i = (tokens bytes)[i]?.bind numberOf := rfl

variable {i : Nat}

theorem number_of_token {token : Text} (h : (tokens bytes)[i]? = some token) :
    number (some bytes) i = numberOf token := by
  rw [number_some, h, Option.bind_some]

theorem number_of_none (h : (tokens bytes)[i]? = none) : number (some bytes) i = none := by
  rw [number_some, h, Option.bind_none]

theorem stored_iff :
    (∀ (junk : Text) (before : Int32),
      Parsed (some bytes) i before (strtol ((tokens bytes).getD i junk)).1) ↔ HasNumber (some bytes) i := by
  constructor
  · intro h
    cases ht : (tokens bytes)[i]? with
    | none =>
      -- the memory may hold any number
      have hjunk := h ['7'] 0
      rw [List.getD_eq_getElem?_getD, ht, Option.getD_none, Parsed, number_of_none ht] at hjunk
      rcases hjunk with hsame | hnone
      · have hseven : numberOf ['7'] = some 7 := rfl
        rw [strtol_some hseven] at hsame
        exact absurd hsame (by decide)
      · cases hnone
    | some token =>
      have hnumber : numberOf token = some (strtol token).1.toInt := by
        -- it cannot be what was there before in both cases
        have hzero := h [] 0
        have hone := h [] 1
        rw [List.getD_eq_getElem?_getD, ht, Option.getD_some, Parsed, number_of_token ht] at hzero hone
        rcases hzero with hzero | hnumber
        · rcases hone with hone | hnumber
          · exact absurd (hzero.symm.trans hone) (by decide)
          · exact hnumber
        · exact hnumber
      cases hn : numberOf token with
      | none =>
        rw [hn] at hnumber
        cases hnumber
      | some n => exact ⟨n, (number_of_token ht).trans hn, (strtol_iff hn).mp hnumber⟩
  · rintro ⟨n, hn, hrange⟩ junk before
    cases ht : (tokens bytes)[i]? with
    | none =>
      rw [number_of_none ht] at hn
      cases hn
    | some token =>
      rw [number_of_token ht] at hn
      refine Or.inr ?_
      rw [List.getD_eq_getElem?_getD, ht, Option.getD_some, number_of_token ht]
      exact (strtol_iff hn).mpr hrange

theorem HasNumber.converts (h : HasNumber (some bytes) i) (junk : Text) :
    (strtol ((tokens bytes).getD i junk)).2 = true ∧
      number (some bytes) i = some (strtol ((tokens bytes).getD i junk)).1.toInt := by
  obtain ⟨n, hn, hrange⟩ := h
  cases ht : (tokens bytes)[i]? with
  | none =>
    rw [number_of_none ht] at hn
    cases hn
  | some token =>
    rw [number_of_token ht] at hn ⊢
    rw [List.getD_eq_getElem?_getD, ht, Option.getD_some]
    exact ⟨by rw [strtol_some hn], (strtol_iff hn).mpr hrange⟩

theorem convertTokens_cons (temp : Nat → Text) (i : Nat) (is : List Nat) (offset : Nat → Int32) :
    convertTokens temp (i :: is) offset =
      if (strtol (temp i)).2 then convertTokens temp is (Function.update offset i (strtol (temp i)).1)
      else (-1, Function.update offset i (strtol (temp i)).1) := rfl

variable {temp : Nat → Text}

theorem convertTokens_other {is : List Nat} {j : Nat} (hj : j ∉ is) (offset : Nat → Int32) :
    (convertTokens temp is offset).2 j = offset j := by
  induction is generalizing offset with
  | nil => rfl
  | cons i is ih =>
    have hne : j ≠ i := fun he => hj (he ▸ List.mem_cons_self ..)
    rw [convertTokens_cons]
    split
    · rw [ih fun hm => hj (List.mem_cons_of_mem _ hm), Function.update_of_ne hne]
    · exact Function.update_of_ne hne ..

theorem convertTokens_stored {post : List Nat} (hi : i ∉ post) (pre : List Nat)
    (hpre : ∀ j ∈ pre, (strtol (temp j)).2 = true) (offset : Nat → Int32) :
    (convertTokens temp (pre ++ i :: post) offset).2 i = (strtol (temp i)).1 := by
  induction pre generalizing offset with
  | nil =>
    rw [List.nil_append, convertTokens_cons]
    split
    · rw [convertTokens_other hi, Function.update_self]
    · exact Function.update_self ..
  | cons j pre ih =>
    rw [List.cons_append, convertTokens_cons, if_pos (hpre j (List.mem_cons_self ..))]
    exact ih (fun k hk => hpre k (List.mem_cons_of_mem _ hk)) _

variable {node : Node}

theorem accelCalibrate_none (h : (if node.opened then node.reply else none) = none)
    (temp : Nat → Text) (offset : Nat → Int32) :
    accelCalibrate node temp offset = (-1, offset) := by
  rw [accelCalibrate, h]

theorem accelCalibrate_reply (hopen : node.opened = true) (hreply : node.reply = some bytes)
    (temp : Nat → Text) (offset : Nat → Int32) :
    accelCalibrate node temp offset =
      match storeTokens 0 (tokens bytes) temp with
      | none => (-1, offset)
      | some temp => convertTokens temp [0, 1, 2] offset := by
  rw [accelCalibrate, if_pos hopen, hreply]
  rfl

theorem AccelParses.numbers (hopen : node.opened = true) (hreply : node.reply = some bytes)
    (hfits : ¬TooLong (some bytes)) (h : AccelParses node) :
    ∀ i < array, HasNumber (some bytes) i := by
  have hstep : ∀ (i : Nat) (pre post : List Nat), [0, 1, 2] = pre ++ i :: post → i < array → i ∉ post →
      (∀ j ∈ pre, j < array ∧ HasNumber (some bytes) j) → HasNumber (some bytes) i := by
    intro i pre post hlist hi hpost hpre
    apply stored_iff.mp
    intro junk before
    obtain ⟨temp', htemp, hcells⟩ := storeTokens_fits hfits fun _ => junk
    have hparsed := (h (fun _ => junk) fun _ => before).2 i hi
    rw [accelCalibrate_reply hopen hreply, htemp, hreply] at hparsed
    dsimp only at hparsed
    rw [hlist, convertTokens_stored hpost pre, hcells i hi] at hparsed
    · exact hparsed
    · intro j hj
      rw [hcells j (hpre j hj).1]
      exact ((hpre j hj).2.converts junk).1
  have h0 := hstep 0 [] [1, 2] rfl (by decide) (by decide) fun j hj => absurd hj List.not_mem_nil
  have h1 := hstep 1 [0] [2] rfl (by decide) (by decide) fun j hj => by
    rw [List.mem_singleton.mp hj]
    exact ⟨by decide, h0⟩
  have h2 := hstep 2 [0, 1] [] rfl (by decide) (by decide) fun j hj => by
    rcases List.mem_cons.mp hj with rfl | hj
    · exact ⟨by decide, h0⟩
    · rw [List.mem_singleton.mp hj]
      exact ⟨by decide, h1⟩
  intro i hi
  have hcases : i = 0 ∨ i = 1 ∨ i = 2 := by
    have hlt : i < 3 := hi
    omega
  rcases hcases with rfl | rfl | rfl
  · exact h0
  · exact h1
  · exact h2

theorem accelCalibrate_numbers (hopen : node.opened = true) (hreply : node.reply = some bytes)
    (hfits : ¬TooLong (some bytes)) (h : ∀ i < array, HasNumber (some bytes) i) (temp : Nat → Text)
    (offset : Nat → Int32) :
    ∀ i < array, number (some bytes) i = some ((accelCalibrate node temp offset).2 i).toInt := by
  obtain ⟨temp', htemp, hcells⟩ := storeTokens_fits hfits temp
  rw [accelCalibrate_reply hopen hreply, htemp]
  dsimp only
  have hconverts : ∀ j < array, (strtol (temp' j)).2 = true ∧
      number (some bytes) j = some (strtol (temp' j)).1.toInt := by
    intro j hj
    rw [hcells j hj]
    exact (h j hj).converts (temp j)
  have hstored : ∀ (i : Nat) (pre post : List Nat), [0, 1, 2] = pre ++ i :: post → i < array →
      i ∉ post → (∀ j ∈ pre, j < array) →
      number (some bytes) i = some ((convertTokens temp' [0, 1, 2] offset).2 i).toInt := by
    intro i pre post hlist hi hpost hpre
    rw [hlist, convertTokens_stored hpost pre fun j hj => (hconverts j (hpre j hj)).1]
    exact (hconverts i hi).2
  intro i hi
  have hcases : i = 0 ∨ i = 1 ∨ i = 2 := by
    have hlt : i < 3 := hi
    omega
  rcases hcases with rfl | rfl | rfl
  · exact hstored 0 [] [1, 2] rfl hi (by decide) (by decide)
  · exact hstored 1 [0] [2] rfl hi (by decide) (by decide)
  · exact hstored 2 [0, 1] [] rfl hi (by decide) (by decide)

theorem failure_ne : ¬((-1 : Int) = 0) := by decide

theorem accelParses_iff (node : Node) : AccelParses node ↔ AccelFits node := by
  cases hopen : node.opened with
  | false =>
    refine ⟨fun _ => Or.inl hopen, fun _ temp offset => ?_⟩
    rw [accelCalibrate_none (if_neg (Bool.eq_false_iff.mp hopen))]
    exact ⟨fun h => absurd h failure_ne, fun i _ => Or.inl rfl⟩
  | true =>
    cases hreply : node.reply with
    | none =>
      refine ⟨fun _ => Or.inr (Or.inl hreply), fun _ temp offset => ?_⟩
      rw [accelCalibrate_none ((if_pos hopen).trans hreply)]
      exact ⟨fun h => absurd h failure_ne, fun i _ => Or.inl rfl⟩
    | some bytes =>
      rw [AccelFits, hopen, hreply]
      simp only [Bool.true_eq_false, reduceCtorEq, false_or]
      by_cases hlong : TooLong (some bytes)
      · refine ⟨fun _ => Or.inl hlong, fun _ temp offset => ?_⟩
        rw [accelCalibrate_reply hopen hreply, storeTokens_tooLong hlong]
        exact ⟨fun h => absurd h failure_ne, fun i _ => Or.inl rfl⟩
      · constructor
        · exact fun h => Or.inr (h.numbers hopen hreply hlong)
        · intro h temp offset
          have hnumbers := accelCalibrate_numbers hopen hreply hlong (h.resolve_left hlong) temp offset
          rw [hreply]
          exact ⟨fun _ => hnumbers, fun i hi => Or.inr (hnumbers i hi)⟩

theorem axisIndex_lt {axis : Int} (h : axisIndex axis = some i) : i < array := by
  rw [axisIndex] at h
  split_ifs at h
  all_goals
    obtain rfl := Option.some.inj h
    decide

theorem proximityCalibrate_reply {axis : Int} (hopen : node.opened = true)
    (hwritten : node.written = true) (hreply : node.reply = some bytes) (temp : Nat → Text)
    (member result : Nat → Int32) : proximityCalibrate axis node temp member result =
      match storeTokens 0 (tokens bytes) temp with
      | none => (-1, member, result)
      | some temp =>
        match axisIndex axis with
        | none => (0, member, member)
        | some i =>
          if (strtol (temp i)).2 then
            (0, Function.update member i (strtol (temp i)).1, Function.update member i (strtol (temp i)).1)
          else (-1, Function.update member i (strtol (temp i)).1, result) := by
  rw [proximityCalibrate, hopen, hwritten, hreply]
  rfl

theorem proximityParses_iff (axis : Int) (node : Node) :
    ProximityParses axis node ↔ ProximityFits axis node := by
  by_cases hgo : node.opened = true ∧ node.written = true ∧ node.reply ≠ none
  · obtain ⟨hopen, hwritten, hsome⟩ := hgo
    obtain ⟨bytes, hreply⟩ := Option.ne_none_iff_exists'.mp hsome
    rw [ProximityFits, hopen, hwritten, hreply]
    simp only [Bool.true_eq_false, reduceCtorEq, false_or]
    by_cases hlong : TooLong (some bytes)
    · refine ⟨fun _ => Or.inl hlong, fun _ temp member result => ?_⟩
      rw [proximityCalibrate_reply hopen hwritten hreply, storeTokens_tooLong hlong]
      exact ⟨fun h => absurd h failure_ne, fun _ => rfl, fun i _ => Or.inl rfl⟩
    · cases haxis : axisIndex axis with
      | none =>
        refine ⟨fun _ => Or.inr fun i hi => (nomatch hi), fun _ temp member result => ?_⟩
        obtain ⟨temp', htemp, -⟩ := storeTokens_fits hlong temp
        rw [proximityCalibrate_reply hopen hwritten hreply, htemp, haxis]
        exact ⟨fun _ => ⟨fun i hi => (nomatch hi), rfl⟩, fun h => absurd rfl h, fun i _ => Or.inl rfl⟩
      | some i =>
        have hi := axisIndex_lt haxis
        simp only [Option.mem_def, Option.some.injEq, forall_eq', hlong, false_or]
        constructor
        · intro h
          apply stored_iff.mp
          intro junk before
          obtain ⟨temp', htemp, hcells⟩ := storeTokens_fits hlong fun _ => junk
          have hparsed := (h (fun _ => junk) (fun _ => before) fun _ => 0).2.2 i hi
          rw [proximityCalibrate_reply hopen hwritten hreply, htemp, haxis, hreply] at hparsed
          dsimp only at hparsed
          rw [← hcells i hi]
          split at hparsed
          all_goals
            dsimp only at hparsed
            rwa [Function.update_self] at hparsed
        · intro h temp member result
          obtain ⟨temp', htemp, hcells⟩ := storeTokens_fits hlong temp
          obtain ⟨hconverts, hnumber⟩ := h.converts (temp i)
          rw [← hcells i hi] at hconverts hnumber
          rw [proximityCalibrate_reply hopen hwritten hreply, htemp, haxis, hreply]
          dsimp only
          rw [if_pos hconverts]
          dsimp only
          refine ⟨fun _ => ⟨fun j hj => ?_, rfl⟩, fun h => absurd rfl h, fun j _ => ?_⟩
          · obtain rfl := Option.some.inj hj
            rw [Function.update_self]
            exact hnumber
          · by_cases he : j = i
            · subst he
              rw [Function.update_self]
              exact Or.inr hnumber
            · rw [Function.update_of_ne he]
              exact Or.inl rfl
  · have hfits : ProximityFits axis node := by
      by_cases hopen : node.opened = true
      · by_cases hwritten : node.written = true
        · exact Or.inr (Or.inr (Or.inl (not_not.mp fun hr => hgo ⟨hopen, hwritten, hr⟩)))
        · exact Or.inr (Or.inl (Bool.eq_false_iff.mpr hwritten))
      · exact Or.inl (Bool.eq_false_iff.mpr hopen)
    refine ⟨fun _ => hfits, fun _ temp member result => ?_⟩
    have hnone : (if (node.opened && node.written) = true then node.reply else none) = none := by
      split
      · rename_i hboth
        rw [Bool.and_eq_true] at hboth
        exact not_not.mp fun hr => hgo ⟨hboth.1, hboth.2, hr⟩
      · rfl
    rw [proximityCalibrate, hnone]
    exact ⟨fun h => absurd h failure_ne, fun _ => rfl, fun i _ => Or.inl rfl⟩

/-- The two functions parse the reply as they should exactly if it is not converted at all or has the
numbers that are needed. -/
theorem calibrate_parses_iff (node : Node) : (AccelParses node ↔ AccelFits node) ∧
    ∀ axis, ProximityParses axis node ↔ ProximityFits axis node :=
  ⟨accelParses_iff node, fun axis => proximityParses_iff axis node⟩

/-- With a reply of one number and two more left in the memory the result has all three. -/
theorem numbers_from_memory :
    ¬∀ node, AccelParses node ∧ ∀ axis, ProximityParses axis node := by
  intro hall
  have hparses := (hall ⟨true, true, some ['5']⟩).1 (fun _ => ['7']) fun _ => 0
  have hresult : (accelCalibrate ⟨true, true, some ['5']⟩ (fun _ => ['7']) fun _ => 0).1 = 0 ∧
      number (some ['5']) 1 = none := ⟨rfl, rfl⟩
  have hnumber := hparses.1 hresult.1 1 (by decide)
  rw [hresult.2] at hnumber
  cases hnumber

end Wt88047.Calibrate
