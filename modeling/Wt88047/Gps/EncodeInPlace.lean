import Mathlib.Data.List.DropRight
import Mathlib.Data.List.TakeWhile
import Wt88047.Lib.FittingPrefix

/-! The parts of the user agent for XTRA: their percent-encoding in the buffer that holds them, and the serial number
of the chipset. -/

namespace Wt88047.XtraUserAgent

open FittingPrefix

def bytes (s : String) : List UInt8 := s.toList.map Char.toUInt8

def encodings : List (UInt8 × List UInt8) :=
  [(0x2f, bytes "%2F"), (0x2b, bytes "%2B"), (0x7c, bytes "%7C"), (0x25, bytes "%25")]

abbrev numCharsInCode : Nat := 3

/-- The loop, from what is left of the array on; it fails where it would read behind the array. The second list is
what the local buffer has up to `outpos`. -/
def encodeLoop (size : Nat) : List UInt8 → List UInt8 → Option (List UInt8)
  | [], _ => none
  | ch :: rest, buffer =>
    if ch ≠ 0 ∧ buffer.length < size - 1 then
      match encodings.find? (·.1 = ch) with
      | none => encodeLoop size rest (buffer ++ [ch])
      | some (_, code) =>
        if size ≤ buffer.length + numCharsInCode then some buffer
        else encodeLoop size rest (buffer ++ code.take (size - 1 - buffer.length))
    else some buffer

/-- The loop that copies back, from `outpos` down. -/
def copyBack (buffer : List UInt8) : Nat → List UInt8 → List UInt8
  | 0, value => value
  | outpos + 1, value => copyBack buffer outpos (value.set outpos (buffer.getD outpos 0))

def encodeInPlace (value : List UInt8) : Option (List UInt8) :=
  (encodeLoop value.length value []).map fun buffer => copyBack buffer buffer.length (value.set buffer.length 0)

structure Buffer where
  value : List UInt8
  size_pos : 0 < value.length

def cString (value : List UInt8) : List UInt8 := value.takeWhile (· ≠ 0)

def code (ch : UInt8) : List UInt8 :=
  match encodings.find? (·.1 = ch) with
  | none => [ch]
  | some (_, code) => code

def hexDigit (ch : UInt8) : Option UInt8 :=
  if 0x30 ≤ ch ∧ ch ≤ 0x39 then some (ch - 0x30)
  else if 0x41 ≤ ch ∧ ch ≤ 0x46 then some (ch - 0x37)
  else if 0x61 ≤ ch ∧ ch ≤ 0x66 then some (ch - 0x57)
  else none

def decode : List UInt8 → Option (List UInt8)
  | [] => some []
  | ch :: rest =>
    if ch = 0x25 then
      match rest with
      | high :: low :: rest => do
        let high ← hexDigit high
        let low ← hexDigit low
        let s ← decode rest
        return (high * 16 + low) :: s
      | _ => none
    else do
      let s ← decode rest
      return ch :: s

theorem code_cases (ch : UInt8) :
    (encodings.find? (·.1 = ch) = none ∧ ch ≠ 0x25 ∧ code ch = [ch]) ∨
      ∃ c, encodings.find? (·.1 = ch) = some (ch, c) ∧ code ch = c ∧ (ch, c) ∈ encodings := by
  cases hfind : encodings.find? (·.1 = ch) with
  | none =>
    refine Or.inl ⟨rfl, ?_, by rw [code, hfind]⟩
    rintro rfl
    cases hfind
  | some e =>
    obtain ⟨ch', c⟩ := e
    obtain rfl : ch' = ch := by simpa using List.find?_some hfind
    exact Or.inr ⟨c, rfl, by rw [code, hfind], List.mem_of_find?_eq_some hfind⟩

theorem encodings_facts : ∀ e ∈ encodings, e.2.length = numCharsInCode ∧ (0 : UInt8) ∉ e.2 := by decide

theorem decode_cons {ch : UInt8} (hne : ch ≠ 0x25) (s : List UInt8) : decode (ch :: s) = (decode s).map (ch :: ·) := by
  rw [decode.eq_def]
  dsimp only
  rw [if_neg hne]
  cases decode s <;> rfl

theorem decode_code (ch : UInt8) (s : List UInt8) : decode (code ch ++ s) = (decode s).map (ch :: ·) := by
  rcases code_cases ch with ⟨-, hne, hcode⟩ | ⟨c, -, hcode, hmem⟩
  · rw [hcode, List.singleton_append, decode_cons hne]
  · rw [hcode]
    simp only [encodings, List.mem_cons, Prod.mk.injEq, List.not_mem_nil, or_false] at hmem
    rcases hmem with ⟨rfl, rfl⟩ | ⟨rfl, rfl⟩ | ⟨rfl, rfl⟩ | ⟨rfl, rfl⟩ <;>
      · show decode (_ :: _ :: _ :: s) = _
        rw [decode]
        cases decode s <;> rfl

theorem decode_encode (s : List UInt8) : decode (encode code s) = some s := by
  induction s with
  | nil => rfl
  | cons ch s ih => rw [encode_cons, decode_code, ih, Option.map_some]

theorem not_mem_encode {s : List UInt8} (h : (0 : UInt8) ∉ s) : (0 : UInt8) ∉ encode code s := by
  rintro hmem
  obtain ⟨ch, hch, h0⟩ := List.mem_flatMap.mp hmem
  rcases code_cases ch with ⟨-, -, hcode⟩ | ⟨c, -, hcode, hc⟩
  · rw [hcode, List.mem_singleton] at h0
    exact h (h0 ▸ hch)
  · rw [hcode] at h0
    exact (encodings_facts _ hc).2 h0

theorem zero_not_mem_cString (value : List UInt8) : (0 : UInt8) ∉ cString value := fun h => by
  have hne := List.mem_takeWhile_imp h
  simp at hne

theorem encodeLoop_eq {size : Nat} (rest buffer : List UInt8) (hbuffer : buffer.length < size)
    (hrest : size ≤ buffer.length + rest.length) :
    encodeLoop size rest buffer =
      some (buffer ++ encode code (fitting code (size - 1 - buffer.length) (cString rest))) := by
  induction rest generalizing buffer with
  | nil => exact absurd hrest (by simpa using hbuffer)
  | cons ch rest ih =>
    rw [List.length_cons] at hrest
    rw [encodeLoop]
    by_cases hend : ch = 0
    · rw [if_neg fun h => h.1 hend, hend, cString, List.takeWhile_cons_of_neg (by simp), fitting_nil, encode_nil,
        List.append_nil]
    · have hstring : cString (ch :: rest) = ch :: cString rest := List.takeWhile_cons_of_pos (by simpa using hend)
      rw [hstring, fitting]
      by_cases hroom : buffer.length < size - 1
      · rw [if_pos ⟨hend, hroom⟩]
        rcases code_cases ch with ⟨hfind, -, hcode⟩ | ⟨c, hfind, hcode, hc⟩
        · rw [hfind, hcode, List.length_singleton, if_pos (by omega), encode_cons, hcode]
          have hnext := ih (buffer ++ [ch]) (by simp; omega) (by simp; omega)
          rw [List.length_append, List.length_singleton, ← Nat.sub_sub, List.append_assoc] at hnext
          exact hnext
        · have hlength : c.length = 3 := (encodings_facts _ hc).1
          rw [hfind, hcode, hlength]
          dsimp only
          by_cases hfits : size ≤ buffer.length + 3
          · rw [if_pos hfits, if_neg (by omega), encode_nil, List.append_nil]
          · have htake : c.take (size - 1 - buffer.length) = c := List.take_of_length_le (by omega)
            have hnext := ih (buffer ++ c) (by simp; omega) (by simp; omega)
            rw [List.length_append, hlength, ← Nat.sub_sub, List.append_assoc] at hnext
            rw [if_neg hfits, if_pos (by omega), encode_cons, hcode, htake]
            exact hnext
      · have hone : 0 < (code ch).length := by
          rcases code_cases ch with ⟨-, -, hcode⟩ | ⟨c, -, hcode, hc⟩
          · rw [hcode]
            exact Nat.one_pos
          · rw [hcode, (encodings_facts _ hc).1]
            decide
        rw [if_neg fun h => hroom h.2, if_neg (by omega), encode_nil, List.append_nil]

theorem copyBack_eq (buffer : List UInt8) {outpos : Nat} (hpos : outpos ≤ buffer.length) {value : List UInt8}
    (hvalue : buffer.length ≤ value.length) :
    copyBack buffer outpos value = buffer.take outpos ++ value.drop outpos := by
  induction outpos generalizing value with
  | zero => rfl
  | succ k ih =>
    have hget : buffer.getD k 0 = buffer[k] := by
      rw [List.getD_eq_getElem?_getD, List.getElem?_eq_getElem hpos, Option.getD_some]
    have hset : (value.set k buffer[k]).drop k = buffer[k] :: value.drop (k + 1) := by
      rw [List.drop_eq_getElem_cons (by simp; omega), List.getElem_set_self, List.drop_set_of_lt (Nat.lt_succ_self k)]
    rw [copyBack, ih (by omega) (by simpa using hvalue), hget, hset, ← List.take_append_getElem hpos, List.append_assoc,
      List.singleton_append]

theorem encodeInPlace_eq (b : Buffer) :
    ∃ rest, encodeInPlace b.value =
        some (encode code (fitting code (b.value.length - 1) (cString b.value)) ++ 0 :: rest) ∧
      (encode code (fitting code (b.value.length - 1) (cString b.value)) ++ 0 :: rest).length = b.value.length := by
  have hpos := b.size_pos
  have hfits := @length_encode_fitting _ _ code (b.value.length - 1) (cString b.value)
  set buffer := encode code (fitting code (b.value.length - 1) (cString b.value))
  have hloop : encodeLoop b.value.length b.value [] = some buffer := encodeLoop_eq b.value [] hpos (by simp)
  refine ⟨b.value.drop (buffer.length + 1), ?_, ?_⟩
  · have hset : (b.value.set buffer.length 0).drop buffer.length = 0 :: b.value.drop (buffer.length + 1) := by
      rw [List.drop_eq_getElem_cons (by simp; omega), List.getElem_set_self, List.drop_set_of_lt (Nat.lt_succ_self _)]
    rw [encodeInPlace, hloop, Option.map_some, copyBack_eq buffer (Nat.le_refl _) (by simp; omega), List.take_length,
      hset]
  · rw [List.length_append, List.length_cons, List.length_drop]
    omega

theorem cString_append_zero {s : List UInt8} (h : (0 : UInt8) ∉ s) (rest : List UInt8) :
    cString (s ++ 0 :: rest) = s := by
  rw [cString, List.takeWhile_append_of_pos fun ch hch => by simpa using ne_of_mem_of_not_mem hch h,
    List.takeWhile_cons_of_neg (by simp), List.append_nil]

/-- The array holds the encoding of the longest part that fits; decoding gives it back. -/
theorem encode_in_place (b : Buffer) :
    ∃ value p, encodeInPlace b.value = some value ∧ value.length = b.value.length ∧ p <+: cString b.value ∧
      cString value = encode code p ∧ (cString value).length < b.value.length ∧
      (∀ q, q <+: cString b.value → (encode code q).length < b.value.length → q <+: p) ∧
      ((encode code (cString b.value)).length < b.value.length → p = cString b.value) ∧
      decode (cString value) = some p := by
  have hpos := b.size_pos
  obtain ⟨rest, hvalue, hlength⟩ := encodeInPlace_eq b
  have hfitting := @fitting_isPrefix _ _ code (b.value.length - 1) (cString b.value)
  have hfits := @length_encode_fitting _ _ code (b.value.length - 1) (cString b.value)
  have hzero : (0 : UInt8) ∉ fitting code (b.value.length - 1) (cString b.value) := fun h =>
    zero_not_mem_cString b.value (hfitting.subset h)
  have hstring := cString_append_zero (not_mem_encode hzero) rest
  refine ⟨_, _, hvalue, hlength, hfitting, hstring, ?_, ?_, ?_, ?_⟩
  · rw [hstring]
    omega
  · intro q hq hroom
    exact fitting_longest hq (by omega)
  · intro hroom
    exact fitting_eq_self (by omega)
  · rw [hstring, decode_encode]

def isSpace (ch : UInt8) : Bool := ch = 0x20 || (9 ≤ ch && ch ≤ 13)

def strlcpy (value dflt : List UInt8) : List UInt8 :=
  let copied := dflt.take (value.length - 1)
  copied ++ 0 :: value.drop (copied.length + 1)

/-- The loop, with `len` before it is decremented. At 0 it becomes the largest `size_t`, and the array is read far
behind its end. -/
def stripLoop : Nat → List UInt8 → Option (List UInt8)
  | 0, _ => none
  | len + 1, value =>
    match value[len]? with
    | none => none
    | some ch => if isSpace ch then stripLoop len (value.set len 0) else some value

/-- What the array holds before the loop; `fread` gives the content as far as there is room. -/
def loaded (value content dflt : List UInt8) : List UInt8 :=
  let size := min (value.length - 1) content.length
  if size = 0 then strlcpy value dflt else content.take size ++ 0 :: value.drop (size + 1)

/-- `file` is the content of a file that can be opened; `dflt` is a string without its NUL. -/
def getChipsetSerialNo (value : List UInt8) (file : Option (List UInt8)) (dflt : List UInt8) : Option (List UInt8) :=
  match file with
  | none => some (strlcpy value dflt)
  | some content =>
    let value := loaded value content dflt
    stripLoop (cString value).length value

def serialText (size : Nat) (content dflt : List UInt8) : List UInt8 :=
  cString ((if min (size - 1) content.length = 0 then dflt else content).take (size - 1))

theorem cString_append_cons_zero (s rest : List UInt8) : cString (s ++ 0 :: rest) = cString s := by
  induction s with
  | nil => simp [cString]
  | cons ch s ih =>
    by_cases hch : ch = 0
    · simp [cString, hch]
    · simpa [cString, hch] using ih

theorem length_loaded (b : Buffer) (content dflt : List UInt8) :
    (loaded b.value content dflt).length = b.value.length := by
  have hpos := b.size_pos
  unfold loaded
  dsimp only
  split
  · simp [strlcpy]
    omega
  · simp
    omega

theorem cString_loaded (b : Buffer) (content dflt : List UInt8) :
    cString (loaded b.value content dflt) = serialText b.value.length content dflt := by
  unfold loaded serialText
  dsimp only
  split
  · rw [strlcpy, cString_append_cons_zero]
  · rw [cString_append_cons_zero, List.take_eq_take_min, Nat.min_assoc, Nat.min_self, ← List.take_eq_take_min]

theorem exists_append_zero {value : List UInt8} (h : 0 ∈ value) : ∃ rest, value = cString value ++ 0 :: rest := by
  induction value with
  | nil => cases h
  | cons ch value ih =>
    by_cases hch : ch = 0
    · exact ⟨value, by simp [cString, hch]⟩
    · obtain ⟨rest, hrest⟩ := ih ((List.mem_cons.mp h).resolve_left (Ne.symm hch))
      refine ⟨rest, ?_⟩
      rw [cString, List.takeWhile_cons_of_pos (by simpa using hch), List.cons_append]
      exact congrArg (ch :: ·) hrest

theorem zero_mem_loaded (b : Buffer) (content dflt : List UInt8) : 0 ∈ loaded b.value content dflt := by
  unfold loaded
  dsimp only
  split
  · simp [strlcpy]
  · simp

theorem stripLoop_eq (text rest : List UInt8) :
    (∃ ch ∈ text, isSpace ch = false) ∧
        (∃ rest', stripLoop text.length (text ++ 0 :: rest) = some (text.rdropWhile isSpace ++ 0 :: rest') ∧
          (text.rdropWhile isSpace ++ 0 :: rest').length = (text ++ 0 :: rest).length) ∨
      (∀ ch ∈ text, isSpace ch = true) ∧ stripLoop text.length (text ++ 0 :: rest) = none := by
  induction text using List.reverseRecOn generalizing rest with
  | nil => exact .inr ⟨by simp, rfl⟩
  | append_singleton text ch ih =>
    have hget : (text ++ [ch] ++ 0 :: rest)[text.length]? = some ch := by simp
    have hset : (text ++ [ch] ++ 0 :: rest).set text.length 0 = text ++ 0 :: 0 :: rest := by simp
    rw [List.length_append, List.length_singleton, stripLoop, hget]
    dsimp only
    cases hch : isSpace ch with
    | false =>
      rw [List.rdropWhile_concat_neg _ _ _ (by simp [hch])]
      exact .inl ⟨⟨ch, by simp, hch⟩, rest, rfl, rfl⟩
    | true =>
      rw [if_pos rfl, hset, List.rdropWhile_concat_pos _ _ _ hch]
      rcases ih (0 :: rest) with ⟨⟨c, hc, hblank⟩, rest', hstrip, hlength⟩ | ⟨hall, hstrip⟩
      · exact .inl ⟨⟨c, by simp [hc], hblank⟩, rest', hstrip, by simpa using hlength⟩
      · refine .inr ⟨fun c hc => ?_, hstrip⟩
        rcases List.mem_append.mp hc with hc | hc
        · exact hall c hc
        · rw [List.mem_singleton.mp hc, hch]

theorem getChipsetSerialNo_eq (b : Buffer) (content dflt : List UInt8) :
    (∃ ch ∈ serialText b.value.length content dflt, isSpace ch = false) ∧
        (∃ value, getChipsetSerialNo b.value (some content) dflt = some value ∧ value.length = b.value.length ∧
          cString value = (serialText b.value.length content dflt).rdropWhile isSpace) ∨
      (∀ ch ∈ serialText b.value.length content dflt, isSpace ch = true) ∧
        getChipsetSerialNo b.value (some content) dflt = none := by
  have hlength := length_loaded b content dflt
  have htext := cString_loaded b content dflt
  have hrun : getChipsetSerialNo b.value (some content) dflt =
      stripLoop (cString (loaded b.value content dflt)).length (loaded b.value content dflt) := rfl
  obtain ⟨rest, hrest⟩ := exists_append_zero (zero_mem_loaded b content dflt)
  rw [htext] at hrest hrun
  rw [hrun]
  rw [hrest] at hlength ⊢
  have hzero : 0 ∉ serialText b.value.length content dflt := htext ▸ zero_not_mem_cString _
  rcases stripLoop_eq (serialText b.value.length content dflt) rest with ⟨hch, rest', hstrip, hlength'⟩ | ⟨hall, hnone⟩
  · refine .inl ⟨hch, _, hstrip, hlength'.trans hlength, cString_append_zero (fun h => hzero ?_) _⟩
    exact (List.rdropWhile_prefix isSpace _).subset h
  · exact .inr ⟨hall, hnone⟩

theorem head_of_trimmed {text : List UInt8} (h : ∃ ch ∈ text, isSpace ch = false)
    (htrim : text.rdropWhile isSpace = (text.dropWhile isSpace).rdropWhile isSpace) :
    ∃ ch, text.head? = some ch ∧ isSpace ch = false := by
  have hne : text.rdropWhile isSpace ≠ [] := fun hnil => by
    obtain ⟨c, hc, hblank⟩ := h
    rw [List.rdropWhile_eq_nil_iff] at hnil
    exact Bool.false_ne_true (hblank.symm.trans (hnil c hc))
  obtain ⟨ch, rest, hrest⟩ := List.exists_cons_of_ne_nil hne
  obtain ⟨_, hleft⟩ := hrest ▸ List.rdropWhile_prefix isSpace text
  obtain ⟨_, hright⟩ := hrest ▸ htrim ▸ List.rdropWhile_prefix isSpace (text.dropWhile isSpace)
  have hfirst := List.head?_dropWhile_not isSpace text
  rw [← hright] at hfirst
  exact ⟨ch, by rw [← hleft]; rfl, hfirst⟩

theorem rdropWhile_of_head {text : List UInt8} (h : ∃ ch, text.head? = some ch ∧ isSpace ch = false) :
    (∃ ch ∈ text, isSpace ch = false) ∧ text.dropWhile isSpace = text := by
  obtain ⟨ch, hhead, hch⟩ := h
  obtain ⟨rest, rfl⟩ := List.head?_eq_some_iff.mp hhead
  exact ⟨⟨ch, List.mem_cons_self, hch⟩, List.dropWhile_cons_of_neg (by simp [hch])⟩

/-- The loop stays in the array exactly if something of the string is no blank. It takes the blanks off the end only:
both ends are without them exactly if the string begins with none. -/
theorem serial_number_trimmed (b : Buffer) (content dflt : List UInt8) :
    ((∃ value, getChipsetSerialNo b.value (some content) dflt = some value ∧ value.length = b.value.length ∧
        cString value = (serialText b.value.length content dflt).rdropWhile isSpace) ↔
      ∃ ch ∈ serialText b.value.length content dflt, isSpace ch = false) ∧
    ((∃ value, getChipsetSerialNo b.value (some content) dflt = some value ∧ value.length = b.value.length ∧
        cString value = ((serialText b.value.length content dflt).dropWhile isSpace).rdropWhile isSpace) ↔
      ∃ ch, (serialText b.value.length content dflt).head? = some ch ∧ isSpace ch = false) := by
  rcases getChipsetSerialNo_eq b content dflt with ⟨hch, value, hrun, hlength, hstring⟩ | ⟨hall, hrun⟩
  · refine ⟨⟨fun _ => hch, fun _ => ⟨value, hrun, hlength, hstring⟩⟩, fun h => ?_, fun h => ?_⟩
    · obtain ⟨value', hrun', -, hstring'⟩ := h
      obtain rfl : value = value' := Option.some.inj (hrun.symm.trans hrun')
      exact head_of_trimmed hch (hstring.symm.trans hstring')
    · exact ⟨value, hrun, hlength, by rw [(rdropWhile_of_head h).2, hstring]⟩
  · have hblank : ¬ ∃ ch ∈ serialText b.value.length content dflt, isSpace ch = false := by
      rintro ⟨ch, hch, hfalse⟩
      exact Bool.false_ne_true (hfalse.symm.trans (hall ch hch))
    rw [hrun]
    refine ⟨⟨fun h => ?_, fun h => absurd h hblank⟩, fun h => ?_, fun h => absurd (rdropWhile_of_head h).1 hblank⟩
    · obtain ⟨_, h, -⟩ := h
      cases h
    · obtain ⟨_, h, -⟩ := h
      cases h

/-- A file of one line feed. -/
theorem blank_serial_number_not_left :
    getChipsetSerialNo (List.replicate 64 0x61) (some [0x0a]) (bytes "-") = none := rfl

end Wt88047.XtraUserAgent
