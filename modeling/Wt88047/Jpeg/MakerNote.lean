import Wt88047.Lib.Bytes

/-! The exif entries that the 3A data of a picture become: a maker note with the words of auto
exposure, white balance and focus, whichever of them are there. -/

namespace Jpeg.Exif

open Bytes (bytes)

abbrev maxExifTableEntries : Nat := 50

abbrev aaaExifBufSize : Nat := 10

abbrev aeExifSize : Nat := 2

abbrev awbExifSize : Nat := 4

abbrev afExifSize : Nat := 2

def lower (a : Nat) : Nat := a &&& 0xFFFF

def upper (a : Nat) : Nat := a >>> 16 &&& 0xFFFF

def changeEndian16 (a : Nat) : Nat := (0x00FF &&& a >>> 8 ||| 0xFF00 &&& a <<< 8) % 2 ^ 16

inductive ExifType where
  | byte
  | ascii
  | short
  | long
  | rational
  | undefined
  | slong
  | srational
deriving DecidableEq

def ExifType.size : ExifType → Nat
  | .byte | .ascii | .undefined => 1
  | .short => 2
  | .long | .slong => 4
  | .rational | .srational => 8

inductive ExifTag where
  | exposureTime
  | shutterSpeed
  | isoSpeedRating
  | gainControl
  | exposureIndex
  | meteringMode
  | exposureProgram
  | exposureMode
  | sceneType
  | brightness
  | exifMakerNote
  | other (id : Nat)
deriving DecidableEq

/-- An entry of `exif_data`; without `data` its pointer was not set. -/
structure Entry where
  tagId : ExifTag
  type : ExifType
  count : Nat
  copy : Nat
  data : Option (List UInt8)
deriving DecidableEq

/-- The arguments of `addExifEntry` but the table, with the memory that `data` points to. -/
structure Request where
  tagId : ExifTag
  type : ExifType
  count : Nat
  data : List UInt8

/-- The copy that is made: one value is kept in the entry, several are allocated, a text (with a NUL)
and bytes of no type always are. -/
def Request.stored (r : Request) (alloc : Bool) : Option (List UInt8) :=
  match r.type with
  | .ascii => if alloc then some (r.data.take r.count ++ [0]) else none
  | .undefined => if alloc then some (r.data.take r.count) else none
  | type =>
    if 1 < r.count then if alloc then some (r.data.take (r.count * type.size)) else none
    else some (r.data.take type.size)

/-- `addExifEntry`, whose `malloc` succeeds or not. The entry counts also when it fails. -/
def addExifEntry (alloc : Bool) (info : List Entry) (r : Request) : Int × List Entry :=
  if maxExifTableEntries ≤ info.length then (-1, info)
  else
    (if (r.stored alloc).isSome then 0 else -1,
      info ++ [{ tagId := r.tagId, type := r.type, count := r.count, copy := 1, data := r.stored alloc }])

structure Floats (F : Type) where
  /-- `0.0f >= exp_time` -/
  notPositive : F → Bool
  /-- `exp_time > 0` -/
  positive : F → Bool
  /-- `ROUND(1.0/exp_time)` -/
  reciprocal : F → UInt32
  /-- `(int32_t)(log10(1/exp_time)/log10(2) * 1000.0f)` -/
  shutterSpeed : F → Int32
  /-- `(short) real_gain` -/
  toShort : F → Int16
  /-- `brightness*100` -/
  hundredfold : F → Int32

structure AeParams (F : Type) where
  expTime : F
  realGain : F
  isoValue : Int32
  expIndex : UInt32
  lineCount : UInt32
  meteringMode : UInt32
  exposureProgram : UInt32
  exposureMode : UInt32
  scenetype : UInt32
  brightness : F

structure AwbParams where
  cctValue : Int32
  decision : Int32

structure AutoFocusData where
  focusPos : Int32

variable {F : Type}

def rat (tag : ExifTag) (num denom : UInt32) : Request :=
  { tagId := tag, type := .rational, count := 1, data := bytes 4 num.toNat ++ bytes 4 denom.toNat }

def srat (tag : ExifTag) (num denom : Int32) : Request :=
  { tagId := tag, type := .srational, count := 1
    data := bytes 4 num.toUInt32.toNat ++ bytes 4 denom.toUInt32.toNat }

def short (tag : ExifTag) (value : Nat) : Request :=
  { tagId := tag, type := .short, count := 1, data := bytes 2 value }

def aeEntries (fl : Floats F) (p : AeParams F) : List Request :=
  [if fl.notPositive p.expTime then rat .exposureTime 0 0
    else rat .exposureTime 1 (fl.reciprocal p.expTime),
   if fl.positive p.expTime then srat .shutterSpeed (fl.shutterSpeed p.expTime) 1000
    else srat .shutterSpeed 0 0,
   short .isoSpeedRating p.isoValue.toUInt32.toNat,
   short .gainControl (fl.toShort p.realGain).toUInt16.toNat,
   rat .exposureIndex p.expIndex 1,
   short .meteringMode p.meteringMode.toNat,
   short .exposureProgram p.exposureProgram.toNat,
   short .exposureMode p.exposureMode.toNat,
   { tagId := .sceneType, type := .undefined, count := 1, data := bytes 1 p.scenetype.toNat },
   srat .brightness (fl.hundredfold p.brightness) 100]

structure AaaBuff where
  words : List Nat
  cnt : Nat

def AaaBuff.skip (b : AaaBuff) (n : Nat) : AaaBuff := { b with cnt := b.cnt + n }

/-- `aaa_exif_buff[exif_byte_cnt] = CHANGE_ENDIAN_16(word)` -/
def AaaBuff.put (b : AaaBuff) (word : Nat) : AaaBuff :=
  { b with words := b.words.set b.cnt (changeEndian16 word) }

def aaaBuff (ae : Option (AeParams F)) (awb : Option AwbParams) (af : Option AutoFocusData) : AaaBuff :=
  let b : AaaBuff := { words := List.replicate aaaExifBufSize 0, cnt := 0 }
  let b := match ae with
    | none => b.skip aeExifSize
    | some p => ((((b.put (lower p.lineCount.toNat)).skip 1).put (upper p.lineCount.toNat)).skip 1)
  let b := match awb with
    | none => b.skip awbExifSize
    | some p =>
      let b := (((b.put (lower p.cctValue.toUInt32.toNat)).skip 1).put (upper p.cctValue.toUInt32.toNat)).skip 1
      (((b.put (lower p.decision.toUInt32.toNat)).skip 1).put (upper p.decision.toUInt32.toNat)).skip 1
  match af with
  | none => b.skip afExifSize
  -- the count is not advanced behind the last word
  | some p => ((b.put (lower p.focusPos.toUInt32.toNat)).skip 1).put (upper p.focusPos.toUInt32.toNat)

def makerNote (b : AaaBuff) : Request :=
  { tagId := .exifMakerNote, type := .undefined, count := b.cnt * 2, data := b.words.flatMap (bytes 2) }

/-- `process_3a_data`, with whether the `malloc` for each tag succeeds. -/
def process3aData (fl : Floats F) (alloc : ExifTag → Bool) (ae : Option (AeParams F))
    (awb : Option AwbParams) (af : Option AutoFocusData) (info : List Entry) : Int × List Entry :=
  let info := match ae with
    | none => info
    | some p => (aeEntries fl p).foldl (fun info r => (addExifEntry (alloc r.tagId) info r).2) info
  addExifEntry (alloc .exifMakerNote) info (makerNote (aaaBuff ae awb af))

def valueAt (note : List UInt8) (word : Nat) : Option Nat :=
  match note.drop (2 * word) with
  | a :: b :: c :: d :: _ =>
    some (a.toNat * 256 + b.toNat + (c.toNat * 256 + d.toNat) * 2 ^ 16)
  | _ => none

structure Layout (ae : Option (AeParams F)) (awb : Option AwbParams) (af : Option AutoFocusData)
    (note : List UInt8) : Prop where
  length : note.length = 2 * (aeExifSize + awbExifSize + afExifSize)
  lineCount : valueAt note 0 = some (ae.elim 0 (·.lineCount.toNat))
  cctValue : valueAt note aeExifSize = some (awb.elim 0 (·.cctValue.toUInt32.toNat))
  decision : valueAt note (aeExifSize + 2) = some (awb.elim 0 (·.decision.toUInt32.toNat))
  focusPos : valueAt note (aeExifSize + awbExifSize) = some (af.elim 0 (·.focusPos.toUInt32.toNat))

def valueWords (v : Nat) : List Nat := [changeEndian16 (lower v), changeEndian16 (upper v)]

theorem valueWords_zero : valueWords 0 = [0, 0] := by decide

theorem aaaBuff_words (ae : Option (AeParams F)) (awb : Option AwbParams) (af : Option AutoFocusData) :
    (aaaBuff ae awb af).words = valueWords (ae.elim 0 (·.lineCount.toNat)) ++
      (valueWords (awb.elim 0 (·.cctValue.toUInt32.toNat)) ++
        (valueWords (awb.elim 0 (·.decision.toUInt32.toNat)) ++
          (valueWords (af.elim 0 (·.focusPos.toUInt32.toNat)) ++ [0, 0]))) := by
  cases ae <;> cases awb <;> cases af <;>
    simp only [Option.elim_none, Option.elim_some, valueWords_zero] <;> rfl

theorem aaaBuff_cnt (ae : Option (AeParams F)) (awb : Option AwbParams) (af : Option AutoFocusData) :
    (aaaBuff ae awb af).cnt = if af.isSome then 7 else 8 := by
  cases ae <;> cases awb <;> cases af <;> rfl

theorem lower_eq (a : Nat) : lower a = a % 2 ^ 16 := Nat.and_two_pow_sub_one_eq_mod a 16

theorem upper_eq {a : Nat} (ha : a < 2 ^ 32) : upper a = a / 2 ^ 16 := by
  rw [upper, Nat.shiftRight_eq_div_pow]
  exact (Nat.and_two_pow_sub_one_eq_mod _ 16).trans (Nat.mod_eq_of_lt (by omega))

theorem changeEndian16_eq {a : Nat} (ha : a < 2 ^ 16) :
    changeEndian16 a = a % 256 * 256 + a / 256 := by
  have hlow : 0x00FF &&& a >>> 8 = a / 256 := by
    rw [Nat.shiftRight_eq_div_pow, Nat.and_comm]
    exact (Nat.and_two_pow_sub_one_eq_mod _ 8).trans (Nat.mod_eq_of_lt (by omega))
  have hhigh : 0xFF00 &&& a <<< 8 = (a % 256) <<< 8 := by
    rw [← Nat.and_two_pow_sub_one_eq_mod a 8, Nat.shiftLeft_and_distrib, Nat.and_comm]
    rfl
  have hor : a / 256 ||| (a % 256) <<< 8 = a % 256 * 256 + a / 256 := by
    rw [Nat.or_comm, ← Nat.shiftLeft_add_eq_or_of_lt (show a / 256 < 2 ^ 8 by omega), Nat.shiftLeft_eq]
  rw [changeEndian16, hlow, hhigh, hor, Nat.mod_eq_of_lt (by omega)]

theorem length_flatMap_bytes (l : List Nat) : (l.flatMap (bytes 2)).length = 2 * l.length := by
  induction l with
  | nil => rfl
  | cons w l ih =>
    rw [List.flatMap_cons, List.length_append, Bytes.length_bytes, ih, List.length_cons]
    omega

theorem changeEndian16_bytes {a : Nat} (ha : a < 2 ^ 16) :
    (UInt8.ofNat (changeEndian16 a)).toNat * 256 + (UInt8.ofNat (changeEndian16 a / 256)).toNat = a := by
  have hlow : ∀ n, (UInt8.ofNat n).toNat = n % 256 := fun n => by simp
  have hhalf : a / 256 < 256 := by omega
  have hdiv : (a % 256 * 256 + a / 256) / 256 = a % 256 := by omega
  have hmod : (a % 256 * 256 + a / 256) % 256 = a / 256 := by omega
  rw [changeEndian16_eq ha, hlow, hlow, hdiv, hmod, Nat.mod_mod]
  omega

theorem valueAt_words (front back : List Nat) {v n : Nat} (hv : v < 2 ^ 32)
    (hn : 2 * front.length + 4 ≤ n) :
    valueAt (((front ++ (valueWords v ++ back)).flatMap (bytes 2)).take n) front.length = some v := by
  have hlen := length_flatMap_bytes front
  have htake : ∀ (l k : List UInt8) (i : Nat), l.length = 4 → (l ++ k).take (4 + i) = l ++ k.take i :=
    fun l k i hl => hl ▸ List.take_length_add_append i
  have hdrop : (((front ++ (valueWords v ++ back)).flatMap (bytes 2)).take n).drop (2 * front.length) =
      (bytes 2 (changeEndian16 (lower v)) ++ bytes 2 (changeEndian16 (upper v)) ++
        (back.flatMap (bytes 2)).take (n - (2 * front.length + 4))) := by
    rw [List.flatMap_append, List.flatMap_append, List.drop_take, ← hlen, List.drop_left, hlen,
      show n - 2 * front.length = 4 + (n - (2 * front.length + 4)) by omega]
    exact htake _ _ _ (length_flatMap_bytes (valueWords v))
  have hlower : lower v < 2 ^ 16 := by
    rw [lower_eq]
    exact Nat.mod_lt _ (by decide)
  have hupper : upper v < 2 ^ 16 := by
    rw [upper_eq hv]
    omega
  rw [valueAt, hdrop]
  change some (_ * 256 + _ + (_ * 256 + _) * 2 ^ 16) = _
  rw [changeEndian16_bytes hlower, changeEndian16_bytes hupper, lower_eq, upper_eq hv]
  congr 1
  omega

variable {fl : Floats F} {alloc : ExifTag → Bool} {ae : Option (AeParams F)} {awb : Option AwbParams}
  {af : Option AutoFocusData}

def noteBytes (ae : Option (AeParams F)) (awb : Option AwbParams) (af : Option AutoFocusData) : List UInt8 :=
  ((aaaBuff ae awb af).words.flatMap (bytes 2)).take ((aaaBuff ae awb af).cnt * 2)

theorem length_noteBytes : (noteBytes ae awb af).length = if af.isSome then 14 else 16 := by
  rw [noteBytes, List.length_take, length_flatMap_bytes, aaaBuff_words, aaaBuff_cnt]
  split_ifs
  · rfl
  · rfl

theorem layout_iff : Layout ae awb af (noteBytes ae awb af) ↔ af = none := by
  constructor
  · intro h
    have hlen := h.length
    rw [length_noteBytes] at hlen
    cases af with
    | none => rfl
    | some p => exact absurd hlen (show ¬14 = 16 by decide)
  · rintro rfl
    have hsmall : ∀ v : UInt32, v.toNat < 2 ^ 32 := fun v => v.toNat_lt
    have hae : ae.elim 0 (·.lineCount.toNat) < 2 ^ 32 := by
      cases ae with
      | none => exact Nat.two_pow_pos 32
      | some p => exact hsmall _
    have hcct : awb.elim 0 (·.cctValue.toUInt32.toNat) < 2 ^ 32 := by
      cases awb with
      | none => exact Nat.two_pow_pos 32
      | some p => exact hsmall _
    have hdecision : awb.elim 0 (·.decision.toUInt32.toNat) < 2 ^ 32 := by
      cases awb with
      | none => exact Nat.two_pow_pos 32
      | some p => exact hsmall _
    refine ⟨length_noteBytes, ?_, ?_, ?_, ?_⟩
    · rw [noteBytes, aaaBuff_words, aaaBuff_cnt]
      exact valueAt_words [] _ hae (by decide)
    · rw [noteBytes, aaaBuff_words, aaaBuff_cnt]
      exact valueAt_words (valueWords _) _ hcct (show 8 ≤ 16 by decide)
    · rw [noteBytes, aaaBuff_words, aaaBuff_cnt, ← List.append_assoc]
      exact valueAt_words (valueWords _ ++ valueWords _) _ hdecision (show 12 ≤ 16 by decide)
    · rw [noteBytes, aaaBuff_words, aaaBuff_cnt, ← List.append_assoc, ← List.append_assoc]
      exact valueAt_words (valueWords _ ++ valueWords _ ++ valueWords _) [0, 0] (Nat.two_pow_pos 32)
        (show 16 ≤ 16 by decide)

theorem addExifEntry_entries (a : Bool) (info : List Entry) (r : Request) :
    ∃ l, (addExifEntry a info r).2 = info ++ l ∧ l.length ≤ 1 ∧
      ∀ e ∈ l, e.tagId = r.tagId ∧ e.data = r.stored a := by
  rw [addExifEntry]
  by_cases hfull : maxExifTableEntries ≤ info.length
  · rw [if_pos hfull]
    exact ⟨[], (List.append_nil info).symm, Nat.zero_le _, fun e he => absurd he List.not_mem_nil⟩
  · rw [if_neg hfull]
    refine ⟨_, rfl, Nat.le_refl _, fun e he => ?_⟩
    rw [List.mem_singleton.mp he]
    exact ⟨rfl, rfl⟩

theorem addExifEntries_tags (rs : List Request) (info : List Entry) :
    ∃ l, rs.foldl (fun info r => (addExifEntry (alloc r.tagId) info r).2) info = info ++ l ∧
      l.length ≤ rs.length ∧ ∀ e ∈ l, e.tagId ∈ rs.map (·.tagId) := by
  induction rs generalizing info with
  | nil =>
    exact ⟨[], (List.append_nil info).symm, Nat.zero_le _, fun e he => absurd he List.not_mem_nil⟩
  | cons r rs ih =>
    obtain ⟨k, hk, hkone, htag⟩ := addExifEntry_entries (alloc r.tagId) info r
    obtain ⟨l, hl, hlen, htags⟩ := ih (info ++ k)
    refine ⟨k ++ l, ?_, ?_, fun e he => ?_⟩
    · rw [List.foldl_cons, hk, hl, List.append_assoc]
    · rw [List.length_append, List.length_cons]
      omega
    · rw [List.map_cons, List.mem_cons]
      rcases List.mem_append.mp he with he | he
      · exact .inl (htag e he).1
      · exact .inr (htags e he)

theorem aeEntries_tags (fl : Floats F) (p : AeParams F) :
    ExifTag.exifMakerNote ∉ (aeEntries fl p).map (·.tagId) := by
  have hexposure : ∀ (c : Bool) (r k : Request) (t : ExifTag), r.tagId = t → k.tagId = t →
      (if c then r else k).tagId = t := by
    intro c r k t hr hk
    split_ifs
    · exact hr
    · exact hk
  have htags : (aeEntries fl p).map (·.tagId) = [.exposureTime, .shutterSpeed, .isoSpeedRating,
      .gainControl, .exposureIndex, .meteringMode, .exposureProgram, .exposureMode, .sceneType,
      .brightness] := by
    simp only [aeEntries, List.map_cons, List.map_nil]
    rw [hexposure _ _ _ .exposureTime rfl rfl, hexposure _ _ _ .shutterSpeed rfl rfl]
    rfl
  rw [htags]
  decide

theorem process3aData_entries (fl : Floats F) (alloc : ExifTag → Bool) (ae : Option (AeParams F))
    (awb : Option AwbParams) (af : Option AutoFocusData) (info : List Entry) :
    ∃ k, process3aData fl alloc ae awb af info =
        addExifEntry (alloc .exifMakerNote) (info ++ k) (makerNote (aaaBuff ae awb af)) ∧
      k.length ≤ 10 ∧ ∀ e ∈ k, e.tagId ≠ .exifMakerNote := by
  cases ae with
  | none =>
    refine ⟨[], ?_, Nat.zero_le _, fun e he => absurd he List.not_mem_nil⟩
    rw [List.append_nil]
    rfl
  | some p =>
    obtain ⟨k, hk, hlen, htags⟩ := addExifEntries_tags (aeEntries fl p) info
    refine ⟨k, ?_, hlen, fun e he heq => aeEntries_tags fl p (heq ▸ htags e he)⟩
    rw [← hk]
    rfl

theorem makerNote_stored (a : Bool) (b : AaaBuff) :
    (makerNote b).stored a = if a then some ((b.words.flatMap (bytes 2)).take (b.cnt * 2)) else none := rfl

theorem process3aData_note {info : List Entry} {e : Entry}
    (he : e ∈ (process3aData fl alloc ae awb af info).2.drop info.length)
    (htag : e.tagId = .exifMakerNote) {note : List UInt8} (hnote : note ∈ e.data) :
    note = noteBytes ae awb af := by
  obtain ⟨k, hk, -, hother⟩ := process3aData_entries fl alloc ae awb af info
  obtain ⟨l, hl, -, hlast⟩ := addExifEntry_entries (alloc .exifMakerNote) (info ++ k)
    (makerNote (aaaBuff ae awb af))
  rw [hk, hl, List.append_assoc, List.drop_left] at he
  rcases List.mem_append.mp he with he | he
  · exact absurd htag (hother e he)
  · have hdata := (hlast e he).2
    rw [Option.mem_def.mp hnote, makerNote_stored] at hdata
    split_ifs at hdata
    exact Option.some.inj hdata

theorem process3aData_added (fl : Floats F) (ae : Option (AeParams F)) (awb : Option AwbParams)
    (af : Option AutoFocusData) :
    ∃ e ∈ (process3aData fl (fun _ => true) ae awb af []).2, e.tagId = .exifMakerNote ∧
      e.data = some (noteBytes ae awb af) := by
  obtain ⟨k, hk, hlen, -⟩ := process3aData_entries fl (fun _ => true) ae awb af []
  have hroom : ¬maxExifTableEntries ≤ ([] ++ k).length :=
    fun hfull => absurd (Nat.le_trans hfull hlen) (by decide)
  rw [hk, addExifEntry, if_neg hroom, makerNote_stored]
  exact ⟨_, List.mem_append_right _ (List.mem_singleton.mpr rfl), rfl, rfl⟩

/-- The maker notes that `process_3a_data` adds have the layout, whatever the table and the values,
exactly if there are no focus data. -/
theorem maker_note_iff (fl : Floats F) (ae : Option (AeParams F)) (awb : Option AwbParams)
    (af : Option AutoFocusData) :
    (∀ alloc info, ∀ e ∈ (process3aData fl alloc ae awb af info).2.drop info.length,
      e.tagId = .exifMakerNote → ∀ note ∈ e.data, Layout ae awb af note) ↔ af = none := by
  constructor
  · intro h
    obtain ⟨e, he, htag, hdata⟩ := process3aData_added fl ae awb af
    exact layout_iff.mp (h _ [] e he htag _ hdata)
  · intro haf alloc info e he htag note hnote
    rw [process3aData_note he htag hnote]
    exact layout_iff.mpr haf

/-- Of the focus position alone the upper word is lost, and with it the length. -/
theorem focus_word_lost :
    let fl : Floats Unit := ⟨fun _ => true, fun _ => false, fun _ => 0, fun _ => 0, fun _ => 0, fun _ => 0⟩
    let af : AutoFocusData := { focusPos := 0x12345 }
    let note : List UInt8 := List.replicate 12 0 ++ [0x23, 0x45]
    (process3aData fl (fun _ => true) none none (some af) []).2 =
        [{ tagId := .exifMakerNote, type := .undefined, count := 14, copy := 1, data := some note }] ∧
      ¬Layout (none : Option (AeParams Unit)) none (some af) note :=
  ⟨rfl, fun h => absurd h.length (by decide)⟩

end Jpeg.Exif
