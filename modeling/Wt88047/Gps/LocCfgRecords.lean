import Wt88047.Gps.LocCfg
import Mathlib.Data.List.Induction
import Mathlib.Data.List.Nodup

/-! The records of a text for a table: which lines fill an entry, and what is left in its memory after them. -/

namespace Wt88047.LocCfg

variable {lib : Libc}

def record (lib : Libc) (e : Param) (line : Text) : Option Value :=
  (parseItem lib line).bind (converted e)

def isRecord (lib : Libc) (table : List Param) (line : Text) : Bool := table.any fun e => (record lib e line).isSome

def lastRecord (lib : Libc) (e : Param) (lines : List Text) : Option Value :=
  (lines.filterMap (record lib e)).getLast?

def Slot.given (slot : Slot) (e : Param) (v : Option Value) : Slot :=
  ⟨v.getD slot.value, (e.paramSet && v.isSome) || slot.set⟩

theorem Slot.given_none (slot : Slot) (e : Param) : slot.given e none = slot := by simp [Slot.given]

theorem Slot.given_given (slot : Slot) (e : Param) (v w : Option Value) :
    (slot.given e v).given e w = slot.given e (w.or v) := by
  cases v <;> cases w <;> simp [Slot.given]

variable (v : ParamValue)

theorem setEntries_cons (i : Nat) (e : Param) (rest : List Param) (mem : Mem) :
    setEntries v i (e :: rest) mem =
      ((setEntries v (i + 1) rest (Function.update mem i ((mem i).given e (converted e v)))).1,
        (setEntries v (i + 1) rest (Function.update mem i ((mem i).given e (converted e v)))).2 +
          if (converted e v).isSome then 1 else 0) := by
  rw [setEntries, setConfigEntry]
  cases converted e v with
  | none =>
    rw [Slot.given_none, Function.update_eq_self]
    rfl
  | some value =>
    have hgiven : (mem i).given e (some value) = ⟨value, e.paramSet || (mem i).set⟩ := by simp [Slot.given]
    rw [hgiven]
    rfl

variable (table : List Param)

theorem setEntries_of_lt {i j : Nat} (hj : j < i) (mem : Mem) :
    (setEntries v i table mem).1 j = mem j := by
  induction table generalizing i mem with
  | nil => rfl
  | cons e rest ih => rw [setEntries_cons, ih (Nat.lt_succ_of_lt hj), Function.update_of_ne hj.ne]

theorem setEntries_slot (i : Nat) (mem : Mem) (j : Nat) :
    (setEntries v i table mem).1 (i + j) =
      match table[j]? with
      | some e => (mem (i + j)).given e (converted e v)
      | none => mem (i + j) := by
  induction table generalizing i mem j with
  | nil => rfl
  | cons e rest ih =>
    rw [setEntries_cons]
    cases j with
    | zero => exact (setEntries_of_lt v rest (Nat.lt_succ_self i) _).trans (Function.update_self i _ mem)
    | succ j =>
      have hi : i + (j + 1) = i + 1 + j := by omega
      rw [hi, ih, Function.update_of_ne (by omega : i + 1 + j ≠ i)]
      rfl

theorem setEntries_count (i : Nat) (mem : Mem) :
    (setEntries v i table mem).2 = table.countP fun e => (converted e v).isSome := by
  induction table generalizing i mem with
  | nil => rfl
  | cons e rest ih => rw [setEntries_cons, ih, List.countP_cons]

/-- The names of a table are distinct, and its length is an `uint32_t`. -/
structure Table where
  params : List Param
  distinct : (params.map (·.paramName)).Nodup
  length_lt : params.length < 2 ^ 32

theorem converted_name {e : Param} {v : ParamValue} (h : (converted e v).isSome) : e.paramName = v.paramName := by
  rw [converted] at h
  split at h
  case isTrue hname => exact hname.1
  case isFalse => cases h

theorem countP_converted {table : List Param} (h : (table.map (·.paramName)).Nodup) :
    table.countP (fun e => (converted e v).isSome) = if table.any (fun e => (converted e v).isSome) then 1 else 0
    := by
  induction table with
  | nil => rfl
  | cons e rest ih =>
    rw [List.map_cons, List.nodup_cons] at h
    rw [List.countP_cons, List.any_cons, ih h.2]
    by_cases he : (converted e v).isSome = true
    · have hrest : rest.any (fun e => (converted e v).isSome) = false := by
        rw [List.any_eq_false]
        intro e' he' hsome
        refine h.1 (List.mem_map.mpr ⟨e', he', ?_⟩)
        exact (converted_name hsome).trans (converted_name he).symm
      rw [hrest, he]
      rfl
    · rw [Bool.not_eq_true] at he
      rw [he]
      rfl

theorem fillConfItem_slot (line : Text) (mem : Mem) (i : Nat) :
    (fillConfItem lib table line mem).1 i =
      match table[i]? with
      | some e => (mem i).given e (record lib e line)
      | none => mem i := by
  rw [fillConfItem]
  cases hv : parseItem lib line with
  | none => cases table[i]? <;> simp [record, hv, Slot.given_none]
  | some v =>
    have hslot := setEntries_slot v table 0 mem i
    rw [Nat.zero_add] at hslot
    simp only [record, hv, Option.bind_some]
    exact hslot

theorem fillConfItem_count (t : Table) (line : Text) (mem : Mem) :
    (fillConfItem lib t.params line mem).2 = if isRecord lib t.params line then 1 else 0 := by
  rw [fillConfItem, isRecord]
  cases hv : parseItem lib line with
  | none => simp [record, hv]
  | some v =>
    simp only [record, hv, Option.bind_some]
    rw [setEntries_count, countP_converted v t.distinct]

theorem lastRecord_cons (e : Param) (line : Text) (lines : List Text) :
    lastRecord lib e (line :: lines) = (lastRecord lib e lines).or (record lib e line) := by
  rw [lastRecord, List.filterMap_cons]
  cases hline : record lib e line with
  | none => simp [lastRecord]
  | some v =>
    rw [List.getLast?_cons, lastRecord]
    cases (lines.filterMap (record lib e)).getLast? <;> rfl

def linesUpTo (lib : Libc) (table : List Param) : Nat → List Text → List Text
  | 0, _ => []
  | _ + 1, [] => []
  | n + 1, line :: rest => line :: linesUpTo lib table (if isRecord lib table line then n else n + 1) rest

theorem linesUpTo_nil (n : Nat) : linesUpTo lib table n [] = [] := by
  cases n <;> rfl

theorem toNat_sub_count {numParams : UInt32} {n : Nat} (hn : numParams.toNat = n + 1) (b : Bool) :
    (numParams - UInt32.ofNat (if b then 1 else 0)).toNat = if b then n else n + 1 := by
  cases b with
  | false =>
    rw [UInt32.toNat_sub_of_le _ _ (UInt32.le_iff_toNat_le.mpr (Nat.zero_le _))]
    exact hn
  | true =>
    have hone : (UInt32.ofNat 1).toNat = 1 := rfl
    rw [if_pos rfl, UInt32.toNat_sub_of_le _ _ (UInt32.le_iff_toNat_le.mpr (by omega)), hn, hone]
    rfl

theorem fillLoop_eq (t : Table) (lines : List Text) (numParams : UInt32) (mem : Mem) :
    (∀ i, (fillLoop lib t.params numParams lines mem).1 i =
      match t.params[i]? with
      | some e => (mem i).given e (lastRecord lib e (linesUpTo lib t.params numParams.toNat lines))
      | none => mem i) ∧
    (fillLoop lib t.params numParams lines mem).2 = (linesUpTo lib t.params numParams.toNat lines).length := by
  induction lines generalizing numParams mem with
  | nil =>
    rw [linesUpTo_nil]
    refine ⟨fun i => ?_, rfl⟩
    cases t.params[i]? <;> simp [fillLoop, lastRecord, Slot.given_none]
  | cons line rest ih =>
    rw [fillLoop]
    rcases hn : numParams.toNat with _ | n
    · rw [if_pos (UInt32.toNat_inj.mp hn), linesUpTo]
      refine ⟨fun i => ?_, rfl⟩
      cases t.params[i]? <;> simp [lastRecord, Slot.given_none]
    · have hne : numParams ≠ 0 := fun h => by simp [h] at hn
      rw [if_neg hne, linesUpTo, List.length_cons]
      dsimp only
      rw [fillConfItem_count]
      obtain ⟨hslot, hcount⟩ := ih (numParams - UInt32.ofNat (if isRecord lib t.params line then 1 else 0))
        (fillConfItem lib t.params line mem).1
      rw [toNat_sub_count hn] at hslot hcount
      refine ⟨fun i => ?_, congrArg (· + 1) hcount⟩
      refine (hslot i).trans ?_
      rw [fillConfItem_slot]
      cases t.params[i]? with
      | none => rfl
      | some e => exact (Slot.given_given _ e _ _).trans (congrArg _ (lastRecord_cons e line _).symm)

end Wt88047.LocCfg
