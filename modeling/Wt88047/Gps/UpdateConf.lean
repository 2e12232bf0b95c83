import Wt88047.Gps.LocCfgRecords

/-! What `loc_read_conf_r` leaves in the memory of a table. It reads as many records as the table has entries, so that
the caller can read on from there: a key that comes twice counts twice. The update from a buffer goes through the same
text with one record less, and returns the lines that it went through. -/

namespace Wt88047.LocCfg

variable {lib : Libc}

theorem linesUpTo_isPrefix (table : List Param) (n : Nat) (lines : List Text) :
    linesUpTo lib table n lines <+: lines := by
  induction lines generalizing n with
  | nil => simp only [linesUpTo_nil, List.nil_prefix]
  | cons line rest ih =>
    cases n with
    | zero => exact List.nil_prefix
    | succ n => exact (List.prefix_cons_inj line).mpr (ih _)

theorem linesUpTo_full (table : List Param) (n : Nat) (lines : List Text) :
    linesUpTo lib table n lines = lines ∨ (linesUpTo lib table n lines).countP (isRecord lib table) = n := by
  induction lines generalizing n with
  | nil => exact Or.inl (linesUpTo_nil table n)
  | cons line rest ih =>
    cases n with
    | zero => exact Or.inr rfl
    | succ n =>
      rw [linesUpTo, List.countP_cons, List.cons_inj_right]
      refine (ih _).imp_right fun h => ?_
      rw [h]
      split <;> rfl

theorem linesUpTo_before {table : List Param} {n : Nat} {lines pre : List Text} {line : Text}
    (h : linesUpTo lib table n lines = pre ++ [line]) : pre.countP (isRecord lib table) < n := by
  induction lines generalizing n pre with
  | nil => simp [linesUpTo_nil] at h
  | cons head rest ih =>
    cases n with
    | zero => simp [linesUpTo] at h
    | succ n =>
      rw [linesUpTo] at h
      cases pre with
      | nil => exact Nat.succ_pos n
      | cons first pre =>
        obtain ⟨rfl, htail⟩ := List.cons_eq_cons.mp h
        have hpre := ih htail
        rw [List.countP_cons]
        split at hpre
        case isTrue hrecord => rw [if_pos hrecord]; omega
        case isFalse hno => rw [if_neg hno]; omega

structure LinesRead (lib : Libc) (table : List Param) (lines read : List Text) : Prop where
  isPrefix : read <+: lines
  full : read = lines ∨ read.countP (isRecord lib table) = table.length
  before : ∀ pre line, read = pre ++ [line] → pre.countP (isRecord lib table) < table.length

def Holds (lib : Libc) (table : List Param) (lines : List Text) (mem mem' : Mem) : Prop :=
  ∀ i, mem' i =
    match table[i]? with
    | some e => ⟨(lastRecord lib e lines).getD (mem i).value,
        if e.paramSet then (lastRecord lib e lines).isSome else (mem i).set⟩
    | none => mem i

theorem locReadConfR_slot (t : Table) (file : Text) (mem : Mem) :
    Holds lib t.params (linesUpTo lib t.params t.params.length (fgets file)) mem
      (locReadConfR lib t.params file mem).1 := by
  intro i
  have hlength : (UInt32.ofNat t.params.length).toNat = t.params.length := UInt32.toNat_ofNat_of_lt' t.length_lt
  rw [locReadConfR, (fillLoop_eq t _ _ _).1, hlength, clearSet]
  cases t.params[i]? with
  | none => rfl
  | some e => cases he : e.paramSet <;> simp [Slot.given, he]

theorem read_conf_last_records (lib : Libc) (t : Table) (file : Text) (mem : Mem) :
    ∃ read, LinesRead lib t.params (fgets file) read ∧
      Holds lib t.params read mem (locReadConfR lib t.params file mem).1 :=
  ⟨_, ⟨linesUpTo_isPrefix _ _ _, linesUpTo_full _ _ _, fun _ _ => linesUpTo_before⟩, locReadConfR_slot t file mem⟩

def libc32 : Libc where
  longMax := 2 ^ 31 - 1
  atof := fun _ => 0

def numbersAB : Table where
  params := [⟨['A'], true, true, 'n'⟩, ⟨['B'], true, true, 'n'⟩]
  distinct := by decide
  length_lt := by decide

/-- The second record of `A` is the last that is read. -/
theorem record_after_repeated_key_unread :
    ¬∀ (lib : Libc) (t : Table) (file : Text) (mem : Mem),
      Holds lib t.params (fgets file) mem (locReadConfR lib t.params file mem).1 := by
  intro h
  have hb := h libc32 numbersAB "A=1\nA=2\nB=3\n".toList (fun _ => ⟨.num 0, false⟩) 1
  exact absurd hb (by decide)

def bufferLines (confData : Text) : List Text := strtok '\n' (cString confData)

def updateLines (lib : Libc) (table : List Param) (confData : Text) : List Text :=
  linesUpTo lib table (table.length - 1) (bufferLines confData)

def readLines (lib : Libc) (table : List Param) (confData : Text) : List Text :=
  linesUpTo lib table table.length (fgets confData)

/-- Each entry gets the last of its records in the buffer, whatever it held; its value is that which
`loc_read_conf_r` gives, and the records that were applied are counted. -/
structure Updates (lib : Libc) (malloc : Bool) (table : List Param) (confData : Text) : Prop where
  slots : ∀ mem i, (locUpdateConf lib malloc table confData mem).1 i =
    match table[i]? with
    | some e => (mem i).given e (lastRecord lib e (bufferLines confData))
    | none => mem i
  asRead : ∀ mem i, ((locUpdateConf lib malloc table confData mem).1 i).value =
    ((locReadConfR lib table confData mem).1 i).value
  count : ∀ mem, (locUpdateConf lib malloc table confData mem).2 =
    (updateLines lib table confData).countP (isRecord lib table)

structure Plain (lib : Libc) (table : List Param) (confData : Text) : Prop where
  table_ne : table ≠ []
  confData_ne : confData ≠ []
  records : ∀ line ∈ updateLines lib table confData, isRecord lib table line = true
  last : ∀ e ∈ table, lastRecord lib e (updateLines lib table confData) = lastRecord lib e (bufferLines confData)
  read : ∀ e ∈ table, lastRecord lib e (readLines lib table confData) = lastRecord lib e (bufferLines confData)

theorem locUpdateConf_eq (t : Table) {confData : Text} (htable : t.params ≠ []) (hdata : confData ≠ []) (mem : Mem) :
    (∀ i, (locUpdateConf lib true t.params confData mem).1 i =
      match t.params[i]? with
      | some e => (mem i).given e (lastRecord lib e (updateLines lib t.params confData))
      | none => mem i) ∧
    (locUpdateConf lib true t.params confData mem).2 = (updateLines lib t.params confData).length := by
  have hlength : (UInt32.ofNat t.params.length).toNat = t.params.length := UInt32.toNat_ofNat_of_lt' t.length_lt
  have hpos : 0 < t.params.length := List.length_pos_iff.mpr htable
  have hone : (1 : UInt32).toNat = 1 := rfl
  have hstart : (UInt32.ofNat t.params.length - 1).toNat = t.params.length - 1 := by
    rw [UInt32.toNat_sub_of_le _ _ (UInt32.le_iff_toNat_le.mpr (by omega)), hlength, hone]
  obtain ⟨hslot, hcount⟩ := @fillLoop_eq lib t (strtok '\n' (cString confData)) _ mem
  rw [locUpdateConf, if_pos ⟨hdata, htable, rfl⟩, updateLines, ← hstart]
  exact ⟨hslot, congrArg _ hcount⟩

theorem locUpdateConf_none {malloc : Bool} {table : List Param} {confData : Text}
    (h : ¬(confData ≠ [] ∧ table ≠ [] ∧ malloc)) (mem : Mem) :
    locUpdateConf lib malloc table confData mem = (mem, -1) :=
  if_neg h

theorem eq_of_getD_eq {a b : Option Value} (h : ∀ v, a.getD v = b.getD v) : a = b := by
  have hnum : Value.num 0 ≠ Value.num 1 := by decide
  cases a with
  | none =>
    cases b with
    | none => rfl
    | some w => exact absurd ((h (.num 0)).trans (h (.num 1)).symm) hnum
  | some v =>
    cases b with
    | none => exact absurd ((h (.num 0)).symm.trans (h (.num 1))) hnum
    | some w => exact congrArg some (h v)

def filled (v : Value) : Mem := fun _ => ⟨v, false⟩

theorem Plain.updates {t : Table} {confData : Text} (h : Plain lib t.params confData) :
    Updates lib true t.params confData := by
  have hupdate := fun mem => @locUpdateConf_eq lib t _ h.table_ne h.confData_ne mem
  constructor
  · intro mem i
    rw [(hupdate mem).1]
    cases hi : t.params[i]? with
    | none => rfl
    | some e => exact congrArg ((mem i).given e) (h.last e (List.mem_of_getElem? hi))
  · intro mem i
    rw [(hupdate mem).1, locReadConfR_slot t confData mem i]
    cases hi : t.params[i]? with
    | none => rfl
    | some e =>
      have he := List.mem_of_getElem? hi
      exact congrArg (Option.getD · _) ((h.last e he).trans (h.read e he).symm)
  · intro mem
    rw [(hupdate mem).2, List.countP_eq_length.mpr h.records]

theorem Updates.plain {malloc : Bool} {t : Table} {confData : Text} (h : Updates lib malloc t.params confData) :
    malloc = true ∧ Plain lib t.params confData := by
  have hall : confData ≠ [] ∧ t.params ≠ [] ∧ malloc = true := by
    by_contra hno
    have hcount := h.count (filled (.num 0))
    rw [locUpdateConf_none hno] at hcount
    omega
  obtain ⟨hdata, htable, rfl⟩ := hall
  have hupdate := fun mem => @locUpdateConf_eq lib t _ htable hdata mem
  have hlast : ∀ e ∈ t.params, lastRecord lib e (updateLines lib t.params confData) =
      lastRecord lib e (bufferLines confData) := by
    intro e he
    obtain ⟨i, hi⟩ := List.mem_iff_getElem?.mp he
    refine eq_of_getD_eq fun v => ?_
    have hslot := h.slots (filled v) i
    rw [(hupdate _).1, hi] at hslot
    exact congrArg Slot.value hslot
  refine ⟨rfl, htable, hdata, ?_, hlast, ?_⟩
  · have hcount := h.count (filled (.num 0))
    rw [(hupdate _).2] at hcount
    exact List.countP_eq_length.mp (Int.ofNat_inj.mp hcount).symm
  · intro e he
    obtain ⟨i, hi⟩ := List.mem_iff_getElem?.mp he
    refine eq_of_getD_eq fun v => ?_
    have hread := h.asRead (filled v) i
    rw [(hupdate _).1, locReadConfR_slot t confData (filled v) i, hi] at hread
    rw [← hlast e he]
    exact hread.symm

/-- The update does what it is for exactly if the text is plain. -/
theorem update_conf_iff (lib : Libc) (malloc : Bool) (t : Table) (confData : Text) :
    Updates lib malloc t.params confData ↔ malloc = true ∧ Plain lib t.params confData := by
  constructor
  · exact Updates.plain
  · rintro ⟨rfl, h⟩
    exact h.updates

def numberA : Table where
  params := [⟨['A'], true, true, 'n'⟩]
  distinct := by decide
  length_lt := by decide

/-- A table of one entry is never updated. -/
theorem one_entry_not_updated : ¬∀ (lib : Libc) (t : Table) (confData : Text), Updates lib true t.params confData := by
  intro h
  have hslot := (h libc32 numberA "A=1".toList).slots (filled (.num 0)) 0
  exact absurd hslot (by decide)

end Wt88047.LocCfg
