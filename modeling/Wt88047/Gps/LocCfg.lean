import Mathlib.Algebra.Order.Ring.Nat
import Mathlib.Data.List.DropRight
import Mathlib.Logic.Function.Basic

/-! The reading of configuration parameters, from a file and from a buffer. Text is a list of characters without
the final NUL. -/

namespace Wt88047.LocCfg

abbrev Text := List Char

/-- What is left to the C library: how far a `long` goes, and `atof`, which gives a double as its bits. -/
structure Libc where
  longMax : Nat
  atof : Text → UInt64

def isSpace (c : Char) : Bool := c = ' ' || ('\t' ≤ c && c ≤ '\r')

def cString (t : Text) : Text := t.takeWhile (· ≠ '\x00')

/-- What one call of `strtok_r` after the other gives, with the token at hand. -/
def strtokFrom (delim : Char) (token : Text) : Text → List Text
  | [] => if token = [] then [] else [token]
  | c :: rest =>
    if c = delim then
      if token = [] then strtokFrom delim [] rest else token :: strtokFrom delim [] rest
    else strtokFrom delim (token ++ [c]) rest

def strtok (delim : Char) (s : Text) : List Text := strtokFrom delim [] s

abbrev locMaxParamString : Nat := 80

/-- `LOC_MAX_PARAM_NAME + LOC_MAX_PARAM_STRING` -/
abbrev locMaxParamLine : Nat := 160

/-- What one call of `fgets` after the other gives, with what was read of the line. -/
def fgetsFrom (line : Text) : Text → List Text
  | [] => if line = [] then [] else [line]
  | c :: rest =>
    if c = '\n' ∨ line.length + 1 = locMaxParamLine - 1 then (line ++ [c]) :: fgetsFrom [] rest
    else fgetsFrom (line ++ [c]) rest

def fgets (file : Text) : List Text := fgetsFrom [] file

/-- `loc_util_trim_space`; a text of spaces only stays as it is. -/
def trimSpace (s : Text) : Text :=
  match s.dropWhile isSpace with
  | [] => s
  | t => t.rdropWhile isSpace

def digitValue (c : Char) : Nat :=
  if '0' ≤ c ∧ c ≤ '9' then c.toNat - 48
  else if 'a' ≤ c ∧ c ≤ 'z' then c.toNat - 87
  else if 'A' ≤ c ∧ c ≤ 'Z' then c.toNat - 55
  else 36

def takeSign : Text → Bool × Text
  | '-' :: s => (true, s)
  | '+' :: s => (false, s)
  | s => (false, s)

def dropHex : Text → Text
  | '0' :: 'x' :: s => s
  | '0' :: 'X' :: s => s
  | s => s

def strtol (lib : Libc) (base : Nat) (s : Text) : Int :=
  let (negative, s) := takeSign (s.dropWhile isSpace)
  let s := if base = 16 then dropHex s else s
  let n : Nat := (s.takeWhile fun c => digitValue c < base).foldl (fun n c => n * base + digitValue c) 0
  if negative then max (-n) (-lib.longMax - 1) else min n lib.longMax

def atoi (lib : Libc) (s : Text) : Int32 := Int32.ofInt (strtol lib 10 s)

structure ParamValue where
  paramName : Text
  paramStrValue : Text
  paramIntValue : Int32
  paramDoubleValue : UInt64

def isHex : Text → Bool
  | '0' :: x :: _ :: _ => x = 'x' || x = 'X'
  | _ => false

/-- The part of `loc_fill_conf_item` that reads a line. A hexadecimal number has no value as a double. -/
def parseItem (lib : Libc) (line : Text) : Option ParamValue :=
  match strtok '=' (cString line) with
  | name :: value :: _ =>
    let value := trimSpace value
    if isHex value then
      some ⟨trimSpace name, value, Int32.ofInt (strtol lib 16 (value.drop 2)), 0⟩
    else some ⟨trimSpace name, value, atoi lib value, lib.atof value⟩
  | _ => none

/-- `loc_param_s_type`; a pointer is there or not. -/
structure Param where
  paramName : Text
  paramPtr : Bool
  paramSet : Bool
  paramType : Char

inductive Value
  | str (s : Text)
  | num (n : Int32)
  | dbl (bits : UInt64)
  deriving DecidableEq

structure Slot where
  value : Value
  set : Bool
  deriving DecidableEq

abbrev Mem := Nat → Slot

/-- The switch of `loc_set_config_entry`. -/
def converted (e : Param) (v : ParamValue) : Option Value :=
  if e.paramName = v.paramName ∧ e.paramPtr then
    if e.paramType = 's' then
      some (.str (if v.paramStrValue = "NULL".toList then [] else v.paramStrValue.take locMaxParamString))
    else if e.paramType = 'n' then some (.num v.paramIntValue)
    else if e.paramType = 'f' then some (.dbl v.paramDoubleValue)
    else none
  else none

def setConfigEntry (e : Param) (v : ParamValue) (slot : Slot) : Option Slot :=
  (converted e v).map fun value => ⟨value, e.paramSet || slot.set⟩

/-- The loop over the table, from entry `i` on, and how many entries were set. -/
def setEntries (v : ParamValue) : Nat → List Param → Mem → Mem × Nat
  | _, [], mem => (mem, 0)
  | i, e :: rest, mem =>
    match setConfigEntry e v (mem i) with
    | some slot =>
      let q := setEntries v (i + 1) rest (Function.update mem i slot)
      (q.1, q.2 + 1)
    | none => setEntries v (i + 1) rest mem

def fillConfItem (lib : Libc) (table : List Param) (line : Text) (mem : Mem) : Mem × Nat :=
  match parseItem lib line with
  | some v => setEntries v 0 table mem
  | none => (mem, 0)

/-- The loop of both readers over the lines, with `num_params`; it counts the lines. -/
def fillLoop (lib : Libc) (table : List Param) : UInt32 → List Text → Mem → Mem × Nat
  | _, [], mem => (mem, 0)
  | numParams, line :: rest, mem =>
    if numParams = 0 then (mem, 0)
    else
      let q := fillConfItem lib table line mem
      let r := fillLoop lib table (numParams - UInt32.ofNat q.2) rest q.1
      (r.1, r.2 + 1)

def clearSet (table : List Param) (mem : Mem) : Mem := fun i =>
  match table[i]? with
  | some e => { mem i with set := !e.paramSet && (mem i).set }
  | none => mem i

/-- `loc_read_conf_r` on an open file, and how many lines it reads. -/
def locReadConfR (lib : Libc) (table : List Param) (file : Text) (mem : Mem) : Mem × Nat :=
  fillLoop lib table (UInt32.ofNat table.length) (fgets file) (clearSet table mem)

/-- `loc_update_conf` with the length of the data; `malloc` is whether there is memory for the copy. -/
def locUpdateConf (lib : Libc) (malloc : Bool) (table : List Param) (confData : Text) (mem : Mem) : Mem × Int :=
  if confData ≠ [] ∧ table ≠ [] ∧ malloc then
    let q := fillLoop lib table (UInt32.ofNat table.length - 1) (strtok '\n' (cString confData)) mem
    (q.1, q.2)
  else (mem, -1)

end Wt88047.LocCfg
