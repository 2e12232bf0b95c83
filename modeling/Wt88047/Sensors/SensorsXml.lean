import Wt88047.Lib.Upsert
import Wt88047.Sensors.MultiHal
import Mathlib.Data.List.TakeWhile
import Mathlib.Tactic.SplitIfs

/-! The store of calibration parameters, in two XML files. Text nodes have no properties and are
left out of the trees. -/

namespace Wt88047.Sensors

structure XmlElement where
  properties : List (String × String)
  deriving DecidableEq

namespace XmlElement

def getProp (name : String) (e : XmlElement) : Option String :=
  (e.properties.find? fun p => p.1 = name).map (·.2)

def newProp (name value : String) (e : XmlElement) : XmlElement :=
  ⟨e.properties ++ [(name, value)]⟩

def setProp (name value : String) (e : XmlElement) : XmlElement :=
  ⟨Upsert.upsert (fun p => p.1 = name) (fun _ => (name, value)) (name, value) e.properties⟩

theorem getProp_setProp (name value other : String) (e : XmlElement) :
    (e.setProp name value).getProp other = if other = name then some value else e.getProp other := by
  rw [getProp, setProp]
  split
  · rename_i h
    subst h
    rw [Upsert.find_same (by simp) (by simp)]
    cases e.properties.find? fun p => p.1 = other <;> rfl
  · rename_i h
    rw [Upsert.find_other (fun a ha hb => h ?_) (fun a _ hb => h ?_) (fun hb => h ?_)]
    · rfl
    · simp only [decide_eq_true_eq] at ha hb
      rw [← ha, hb]
    · exact (of_decide_eq_true hb).symm
    · exact (of_decide_eq_true hb).symm

end XmlElement

structure XmlRoot where
  name : String
  children : List XmlElement
  deriving DecidableEq

structure XmlDoc where
  root : Option XmlRoot
  deriving DecidableEq

/-- A file as `xmlReadFile` sees it: strictly, and with `XML_PARSE_RECOVER`, which makes more of a
file that is not well formed. -/
structure StoreFile where
  content : Option XmlDoc
  recovered : Option XmlDoc
  wellFormed : ∀ doc, content = some doc → recovered = some doc
  readable : Bool
  writable : Bool

def StoreFile.save (doc : XmlDoc) (readable writable : Bool) : StoreFile :=
  ⟨some doc, some doc, fun _ h => h, readable, writable⟩

structure ParamFiles where
  persist : Option StoreFile
  data : Option StoreFile

structure CalSensor where
  name : String
  type : Int
  deriving DecidableEq

def calStatic : Int := 0
def calDynamic : Int := 1

def calState (state : Int) : String := if state = calStatic then "static" else "dynamic"

def sensorParam : List String :=
  ["offset_x", "offset_y", "offset_z", "threshold_h", "threshold_l", "bias"]

/-- `i` and `MAX` for a type: `SENSOR_TYPE_ACCELEROMETER` is 1, `SENSOR_TYPE_GYROSCOPE` 4 and
`SENSOR_TYPE_PROXIMITY` 8. -/
def paramRange (type : Int) : Nat × Nat :=
  if type = 1 ∨ type = 4 then (0, 3) else if type = 8 then (3, 6) else (0, 0)

def params (type : Int) : List String :=
  ((sensorParam.drop (paramRange type).1).take ((paramRange type).2 - (paramRange type).1)).take 3

/-- `atoi`: blanks, a sign, digits, and then anything. -/
def atoi (s : String) : Int :=
  match s.toList.dropWhile Char.isWhitespace with
  | '-' :: cs => -(Nat.ofDigitChars 10 (cs.takeWhile Char.isDigit) 0 : Int)
  | '+' :: cs => Nat.ofDigitChars 10 (cs.takeWhile Char.isDigit) 0
  | cs => Nat.ofDigitChars 10 (cs.takeWhile Char.isDigit) 0

theorem takeWhile_toDigits (n : Nat) :
    (Nat.toDigits 10 n).takeWhile Char.isDigit = Nat.toDigits 10 n := by
  rw [List.takeWhile_eq_self_iff]
  intro c hc
  exact Nat.isDigit_of_mem_toDigits (by decide) (by decide) hc

theorem isDigit_first {c : Char} (h : c.isDigit = true) :
    c.isWhitespace = false ∧ c ≠ '-' ∧ c ≠ '+' := by
  refine ⟨?_, ?_, ?_⟩
  · by_contra hw
    simp only [Char.isWhitespace, Bool.not_eq_false, Bool.or_eq_true, decide_eq_true_eq] at hw
    rcases hw with ((rfl | rfl) | rfl) | rfl <;> cases h
  · rintro rfl
    cases h
  · rintro rfl
    cases h

theorem atoi_repr (z : Int) : atoi z.repr = z := by
  cases z with
  | ofNat n =>
    have hlist : (Int.ofNat n).repr.toList = Nat.toDigits 10 n := by
      simp [Int.repr]
    have hdigits := takeWhile_toDigits n
    have hvalue := Nat.ofDigitChars_ten_toDigits (n := n)
    rw [atoi, hlist]
    cases hd : Nat.toDigits 10 n with
    | nil => exact absurd hd Nat.toDigits_ne_nil
    | cons c cs =>
      have hc : c.isDigit = true :=
        Nat.isDigit_of_mem_toDigits (by decide) (by decide) (hd ▸ List.mem_cons_self ..)
      obtain ⟨hblank, hminus, hplus⟩ := isDigit_first hc
      rw [hd] at hdigits hvalue
      rw [List.dropWhile_cons_of_neg (by simp [hblank])]
      split
      · rename_i heq
        exact absurd (List.cons.inj heq).1 hminus
      · rename_i heq
        exact absurd (List.cons.inj heq).1 hplus
      · rw [hdigits, hvalue]
        rfl
  | negSucc n =>
    have hlist : (Int.negSucc n).repr.toList = '-' :: Nat.toDigits 10 (n + 1) := by
      simp [Int.repr]
    rw [atoi, hlist, List.dropWhile_cons_of_neg (by decide)]
    show -(Nat.ofDigitChars 10 ((Nat.toDigits 10 (n + 1)).takeWhile Char.isDigit) 0 : Int) = _
    rw [takeWhile_toDigits, Nat.ofDigitChars_ten_toDigits]
    rfl

namespace XmlElement

def belongsTo (name state : String) (e : XmlElement) : Bool :=
  e.getProp "name" = some name ∧ e.getProp "state" = some state

def setParams (ps : List String) (offset : Nat → Int) (e : XmlElement) : XmlElement :=
  ps.zipIdx.foldl (fun e p => e.setProp p.1 (offset p.2).repr) e

def newSensor (sensor : CalSensor) (state : Int) (offset : Nat → Int) : XmlElement :=
  (params sensor.type).zipIdx.foldl (fun e p => e.newProp p.1 (offset p.2).repr)
    (newProp "state" (calState state) (newProp "name" sensor.name ⟨[]⟩))

def readParams (ps : List String) (e : XmlElement) (out : Nat → Int) (j : Nat) : Int :=
  match ps[j]?.bind fun p => e.getProp p with
  | some value => atoi value
  | none => out j

end XmlElement

/-- How the saving of a document ends: the file may be left in any state when it fails, and after
it `chown` or `chmod` may fail. -/
inductive Saving
  | saved
  | notSaved (left : Option StoreFile)
  | notOwned

inductive Copying
  | copied
  | failed (errno : Nat) (left : Option StoreFile)

def StoreFile.opened (f : StoreFile) : Except Int XmlRoot :=
  if f.writable = false then .error (-1)
  else
    match if f.readable then f.content else none with
    | none => .error einval
    | some doc =>
      match doc.root with
      | none => .error (-1)
      | some root => if root.name ≠ "sensors" then .error (-1) else .ok root

namespace ParamFiles

/-- `filepath[fnum]` for the number of a state. -/
def file (state : Int) (s : ParamFiles) : Option StoreFile :=
  if state = 1 then s.data else s.persist

def setFile (state : Int) (f : Option StoreFile) (s : ParamFiles) : ParamFiles :=
  if state = 1 then { s with data := f } else { s with persist := f }

def saveDoc (state : Int) (f : StoreFile) (saving : Saving) (s : ParamFiles) : Int × ParamFiles :=
  match saving with
  | .saved => (0, s.setFile state (some f))
  | .notSaved left => (-1, s.setFile state left)
  | .notOwned => (if state = 1 then 0 else -1, s.setFile state (some f))

def writeSensorsParams (sensor : CalSensor) (calResult : Option (Nat → Int)) (state : Int)
    (saving : Saving) (s : ParamFiles) : Int × ParamFiles :=
  if state < calStatic ∨ calDynamic < state then (-1, s)
  else
    match calResult with
    | none => (-1, s)
    | some offset =>
      match s.file state with
      | none =>
        let root : XmlRoot := ⟨"sensors", [.newSensor sensor state offset]⟩
        s.saveDoc state (.save ⟨root⟩ true true) saving
      | some f =>
        match f.opened with
        | .error err => (err, s)
        | .ok root =>
          let root : XmlRoot := { root with
            children := Upsert.upsert (·.belongsTo sensor.name (calState state))
              (·.setParams (params sensor.type) offset) (.newSensor sensor state offset)
              root.children }
          s.saveDoc state (.save ⟨root⟩ f.readable f.writable) saving

/-- `access(filepath[1], R_OK)` -/
def dataReadable (s : ParamFiles) : Bool := s.data.any (·.readable)

def configFileCopy (copying : Copying) (s : ParamFiles) : Int × ParamFiles :=
  match s.persist with
  | none => (-2, s)
  | some f =>
    if f.readable = false then (-13, s)
    else
      match copying, s.data with
      | .failed errno left, _ => (-errno, { s with data := left })
      | .copied, none => (0, { s with data := some { f with readable := true, writable := true } })
      | .copied, some _ => (0, s)

def readData (sensor : CalSensor) (out : Nat → Int) (state : Int) (s : ParamFiles) :
    Int × (Nat → Int) :=
  match (s.data.bind (·.recovered)).bind (·.root) with
  | none => (-1, out)
  | some root =>
    if root.name ≠ "sensors" then (-1, out)
    else
      match root.children.find? (·.belongsTo sensor.name (calState state)) with
      | none => (-1, fun j => if j < 3 then 0 else out j)
      | some e => (0, e.readParams (params sensor.type) out)

def readSensorsParams (sensor : CalSensor) (calResult : Option (Nat → Int)) (state : Int)
    (copying : Copying) (s : ParamFiles) : (Int × Option (Nat → Int)) × ParamFiles :=
  if state < calStatic ∨ calDynamic < state then ((-1, calResult), s)
  else
    match calResult with
    | none => ((-1, none), s)
    | some out =>
      if s.dataReadable then
        let r := s.readData sensor out state
        ((r.1, some r.2), s)
      else if s.persist.isNone then ((-1, some out), s)
      else
        let (err, s) := s.configFileCopy copying
        if err < 0 then ((err, some out), s)
        else if s.dataReadable then
          let r := s.readData sensor out state
          ((r.1, some r.2), s)
        else ((-1, some out), s)

def sensorsRmFile (removed : Bool) (s : ParamFiles) : Int × ParamFiles :=
  if s.data.isNone then (0, s)
  else if removed then (0, { s with data := none })
  else (-1, s)

end ParamFiles

end Wt88047.Sensors
