import Mathlib.Data.List.Perm.Subperm
import Mathlib.Data.List.Range

/-! Counting the cameras: the scans of the media devices and the sorting of what they found. -/

namespace Wt88047.CameraEnumeration

/-- `MM_CAMERA_MAX_NUM_SENSORS`, which the kernel's headers give as a small number. -/
structure Limit where
  max : Nat
  small : max ≤ 127

inductive Model
  | camera
  | config
  | other
  deriving DecidableEq

inductive EntityType
  | devnodeV4l
  | v4l2Subdev
  | other
  deriving DecidableEq

inductive GroupId
  | vnode
  | sensor
  | sensorInit
  | other
  deriving DecidableEq

structure Entity where
  type : EntityType
  groupId : GroupId
  name : String
  flags : Nat

structure Device where
  model : Option Model
  entities : List Entity

structure CameraInfo where
  facing : Nat
  orientation : Nat
  deriving DecidableEq

/-- `g_cam_ctrl`; the arrays have a place at every index, so that one out of bounds can be told. -/
structure Ctrl where
  numCam : Int
  videoDevName : Int → String
  info : Int → CameraInfo
  isYuv : Int → Bool

structure World where
  ctrl : Ctrl
  writes : List Int := []
  counted : List Bool := []

def Entity.isVideoNode (e : Entity) : Bool := e.type == .devnodeV4l && e.groupId == .vnode

def Entity.isSensor (e : Entity) : Bool := e.type == .v4l2Subdev && e.groupId == .sensor

def World.writeName (i : Int) (name : String) (w : World) : World :=
  { w with
    ctrl := { w.ctrl with videoDevName := fun j => if j = i then name else w.ctrl.videoDevName j }
    writes := w.writes ++ [i] }

def World.writeSensor (i : Int) (info : CameraInfo) (isYuv : Bool) (w : World) : World :=
  { w with
    ctrl := { w.ctrl with
      info := fun j => if j = i then info else w.ctrl.info j
      isYuv := fun j => if j = i then isYuv else w.ctrl.isYuv j }
    writes := w.writes ++ [i] }

def toInt8 (n : Int) : Int := Int.bmod n 256

/-- The scan of `get_num_of_cameras`; `num` is `num_cameras`. -/
def scanVideo : List Device → Int → World → Int × World
  | [], num, w => (num, w)
  | d :: rest, num, w =>
    match d.model with
    | none => (0, w)
    | some .camera =>
      let w :=
        match d.entities.find? Entity.isVideoNode with
        | some e => w.writeName num e.name
        | none => w
      let w := { w with counted := w.counted ++ [(d.entities.find? Entity.isVideoNode).isSome] }
      scanVideo rest (toInt8 (num + 1)) w
    | some _ => scanVideo rest num w

def Entity.cameraInfo (e : Entity) : CameraInfo :=
  let temp := e.flags >>> 8
  { facing := (temp &&& 0xFF00) >>> 8, orientation := (temp &&& 0xFF) * 90 }

/-- `CAM_SENSOR_FORMAT_MASK` -/
def Entity.yuv (e : Entity) : Bool := e.flags.testBit 25

def scanEntities : List Entity → Nat → World → Nat × World
  | [], num, w => (num, w)
  | e :: rest, num, w =>
    if e.isSensor then scanEntities rest (num + 1) (w.writeSensor num e.cameraInfo e.yuv)
    else scanEntities rest num w

def getSensorInfo : List Device → Nat → World → World
  | [], _, w => w
  | d :: rest, num, w =>
    match d.model with
    | none => w
    | some .config =>
      let (num, w) := scanEntities d.entities num w
      getSensorInfo rest num w
    | some _ => getSensorInfo rest num w

structure Temp where
  info : List CameraInfo := []
  isYuv : List Bool := []
  devName : List String := []
  writes : List Int := []

def facingBack : Nat := 0

def facingFront : Nat := 1

def Temp.save (c : Ctrl) (facing : Nat) (t : Temp) (i : Nat) : Temp :=
  if (c.info i).facing = facing then
    { info := t.info ++ [c.info i]
      isYuv := t.isYuv ++ [c.isYuv i]
      devName := t.devName ++ [c.videoDevName i]
      writes := t.writes ++ [(t.info.length : Int)] }
  else t

/-- The arrays are copied whole; beyond `idx` they are zero. -/
def sortCameraInfo (l : Limit) (numCam : Int) (w : World) : World :=
  let c := w.ctrl
  let t := (List.range numCam.toNat).foldl (Temp.save c facingBack) {}
  let t := (List.range numCam.toNat).foldl (Temp.save c facingFront) t
  let w := { w with writes := w.writes ++ t.writes }
  if (t.info.length : Int) = numCam then
    { w with ctrl := { c with
        info := fun i => if 0 ≤ i ∧ i < l.max then t.info.getD i.toNat ⟨0, 0⟩ else c.info i
        isYuv := fun i => if 0 ≤ i ∧ i < l.max then t.isYuv.getD i.toNat false else c.isYuv i
        videoDevName := fun i => if 0 ≤ i ∧ i < l.max then t.devName.getD i.toNat "" else c.videoDevName i } }
  else w

/-- What the kernel and the properties answer: `sensorInit` is whether the subdevice that the first
scan looks for opens. The devices may change from scan to scan. -/
structure Kernel where
  decrypt : Bool
  sensorInit : Bool
  devices : List Device
  sensorDevices : List Device

def scanned (k : Kernel) (c : Ctrl) : World :=
  let (num, w) := scanVideo k.devices 0 { ctrl := c }
  getSensorInfo k.sensorDevices 0 { w with ctrl := { w.ctrl with numCam := num } }

def Kernel.refuses (k : Kernel) : Bool := k.decrypt || !k.sensorInit

def getNumOfCameras (l : Limit) (k : Kernel) (c : Ctrl) : World :=
  if k.refuses then { ctrl := c } else sortCameraInfo l (scanned k c).ctrl.numCam (scanned k c)

structure Good (l : Limit) (w : World) : Prop where
  inBounds : ∀ i ∈ w.writes, 0 ≤ i ∧ i < l.max
  found : ∀ b ∈ w.counted, b = true

/-- The back cameras of the first `n`, then the front ones, each in their order. -/
def backFirst (c : Ctrl) (n : Nat) : List Nat :=
  ((List.range n).filter fun i : Nat => decide ((c.info i).facing = facingBack)) ++
    (List.range n).filter fun i : Nat => decide ((c.info i).facing = facingFront)

def Faces (c : Ctrl) (i : Nat) : Prop := (c.info i).facing = facingBack ∨ (c.info i).facing = facingFront

structure SortedFrom (c d : Ctrl) : Prop where
  sorted : (∀ i < c.numCam.toNat, Faces c i) →
    (backFirst c c.numCam.toNat).Perm (List.range c.numCam.toNat) ∧
      ∀ i j : Nat, (backFirst c c.numCam.toNat)[i]? = some j →
        d.videoDevName i = c.videoDevName j ∧ d.info i = c.info j ∧ d.isYuv i = c.isYuv j
  unsorted : (∃ i < c.numCam.toNat, ¬Faces c i) → d = c

def answering (devices : List Device) : List Device := devices.takeWhile fun d => d.model.isSome

def cameraDevices (devices : List Device) : List Device :=
  (answering devices).filter fun d => d.model == some .camera

def sensors (devices : List Device) : List Entity :=
  ((answering devices).filter fun d => d.model == some .config).flatMap fun d => d.entities.filter Entity.isSensor

/-- Every camera device has a video node, and there are no more of them, nor of the sensors, than
records. -/
structure Kernel.Fits (l : Limit) (k : Kernel) : Prop where
  nodes : ∀ d ∈ cameraDevices k.devices, (d.entities.find? Entity.isVideoNode).isSome = true
  cameras : (cameraDevices k.devices).length ≤ l.max
  sensors : (sensors k.sensorDevices).length ≤ l.max

variable {l : Limit} {c : Ctrl} {w v : World} {n : Nat}

def facingIndices (c : Ctrl) (facing : Nat) (is : List Nat) : List Nat :=
  is.filter fun i : Nat => decide ((c.info i).facing = facing)

theorem foldl_save (c : Ctrl) (facing : Nat) (is : List Nat) (t : Temp) :
    (is.foldl (Temp.save c facing) t).info = t.info ++ (facingIndices c facing is).map (fun i : Nat => c.info i) ∧
      (is.foldl (Temp.save c facing) t).isYuv =
        t.isYuv ++ (facingIndices c facing is).map (fun i : Nat => c.isYuv i) ∧
      (is.foldl (Temp.save c facing) t).devName =
        t.devName ++ (facingIndices c facing is).map (fun i : Nat => c.videoDevName i) := by
  induction is generalizing t with
  | nil => simp [facingIndices]
  | cons i is ih =>
    obtain ⟨hinfo, hyuv, hname⟩ := ih (Temp.save c facing t i)
    rw [List.foldl_cons, hinfo, hyuv, hname]
    by_cases h : (c.info i).facing = facing
    · simp [Temp.save, facingIndices, h]
    · simp [Temp.save, facingIndices, h]

theorem foldl_save_writes (c : Ctrl) (facing : Nat) (is : List Nat) (t : Temp) :
    ∀ k ∈ (is.foldl (Temp.save c facing) t).writes,
      k ∈ t.writes ∨ 0 ≤ k ∧ k < (is.foldl (Temp.save c facing) t).info.length := by
  induction is generalizing t with
  | nil => exact fun k hk => Or.inl hk
  | cons i is ih =>
    intro k hk
    rw [List.foldl_cons] at hk ⊢
    rcases ih _ k hk with hold | hnew
    · by_cases h : (c.info i).facing = facing
      · have hgrow := (foldl_save c facing is (Temp.save c facing t i)).1
        rw [Temp.save, if_pos h] at hold
        rcases List.mem_append.mp hold with hold | hold
        · exact Or.inl hold
        · right
          have hlen : (Temp.save c facing t i).info.length = t.info.length + 1 := by
            rw [Temp.save, if_pos h, List.length_append, List.length_singleton]
          rw [List.mem_singleton.mp hold, hgrow, List.length_append, hlen]
          omega
      · rw [Temp.save, if_neg h] at hold
        exact Or.inl hold
    · exact Or.inr hnew

theorem backFirst_eq (c : Ctrl) (n : Nat) :
    backFirst c n = facingIndices c facingBack (List.range n) ++ facingIndices c facingFront (List.range n) := rfl

theorem backFirst_perm (h : ∀ i < n, Faces c i) : (backFirst c n).Perm (List.range n) := by
  have hfront : facingIndices c facingFront (List.range n) =
      (List.range n).filter fun i : Nat => !decide ((c.info i).facing = facingBack) := by
    apply List.filter_congr
    intro i hi
    rcases h i (List.mem_range.mp hi) with hb | hf
    · simp [hb, facingBack, facingFront]
    · simp [hf, facingBack, facingFront]
  rw [backFirst_eq, hfront]
  exact List.filter_append_perm _ _

theorem backFirst_length_le (c : Ctrl) (n : Nat) : (backFirst c n).length ≤ n := by
  have hsub : (facingIndices c facingFront (List.range n)).length ≤
      ((List.range n).filter fun i : Nat => !decide ((c.info i).facing = facingBack)).length := by
    apply List.Sublist.length_le
    apply List.monotone_filter_right
    intro i hi
    have hf := of_decide_eq_true hi
    simp [hf, facingBack, facingFront]
  have hall := (List.filter_append_perm (fun i : Nat => decide ((c.info i).facing = facingBack))
    (List.range n)).length_eq
  rw [List.length_append, List.length_range] at hall
  rw [backFirst_eq, List.length_append]
  have hback : facingIndices c facingBack (List.range n) =
    (List.range n).filter fun i : Nat => decide ((c.info i).facing = facingBack) := rfl
  rw [hback]
  omega

theorem backFirst_length_lt {i : Nat} (hi : i < n) (h : ¬Faces c i) : (backFirst c n).length ≠ n := by
  intro hlen
  have hnodup : (backFirst c n).Nodup := by
    rw [backFirst_eq, List.nodup_append]
    refine ⟨List.nodup_range.filter _, List.nodup_range.filter _, ?_⟩
    intro a ha b hb hab
    have hback := of_decide_eq_true (List.mem_filter.mp ha).2
    have hfront := of_decide_eq_true (List.mem_filter.mp hb).2
    rw [hab, hfront] at hback
    exact absurd hback (by decide)
  have hsub : backFirst c n ⊆ List.range n := by
    intro a ha
    rcases List.mem_append.mp ha with ha | ha <;> exact (List.mem_filter.mp ha).1
  have hperm := (List.subperm_of_subset hnodup hsub).perm_of_length_le (by simp [hlen])
  have hmem := hperm.mem_iff.mpr (List.mem_range.mpr hi)
  rcases List.mem_append.mp hmem with hm | hm
  · exact h (Or.inl (of_decide_eq_true (List.mem_filter.mp hm).2))
  · exact h (Or.inr (of_decide_eq_true (List.mem_filter.mp hm).2))

def saved (c : Ctrl) (n : Nat) : Temp :=
  (List.range n).foldl (Temp.save c facingFront) ((List.range n).foldl (Temp.save c facingBack) {})

theorem saved_eq (c : Ctrl) (n : Nat) :
    (saved c n).info = (backFirst c n).map (fun i : Nat => c.info i) ∧
      (saved c n).isYuv = (backFirst c n).map (fun i : Nat => c.isYuv i) ∧
      (saved c n).devName = (backFirst c n).map (fun i : Nat => c.videoDevName i) := by
  obtain ⟨hinfo, hyuv, hname⟩ := foldl_save c facingFront (List.range n)
    ((List.range n).foldl (Temp.save c facingBack) {})
  obtain ⟨hinfo', hyuv', hname'⟩ := foldl_save c facingBack (List.range n) {}
  rw [saved, hinfo, hyuv, hname, hinfo', hyuv', hname', backFirst_eq]
  simp only [List.map_append]
  exact ⟨rfl, rfl, rfl⟩

theorem saved_length (c : Ctrl) (n : Nat) : (saved c n).info.length = (backFirst c n).length := by
  rw [(saved_eq c n).1, List.length_map]

theorem saved_writes {k : Int} (hk : k ∈ (saved c n).writes) : 0 ≤ k ∧ k < n := by
  have hle := backFirst_length_le c n
  have hlen := saved_length c n
  have hgrow : ((List.range n).foldl (Temp.save c facingBack) {}).info.length ≤ (saved c n).info.length := by
    rw [saved, (foldl_save c facingFront _ _).1, List.length_append]
    exact Nat.le_add_right _ _
  rcases foldl_save_writes c facingFront _ _ k hk with hold | hnew
  · rcases foldl_save_writes c facingBack _ _ k hold with hnone | hback
    · exact absurd hnone List.not_mem_nil
    · omega
  · have hfront : k < (saved c n).info.length := hnew.2
    omega

theorem sortCameraInfo_eq (l : Limit) (n : Nat) (w : World) :
    sortCameraInfo l n w =
      if ((saved w.ctrl n).info.length : Int) = n then
        { w with
          writes := w.writes ++ (saved w.ctrl n).writes
          ctrl := { w.ctrl with
            info := fun i =>
              if 0 ≤ i ∧ i < l.max then (saved w.ctrl n).info.getD i.toNat ⟨0, 0⟩ else w.ctrl.info i
            isYuv := fun i =>
              if 0 ≤ i ∧ i < l.max then (saved w.ctrl n).isYuv.getD i.toNat false else w.ctrl.isYuv i
            videoDevName := fun i =>
              if 0 ≤ i ∧ i < l.max then (saved w.ctrl n).devName.getD i.toNat "" else w.ctrl.videoDevName i } }
      else { w with writes := w.writes ++ (saved w.ctrl n).writes } := rfl

theorem sortCameraInfo_writes (l : Limit) (n : Nat) (w : World) :
    (sortCameraInfo l n w).writes = w.writes ++ (saved w.ctrl n).writes := by
  rw [sortCameraInfo_eq]
  split
  · rfl
  · rfl

theorem sortCameraInfo_counted (l : Limit) (n : Nat) (w : World) :
    (sortCameraInfo l n w).counted = w.counted := by
  rw [sortCameraInfo_eq]
  split
  · rfl
  · rfl

theorem sortCameraInfo_sorted (hn : w.ctrl.numCam = n) (hmax : n ≤ l.max) :
    SortedFrom w.ctrl (sortCameraInfo l n w).ctrl := by
  have hnat : w.ctrl.numCam.toNat = n := by rw [hn, Int.toNat_natCast]
  rw [sortCameraInfo_eq]
  obtain ⟨hinfo, hyuv, hname⟩ := saved_eq w.ctrl n
  constructor
  · intro h
    rw [hnat] at h ⊢
    have hperm := backFirst_perm h
    refine ⟨hperm, fun i j hij => ?_⟩
    have hlen : ((saved w.ctrl n).info.length : Int) = n := by
      rw [saved_length, hperm.length_eq, List.length_range]
    have hi : i < n := by
      have hlt := (List.getElem?_eq_some_iff.mp hij).1
      rw [hperm.length_eq, List.length_range] at hlt
      exact hlt
    have hplace : (0 : Int) ≤ (i : Int) ∧ (i : Int) < l.max := by omega
    rw [if_pos hlen]
    dsimp only
    rw [if_pos hplace, if_pos hplace, if_pos hplace, hinfo, hyuv, hname]
    simp [hij]
  · rintro ⟨i, hi, hside⟩
    rw [hnat] at hi
    have hlen := backFirst_length_lt hi hside
    rw [if_neg]
    rw [saved_length]
    omega

structure Extends (w v : World) : Prop where
  writes : w.writes ⊆ v.writes
  counted : w.counted ⊆ v.counted

theorem Extends.refl (w : World) : Extends w w := ⟨fun _ h => h, fun _ h => h⟩

theorem Extends.trans {u : World} (h : Extends u w) (h' : Extends w v) : Extends u v :=
  ⟨fun _ hi => h'.writes (h.writes hi), fun _ hb => h'.counted (h.counted hb)⟩

theorem Good.of_extends (h : Good l v) (he : Extends w v) : Good l w :=
  ⟨fun i hi => h.inBounds i (he.writes hi), fun b hb => h.found b (he.counted hb)⟩

def countDevice (d : Device) (num : Int) (w : World) : World :=
  let w :=
    match d.entities.find? Entity.isVideoNode with
    | some e => w.writeName num e.name
    | none => w
  { w with counted := w.counted ++ [(d.entities.find? Entity.isVideoNode).isSome] }

variable {d : Device}

theorem scanVideo_camera (hd : d.model = some .camera) (rest : List Device) (num : Int) (w : World)
    :
    scanVideo (d :: rest) num w = scanVideo rest (toInt8 (num + 1)) (countDevice d num w) := by
  rw [scanVideo, hd]
  rfl

theorem scanVideo_fails (hd : d.model = none) (rest : List Device) (num : Int) (w : World) :
    scanVideo (d :: rest) num w = (0, w) := by
  rw [scanVideo, hd]

variable {m : Model}

theorem scanVideo_skips (hd : d.model = some m) (hm : m ≠ .camera) (rest : List Device) (num : Int)
    (w : World) : scanVideo (d :: rest) num w = scanVideo rest num w := by
  rw [scanVideo, hd]
  cases m with
  | camera => exact absurd rfl hm
  | config => rfl
  | other => rfl

theorem countDevice_extends (d : Device) (num : Int) (w : World) : Extends w (countDevice d num w) := by
  constructor
  · rw [countDevice]
    cases d.entities.find? Entity.isVideoNode with
    | none => exact fun _ h => h
    | some e => exact fun _ h => List.mem_append_left _ h
  · rw [countDevice]
    cases d.entities.find? Entity.isVideoNode with
    | none => exact fun _ h => List.mem_append_left _ h
    | some e => exact fun _ h => List.mem_append_left _ h

variable (ds : List Device)

theorem scanVideo_extends (num : Int) (w : World) : Extends w (scanVideo ds num w).2 := by
  induction ds generalizing num w with
  | nil => exact Extends.refl w
  | cons d rest ih =>
    rcases hd : d.model with _ | m
    · rw [scanVideo_fails hd]
      exact Extends.refl w
    · by_cases hm : m = .camera
      · subst hm
        rw [scanVideo_camera hd]
        exact (countDevice_extends d num w).trans (ih _ _)
      · rw [scanVideo_skips hd hm]
        exact ih _ _

theorem countDevice_good (hw : Good l w) (d : Device) (k : Nat) :
    Good l (countDevice d k w) ↔ (d.entities.find? Entity.isVideoNode).isSome = true ∧ k < l.max := by
  rw [countDevice]
  cases d.entities.find? Entity.isVideoNode with
  | none =>
    constructor
    · intro h
      exact absurd (h.found false (List.mem_append_right _ (List.mem_singleton.mpr rfl))) Bool.false_ne_true
    · intro h
      exact absurd h.1 Bool.false_ne_true
  | some e =>
    constructor
    · intro h
      have hin := h.inBounds k (List.mem_append_right _ (List.mem_singleton.mpr rfl))
      exact ⟨rfl, by omega⟩
    · intro h
      constructor
      · intro i hi
        rcases List.mem_append.mp hi with hi | hi
        · exact hw.inBounds i hi
        · rw [List.mem_singleton.mp hi]
          have hlt := h.2
          omega
      · intro b hb
        rcases List.mem_append.mp hb with hb | hb
        · exact hw.found b hb
        · exact List.mem_singleton.mp hb

theorem cameraDevices_fails (hd : d.model = none) (rest : List Device) :
    cameraDevices (d :: rest) = [] := by
  simp [cameraDevices, answering, hd]

theorem cameraDevices_camera (hd : d.model = some .camera) (rest : List Device) :
    cameraDevices (d :: rest) = d :: cameraDevices rest := by
  simp [cameraDevices, answering, hd]

theorem cameraDevices_skips (hd : d.model = some m) (hm : m ≠ .camera) (rest : List Device) :
    cameraDevices (d :: rest) = cameraDevices rest := by
  simp [cameraDevices, answering, hd, hm]

theorem toInt8_of_le {k : Nat} (h : k ≤ l.max) : toInt8 k = k := by
  have hsmall := l.small
  rw [toInt8, Int.bmod_eq_of_le]
  · omega
  · omega

theorem scanVideo_good {k : Nat} (hk : k ≤ l.max) (hw : Good l w) :
    (Good l (scanVideo ds k w).2 ↔
        (∀ d ∈ cameraDevices ds, (d.entities.find? Entity.isVideoNode).isSome = true) ∧
          k + (cameraDevices ds).length ≤ l.max) ∧
      (Good l (scanVideo ds k w).2 → ∃ n : Nat, (scanVideo ds k w).1 = n ∧ n ≤ l.max) := by
  induction ds generalizing k w with
  | nil =>
    constructor
    · constructor
      · intro _
        exact ⟨fun _ hd => absurd hd List.not_mem_nil, hk⟩
      · intro _
        exact hw
    · intro _
      exact ⟨k, rfl, hk⟩
  | cons d rest ih =>
    rcases hd : d.model with _ | m
    · rw [scanVideo_fails hd, cameraDevices_fails hd]
      constructor
      · constructor
        · intro _
          exact ⟨fun _ hd => absurd hd List.not_mem_nil, hk⟩
        · intro _
          exact hw
      · intro _
        exact ⟨0, rfl, Nat.zero_le _⟩
    · by_cases hm : m = .camera
      · subst hm
        rw [scanVideo_camera hd, cameraDevices_camera hd, List.forall_mem_cons, List.length_cons]
        by_cases hgood : Good l (countDevice d k w)
        · obtain ⟨hnode, hlt⟩ := (countDevice_good hw d k).mp hgood
          have hnext : toInt8 ((k : Int) + 1) = ((k + 1 : Nat) : Int) := toInt8_of_le hlt
          rw [hnext]
          obtain ⟨hiff, hnum⟩ := ih hlt hgood
          refine ⟨?_, hnum⟩
          rw [hiff]
          constructor
          · rintro ⟨hall, hle⟩
            exact ⟨⟨hnode, hall⟩, by omega⟩
          · rintro ⟨⟨_, hall⟩, hle⟩
            exact ⟨hall, by omega⟩
        · -- what went wrong here cannot be undone later
          have hbad : ¬Good l (scanVideo rest (toInt8 ((k : Int) + 1)) (countDevice d k w)).2 :=
            fun h => hgood (h.of_extends (scanVideo_extends _ _ _))
          refine ⟨⟨fun h => absurd h hbad, ?_⟩, fun h => absurd h hbad⟩
          rintro ⟨⟨hnode, _⟩, hle⟩
          exact absurd ((countDevice_good hw d k).mpr ⟨hnode, by omega⟩) hgood
      · rw [scanVideo_skips hd hm, cameraDevices_skips hd hm]
        exact ih hk hw

theorem writeSensor_extends (i : Int) (info : CameraInfo) (isYuv : Bool) (w : World) :
    Extends w (w.writeSensor i info isYuv) :=
  ⟨fun _ h => List.mem_append_left _ h, fun _ h => h⟩

theorem writeSensor_good (hw : Good l w) (k : Nat) (info : CameraInfo) (isYuv : Bool) :
    Good l (w.writeSensor k info isYuv) ↔ k < l.max := by
  constructor
  · intro h
    have hin := h.inBounds k (List.mem_append_right _ (List.mem_singleton.mpr rfl))
    omega
  · intro hlt
    refine ⟨fun i hi => ?_, hw.found⟩
    rcases List.mem_append.mp hi with hi | hi
    · exact hw.inBounds i hi
    · rw [List.mem_singleton.mp hi]
      omega

theorem scanEntities_cons (e : Entity) (es : List Entity) (num : Nat) (w : World) :
    scanEntities (e :: es) num w =
      if e.isSensor then scanEntities es (num + 1) (w.writeSensor num e.cameraInfo e.yuv)
      else scanEntities es num w := rfl

variable (es : List Entity)

theorem scanEntities_extends (num : Nat) (w : World) :
    Extends w (scanEntities es num w).2 ∧ (scanEntities es num w).2.ctrl.numCam = w.ctrl.numCam := by
  induction es generalizing num w with
  | nil => exact ⟨Extends.refl w, rfl⟩
  | cons e es ih =>
    rw [scanEntities_cons]
    by_cases he : e.isSensor
    · rw [if_pos he]
      obtain ⟨hext, hnum⟩ := ih (num + 1) (w.writeSensor num e.cameraInfo e.yuv)
      exact ⟨(writeSensor_extends _ _ _ _).trans hext, hnum⟩
    · rw [if_neg he]
      exact ih num w

theorem scanEntities_num (num : Nat) (w : World) :
    (scanEntities es num w).1 = num + (es.filter Entity.isSensor).length := by
  induction es generalizing num w with
  | nil => rfl
  | cons e es ih =>
    rw [scanEntities_cons]
    by_cases he : e.isSensor
    · rw [if_pos he, ih, List.filter_cons_of_pos he, List.length_cons]
      omega
    · rw [if_neg he, ih, List.filter_cons_of_neg he]

theorem scanEntities_good {num : Nat} (hnum : num ≤ l.max) (hw : Good l w) :
    Good l (scanEntities es num w).2 ↔ num + (es.filter Entity.isSensor).length ≤ l.max := by
  induction es generalizing num w with
  | nil =>
    constructor
    · intro _
      exact hnum
    · intro _
      exact hw
  | cons e es ih =>
    rw [scanEntities_cons]
    by_cases he : e.isSensor
    · rw [if_pos he, List.filter_cons_of_pos he, List.length_cons]
      by_cases hlt : num < l.max
      · rw [ih hlt ((writeSensor_good hw num _ _).mpr hlt)]
        omega
      · constructor
        · intro h
          exact absurd ((writeSensor_good hw num _ _).mp (h.of_extends (scanEntities_extends es _ _).1)) hlt
        · intro hle
          omega
    · rw [if_neg he, List.filter_cons_of_neg he]
      exact ih hnum hw

theorem getSensorInfo_fails (hd : d.model = none) (rest : List Device) (num : Nat) (w : World) :
    getSensorInfo (d :: rest) num w = w := by
  rw [getSensorInfo, hd]

theorem getSensorInfo_config (hd : d.model = some .config) (rest : List Device) (num : Nat)
    (w : World) : getSensorInfo (d :: rest) num w =
      getSensorInfo rest (scanEntities d.entities num w).1 (scanEntities d.entities num w).2 := by
  rw [getSensorInfo, hd]

theorem getSensorInfo_skips (hd : d.model = some m) (hm : m ≠ .config) (rest : List Device)
    (num : Nat) (w : World) : getSensorInfo (d :: rest) num w = getSensorInfo rest num w := by
  rw [getSensorInfo, hd]
  cases m with
  | config => exact absurd rfl hm
  | camera => rfl
  | other => rfl

theorem getSensorInfo_extends (num : Nat) (w : World) :
    Extends w (getSensorInfo ds num w) ∧ (getSensorInfo ds num w).ctrl.numCam = w.ctrl.numCam := by
  induction ds generalizing num w with
  | nil => exact ⟨Extends.refl w, rfl⟩
  | cons d rest ih =>
    rcases hd : d.model with _ | m
    · rw [getSensorInfo_fails hd]
      exact ⟨Extends.refl w, rfl⟩
    · by_cases hm : m = .config
      · subst hm
        rw [getSensorInfo_config hd]
        obtain ⟨hext, hnum⟩ := scanEntities_extends d.entities num w
        obtain ⟨hext', hnum'⟩ := ih (scanEntities d.entities num w).1 (scanEntities d.entities num w).2
        exact ⟨hext.trans hext', hnum'.trans hnum⟩
      · rw [getSensorInfo_skips hd hm]
        exact ih num w

theorem sensors_fails (hd : d.model = none) (rest : List Device) : sensors (d :: rest) = [] := by
  simp [sensors, answering, hd]

theorem sensors_config (hd : d.model = some .config) (rest : List Device) :
    sensors (d :: rest) = d.entities.filter Entity.isSensor ++ sensors rest := by
  simp [sensors, answering, hd]

theorem sensors_skips (hd : d.model = some m) (hm : m ≠ .config) (rest : List Device) :
    sensors (d :: rest) = sensors rest := by
  simp [sensors, answering, hd, hm]

theorem getSensorInfo_good {num : Nat} (hnum : num ≤ l.max) (hw : Good l w) :
    Good l (getSensorInfo ds num w) ↔ num + (sensors ds).length ≤ l.max := by
  induction ds generalizing num w with
  | nil =>
    constructor
    · intro _
      exact hnum
    · intro _
      exact hw
  | cons d rest ih =>
    rcases hd : d.model with _ | m
    · rw [getSensorInfo_fails hd, sensors_fails hd]
      constructor
      · intro _
        exact hnum
      · intro _
        exact hw
    · by_cases hm : m = .config
      · subst hm
        rw [getSensorInfo_config hd, sensors_config hd, List.length_append]
        by_cases hgood : Good l (scanEntities d.entities num w).2
        · have hle := (scanEntities_good d.entities hnum hw).mp hgood
          have hnum' := scanEntities_num d.entities num w
          rw [ih (by omega) hgood, hnum']
          omega
        · constructor
          · intro h
            exact absurd (h.of_extends (getSensorInfo_extends rest _ _).1) hgood
          · intro hle
            exact absurd ((scanEntities_good d.entities hnum hw).mpr (by omega)) hgood
      · rw [getSensorInfo_skips hd hm, sensors_skips hd hm]
        exact ih hnum hw

variable {k : Kernel}

theorem scanned_eq (k : Kernel) (c : Ctrl) :
    scanned k c = getSensorInfo k.sensorDevices 0
      { (scanVideo k.devices 0 { ctrl := c }).2 with
        ctrl := { (scanVideo k.devices 0 { ctrl := c }).2.ctrl with
          numCam := (scanVideo k.devices 0 { ctrl := c }).1 } } := rfl

theorem good_start (l : Limit) (c : Ctrl) : Good l { ctrl := c } :=
  ⟨fun _ h => absurd h List.not_mem_nil, fun _ h => absurd h List.not_mem_nil⟩

theorem good_ctrl (l : Limit) (w : World) (c : Ctrl) : Good l { w with ctrl := c } ↔ Good l w :=
  ⟨fun h => ⟨h.inBounds, h.found⟩, fun h => ⟨h.inBounds, h.found⟩⟩

theorem scanned_good (l : Limit) (k : Kernel) (c : Ctrl) : Good l (scanned k c) ↔ k.Fits l := by
  obtain ⟨hiff, -⟩ := scanVideo_good k.devices (Nat.zero_le l.max) (good_start l c)
  rw [Nat.zero_add] at hiff
  rw [scanned_eq]
  constructor
  · intro h
    have hvideo := (good_ctrl l _ _).mp (h.of_extends (getSensorInfo_extends _ _ _).1)
    have hsensors := (getSensorInfo_good _ (Nat.zero_le _) ((good_ctrl l _ _).mpr hvideo)).mp h
    rw [Nat.zero_add] at hsensors
    exact ⟨(hiff.mp hvideo).1, (hiff.mp hvideo).2, hsensors⟩
  · intro h
    have hvideo := hiff.mpr ⟨h.nodes, h.cameras⟩
    apply (getSensorInfo_good _ (Nat.zero_le _) ((good_ctrl l _ _).mpr hvideo)).mpr
    rw [Nat.zero_add]
    exact h.sensors

theorem scanned_numCam (h : Good l (scanned k c)) : ∃ n : Nat, (scanned k c).ctrl.numCam = n ∧ n ≤ l.max := by
  obtain ⟨-, hnum⟩ := scanVideo_good k.devices (Nat.zero_le l.max) (good_start l c)
  rw [scanned_eq] at h ⊢
  have hvideo := (good_ctrl l _ _).mp (h.of_extends (getSensorInfo_extends _ _ _).1)
  obtain ⟨n, hn, hle⟩ := hnum hvideo
  exact ⟨n, (getSensorInfo_extends _ _ _).2.trans hn, hle⟩

theorem sortCameraInfo_extends (l : Limit) (numCam : Int) (w : World) : Extends w (sortCameraInfo l numCam w) := by
  rw [sortCameraInfo]
  dsimp only
  split
  · exact ⟨fun _ h => List.mem_append_left _ h, fun _ h => h⟩
  · exact ⟨fun _ h => List.mem_append_left _ h, fun _ h => h⟩

theorem sortCameraInfo_good (hw : Good l w) (hn : n ≤ l.max) : Good l (sortCameraInfo l n w) := by
  constructor
  · rw [sortCameraInfo_writes]
    intro i hi
    rcases List.mem_append.mp hi with hi | hi
    · exact hw.inBounds i hi
    · have hin := saved_writes hi
      omega
  · rw [sortCameraInfo_counted]
    exact hw.found

theorem getNumOfCameras_refused (h : k.refuses = true) (l : Limit) (c : Ctrl) :
    getNumOfCameras l k c = { ctrl := c } := if_pos h

theorem getNumOfCameras_runs (h : k.refuses ≠ true) (l : Limit) (c : Ctrl) :
    getNumOfCameras l k c = sortCameraInfo l (scanned k c).ctrl.numCam (scanned k c) := if_neg h

/-- Enumerating goes as it should exactly when it is refused, or every device that is counted has a
video node and neither the devices nor the sensors outnumber the records. -/
theorem enumeration_in_bounds_iff (l : Limit) (k : Kernel) (c : Ctrl) :
    (Good l (getNumOfCameras l k c) ∧
        (k.refuses = false → SortedFrom (scanned k c).ctrl (getNumOfCameras l k c).ctrl)) ↔
      k.refuses = true ∨ k.Fits l := by
  by_cases href : k.refuses = true
  · rw [getNumOfCameras_refused href]
    constructor
    · intro _
      exact Or.inl href
    · intro _
      exact ⟨good_start l c, fun hruns => absurd (hruns.symm.trans href) Bool.false_ne_true⟩
  · rw [getNumOfCameras_runs href, ← scanned_good l k c]
    constructor
    · rintro ⟨hgood, -⟩
      exact Or.inr (hgood.of_extends (sortCameraInfo_extends l _ _))
    · rintro (h | hgood)
      · exact absurd h href
      · obtain ⟨n, hn, hle⟩ := scanned_numCam hgood
        rw [hn]
        exact ⟨sortCameraInfo_good hgood hle, fun _ => sortCameraInfo_sorted hn hle⟩

def deviceWithoutNode : Device := { model := some .camera, entities := [] }

def kernelWithoutNode : Kernel :=
  { decrypt := false, sensorInit := true, devices := [deviceWithoutNode], sensorDevices := [] }

def emptyCtrl : Ctrl :=
  { numCam := 0, videoDevName := fun _ => "", info := fun _ => ⟨0, 0⟩, isYuv := fun _ => false }

/-- The device is counted all the same. -/
theorem device_without_node_counted :
    kernelWithoutNode.refuses = false ∧
      ¬Good ⟨5, by decide⟩ (getNumOfCameras ⟨5, by decide⟩ kernelWithoutNode emptyCtrl) := by
  refine ⟨rfl, fun h => ?_⟩
  have hmem : false ∈ (getNumOfCameras ⟨5, by decide⟩ kernelWithoutNode emptyCtrl).counted := List.mem_singleton.mpr rfl
  exact Bool.false_ne_true (h.found false hmem)

end Wt88047.CameraEnumeration
