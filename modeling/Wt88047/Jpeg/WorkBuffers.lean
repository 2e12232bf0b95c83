import Wt88047.Lib.Allocation
import Wt88047.Lib.Runs
import Wt88047.Jpeg.JpegInterface

/-! The ION buffers behind the work buffers of the JPEG object, and the work buffer that each job is
encoded with. -/

namespace Jpeg

open World Allocation

def EncodeJob.workSize (job : EncodeJob) : Nat :=
  (ceiling64 job.width * ceiling64 job.height * 3 / 2).toNat

def WorkBufs.addrs (b : WorkBufs) : List Nat :=
  (List.range b.workBufCnt).map fun i => (b.ionBuffer i).addr

def workBufsNeed (count : Nat) (job : EncodeJob) (numSessions : Nat) : Nat :=
  if job.workBuf.addr ≠ 0 then min (numSessions + 1) count - 1 else min (numSessions + 1) count

/-- `mm_jpeg_start_job` calls `mm_jpeg_check_resolution_change`. -/
abbrev Checks (count : Nat) (job : EncodeJob) (numSessions : Nat) : Prop :=
  ¬(job.workBuf.addr ≠ 0 ∧ workBufsNeed count job numSessions = 0)

abbrev Changes (count : Nat) (job : EncodeJob) (numSessions : Nat) (b : WorkBufs) : Prop :=
  Checks count job numSessions ∧ b.workBufCnt = workBufsNeed count job numSessions ∧
    job.width * job.height ≠ b.prevW * b.prevH

abbrev Refuses (count : Nat) (job : EncodeJob) (numSessions : Nat) (b : WorkBufs) : Prop :=
  Checks count job numSessions ∧ workBufsNeed count job numSessions < b.workBufCnt

def allocHeap (alloc : Nat → Nat × Int) : Nat → Nat → (Nat → Nat) → Heap Nat → Heap Nat
  | 0, _, _, h => h
  | k + 1, i, addr, h =>
    if (alloc i).1 = 0 then h.freeAll ((List.range i).reverse.map addr)
    else allocHeap alloc k (i + 1) (Function.update addr i (alloc i).1) (h.alloc (alloc i).1)

def WorkBufs.checked (count : Nat) (job : EncodeJob) (numSessions : Nat) (b : WorkBufs) : WorkBufs :=
  { b with
    workBufCnt := if Changes count job numSessions b then 0 else b.workBufCnt
    prevW := job.width
    prevH := job.height }

def checkedHeap (count : Nat) (job : EncodeJob) (numSessions : Nat) (b : WorkBufs) (h : Heap Nat) :
    Heap Nat :=
  if Changes count job numSessions b then h.freeAll b.addrs.reverse else h

def reserveHeap (count : Nat) (alloc : Nat → Nat × Int) (job : EncodeJob) (numSessions : Nat)
    (b : WorkBufs) (h : Heap Nat) : Heap Nat :=
  if Refuses count job numSessions b then h
  else
    let c := b.checked count job numSessions
    allocHeap alloc (workBufsNeed count job numSessions - c.workBufCnt) c.workBufCnt
      (fun i => (c.ionBuffer i).addr) (checkedHeap count job numSessions b h)

structure Handed where
  slot : Slot
  job : EncodeJob
  buf : WorkBuffer
deriving DecidableEq

structure Stock where
  world : World := {}
  heap : Heap Nat := {}
  hal : List WorkBuffer := []
  handed : List Handed := []

def Encoding (w : World) (s : Slot) : Bool :=
  (w.session s).active && (w.session s).encoding && (w.session s).abortState = .none

def Event.takes (e : Event) (w' : World) : Option Slot :=
  match e with
  | .wake _ => w'.inEncode
  | _ => none

namespace Stock

def heapAfter (count : Nat) (s : Stock) (e : Event) (w' : World) : Heap Nat :=
  match e with
  | .call (.startJob (some job) o) =>
    if s.world.opened && validIdx job.sessionId then
      reserveHeap count o.alloc job s.world.numSessions s.world.work s.heap
    else s.heap
  | .call (.open _) | .call (.close _) =>
    if s.world.opened && !w'.opened then s.heap.freeAll s.world.work.addrs else s.heap
  | _ => s.heap

def halAfter (s : Stock) (e : Event) : List WorkBuffer :=
  match e with
  | .call (.startJob (some job) _) => if job.workBuf.addr = 0 then s.hal else job.workBuf :: s.hal
  | _ => s.hal

def handedAfter (s : Stock) (e : Event) (w' : World) : List Handed :=
  s.handed.filter (fun x => Encoding w' x.slot && e.takes w' ≠ some x.slot) ++
    (e.takes w').toList.map fun t => ⟨t, (w'.session t).encodeJob, (w'.session t).workBuffer⟩

def step (count : Nat) (s : Stock) (e : Event) : Option Stock :=
  (Jpeg.step count s.world e).map fun w' =>
    { world := w', heap := s.heapAfter count e w', hal := s.halAfter e
      handed := s.handedAfter e w' }

end Stock

variable {count k i need numSessions size : Nat} {alloc : Nat → Nat × Int} {job : EncodeJob}
  {b : WorkBufs} {h : Heap Nat} {cur : WorkBuffer}

def keptBuf (count : Nat) (job : EncodeJob) (numSessions : Nat) (b : WorkBufs) : Option WorkBuffer :=
  if workBufsNeed count job numSessions ≤ b.workBufCnt ∧ ¬Changes count job numSessions b then
    some (if job.workBuf.addr ≠ 0 then job.workBuf else b.ionBuffer 0)
  else none

theorem reserveWorkBufs_refused (hr : Refuses count job numSessions b) :
    (reserveWorkBufs count alloc job numSessions b).1 = b ∧
      (reserveWorkBufs count alloc job numSessions b).2.1 =
        (if job.workBuf.addr ≠ 0 then job.workBuf else b.ionBuffer 0) ∧
      (reserveWorkBufs count alloc job numSessions b).2.2.2 = false := by
  obtain ⟨hc, hlt⟩ := hr
  have hchecked : (if job.workBuf.addr ≠ 0 ∧ workBufsNeed count job numSessions = 0 then some b
      else checkResolutionChange (workBufsNeed count job numSessions) job b) = none := by
    rw [if_neg hc, checkResolutionChange, if_pos hlt]
  unfold reserveWorkBufs
  dsimp only
  unfold workBufsNeed at hchecked
  rw [hchecked]
  exact ⟨rfl, rfl, rfl⟩

theorem reserveWorkBufs_checked (hr : ¬Refuses count job numSessions b) :
    let c := b.checked count job numSessions
    let r := allocWorkBufs (ceiling32 job.workSize) alloc
      (workBufsNeed count job numSessions - c.workBufCnt) c.workBufCnt c
      (if job.workBuf.addr ≠ 0 then job.workBuf else b.ionBuffer 0)
    (reserveWorkBufs count alloc job numSessions b).1 = r.1 ∧
      (reserveWorkBufs count alloc job numSessions b).2.1 = r.2.1 ∧
      (reserveWorkBufs count alloc job numSessions b).2.2.2 = r.2.2 := by
  have hchecked : ∃ c, (if job.workBuf.addr ≠ 0 ∧ workBufsNeed count job numSessions = 0 then some b
      else checkResolutionChange (workBufsNeed count job numSessions) job b) = some c ∧
        { c with prevW := job.width, prevH := job.height } = b.checked count job numSessions := by
    unfold WorkBufs.checked
    by_cases hc : Checks count job numSessions
    · rw [if_neg hc, checkResolutionChange, if_neg fun hlt => hr ⟨hc, hlt⟩]
      by_cases hp : b.workBufCnt = workBufsNeed count job numSessions ∧
          job.width * job.height ≠ b.prevW * b.prevH
      · rw [if_pos hp, if_pos ⟨hc, hp⟩]
        exact ⟨_, rfl, rfl⟩
      · rw [if_neg hp, if_neg fun hn => hp hn.2]
        exact ⟨_, rfl, rfl⟩
    · rw [if_pos (not_not.mp hc), if_neg fun hn => hc hn.1]
      exact ⟨_, rfl, rfl⟩
  obtain ⟨c, hc, heq⟩ := hchecked
  intro d r
  have hd : { c with prevW := job.width, prevH := job.height } = d := heq
  unfold reserveWorkBufs
  dsimp only
  unfold workBufsNeed at hc
  rw [hc]
  dsimp only
  have hcnt : c.workBufCnt = d.workBufCnt := by rw [← hd]
  rw [hd, hcnt]
  exact ⟨rfl, rfl, rfl⟩

theorem addrs_concat (b : WorkBufs) (buf : WorkBuffer) :
    WorkBufs.addrs { b with
      ionBuffer := fun j => if j = b.workBufCnt then buf else b.ionBuffer j
      workBufCnt := b.workBufCnt + 1 } = b.addrs ++ [buf.addr] := by
  unfold WorkBufs.addrs
  dsimp only
  rw [List.range_succ, List.map_append, List.map_cons, if_pos rfl, List.map_nil]
  congr 1
  apply List.map_congr_left
  intro j hj
  rw [if_neg (Nat.ne_of_lt (List.mem_range.mp hj))]

theorem allocWorkBufs_spec (k : Nat) (hi : b.workBufCnt = i) (he : h.Exactly b.addrs)
    (hfresh : ∀ j, i ≤ j → j < i + k → (alloc j).1 ≠ 0 ∧ (alloc j).1 ∉ h.live ∧
      ∀ m, i ≤ m → m < j → (alloc m).1 ≠ (alloc j).1) :
    let r := allocWorkBufs size alloc k i b cur
    let g := allocHeap alloc k i (fun j => (b.ionBuffer j).addr) h
    r.2.2 = true ∧ g.Exactly r.1.addrs ∧ h.live ⊆ g.live ∧ (k = 0 → r.2.1 = cur) ∧
      (0 < k → r.2.1.size = size ∧ r.2.1.addr ∈ g.live ∧
        ∃ j, i ≤ j ∧ j < i + k ∧ r.2.1.addr = (alloc j).1) := by
  induction k generalizing i b h cur with
  | zero => exact ⟨rfl, he, List.Subset.refl _, fun _ => rfl, fun hk => absurd hk (Nat.lt_irrefl 0)⟩
  | succ k ih =>
    obtain ⟨hne, hnew, -⟩ := hfresh i (Nat.le_refl i) (by omega)
    let buf : WorkBuffer := { addr := (alloc i).1, size := size, fd := (alloc i).2 }
    let c : WorkBufs := { b with
      ionBuffer := fun j => if j = i then buf else b.ionBuffer j
      workBufCnt := b.workBufCnt + 1 }
    have hc : c.addrs = b.addrs ++ [(alloc i).1] := by
      have hconcat := addrs_concat b buf
      rw [hi] at hconcat
      simpa only [c, hi] using hconcat
    have hlater : ∀ j, i + 1 ≤ j → j < i + 1 + k → (alloc j).1 ≠ 0 ∧
        (alloc j).1 ∉ (h.alloc (alloc i).1).live ∧
          ∀ m, i + 1 ≤ m → m < j → (alloc m).1 ≠ (alloc j).1 := by
      intro j hj hlt
      obtain ⟨hz, hn, hd⟩ := hfresh j (by omega) (by omega)
      refine ⟨hz, fun hmem => ?_, fun m hm hmj => hd m (by omega) hmj⟩
      rcases List.mem_append.mp hmem with hmem | hmem
      · exact hn hmem
      · exact hd i (Nat.le_refl i) (by omega) (List.mem_singleton.mp hmem).symm
    have hex : (h.alloc (alloc i).1).Exactly c.addrs := by
      rw [hc]
      exact he.alloc fun hmem => hnew (he.mem.mpr hmem)
    have hrest := @ih (i + 1) c (h.alloc (alloc i).1) buf (by rw [← hi]) hex hlater
    have haddr : Function.update (fun j => (b.ionBuffer j).addr) i (alloc i).1 =
        fun j => (c.ionBuffer j).addr := by
      funext j
      by_cases hj : j = i
      · subst hj
        simp [c, buf]
      · simp [c, hj]
    intro r g
    have hr : r = allocWorkBufs size alloc k (i + 1) c buf := by
      show (if (alloc i).1 = 0 then _ else _) = _
      rw [if_neg hne]
    have hg : g = allocHeap alloc k (i + 1) (fun j => (c.ionBuffer j).addr) (h.alloc (alloc i).1) := by
      show (if (alloc i).1 = 0 then _ else _) = _
      rw [if_neg hne, haddr]
    rw [hr, hg]
    obtain ⟨hok, hexact, hsub, hzero, hpos⟩ := hrest
    refine ⟨hok, hexact, ?_, nofun, fun _ => ?_⟩
    · exact fun a ha => hsub (List.mem_append_left _ ha)
    · rcases Nat.eq_zero_or_pos k with hk | hk
      · rw [hzero hk]
        exact ⟨rfl, hsub (List.mem_append_right _ (List.mem_singleton_self _)), i, Nat.le_refl i,
          by omega, rfl⟩
      · obtain ⟨hsize, hmem, j, hj, hlt, heq⟩ := hpos hk
        exact ⟨hsize, hmem, j, by omega, by omega, heq⟩

abbrev Fills (count : Nat) (job : EncodeJob) (numSessions : Nat) (b : WorkBufs) (j : Nat) : Prop :=
  Changes count job numSessions b ∨ b.workBufCnt ≤ j

/-- The allocations that a job comes to succeed, with addresses that are not in use. -/
def Obtains (count : Nat) (alloc : Nat → Nat × Int) (job : EncodeJob) (numSessions : Nat)
    (b : WorkBufs) (h : Heap Nat) : Prop :=
  ∀ j < workBufsNeed count job numSessions, Fills count job numSessions b j →
    (alloc j).1 ≠ 0 ∧ (Changes count job numSessions b ∨ (alloc j).1 ∉ h.live) ∧
      ∀ m < j, Fills count job numSessions b m → (alloc m).1 ≠ (alloc j).1

instance : Decidable (Obtains count alloc job numSessions b h) :=
  have : ∀ j, Decidable (Fills count job numSessions b j →
      (alloc j).1 ≠ 0 ∧ (Changes count job numSessions b ∨ (alloc j).1 ∉ h.live) ∧
        ∀ m < j, Fills count job numSessions b m → (alloc m).1 ≠ (alloc j).1) :=
    fun _ => inferInstance
  Nat.decidableBallLT _ _

structure Reserved (count : Nat) (alloc : Nat → Nat × Int) (job : EncodeJob) (numSessions : Nat)
    (b : WorkBufs) (h : Heap Nat) (b' : WorkBufs) (buf : WorkBuffer) (g : Heap Nat) : Prop where
  exactly : g.Exactly b'.addrs
  live : ¬Changes count job numSessions b → h.live ⊆ g.live
  kept : ∀ x, keptBuf count job numSessions b = some x →
    buf = x ∧ (job.workBuf.addr = 0 → x.addr ∈ g.live)
  fresh : keptBuf count job numSessions b = none → buf.size = ceiling32 job.workSize ∧
    buf.addr ∈ g.live ∧ ∃ j < workBufsNeed count job numSessions,
      Fills count job numSessions b j ∧ buf.addr = (alloc j).1

theorem first_mem_addrs (hb : 0 < b.workBufCnt) : (b.ionBuffer 0).addr ∈ b.addrs :=
  List.mem_map.mpr ⟨0, List.mem_range.mpr hb, rfl⟩

theorem need_pos (hcount : 0 < count) (hj : job.workBuf.addr = 0) :
    0 < workBufsNeed count job numSessions := by
  unfold workBufsNeed
  rw [if_neg fun hn => hn hj]
  omega

theorem checked_exactly (he : h.Exactly b.addrs) :
    (checkedHeap count job numSessions b h).Exactly (b.checked count job numSessions).addrs := by
  unfold checkedHeap WorkBufs.addrs WorkBufs.checked
  by_cases hc : Changes count job numSessions b
  · rw [if_pos hc, if_pos hc]
    exact (he.congr b.addrs.reverse_perm.symm).freeAll
  · rw [if_neg hc, if_neg hc]
    exact he

theorem reserve_refused (hr : Refuses count job numSessions b) (he : h.Exactly b.addrs) :
    Reserved count alloc job numSessions b h (reserveWorkBufs count alloc job numSessions b).1
      (reserveWorkBufs count alloc job numSessions b).2.1
      (reserveHeap count alloc job numSessions b h) := by
  obtain ⟨hbufs, hcur, -⟩ := @reserveWorkBufs_refused count numSessions alloc job b hr
  have hlt := hr.2
  have hnot : ¬Changes count job numSessions b := fun hc => absurd hc.2.1 (by omega)
  have hkept : keptBuf count job numSessions b =
      some (if job.workBuf.addr ≠ 0 then job.workBuf else b.ionBuffer 0) :=
    if_pos ⟨Nat.le_of_lt hlt, hnot⟩
  rw [hbufs, hcur, reserveHeap, if_pos hr]
  refine ⟨he, fun _ => List.Subset.refl _, fun x hx => ?_, fun hn => ?_⟩
  · rw [hkept] at hx
    obtain rfl := Option.some.inj hx
    refine ⟨rfl, fun hj => ?_⟩
    rw [if_neg fun hn => hn hj]
    exact he.mem.mpr (first_mem_addrs (by omega))
  · rw [hkept] at hn
    cases hn

theorem reserve_spec (hcount : 0 < count) (he : h.Exactly b.addrs)
    (ho : Obtains count alloc job numSessions b h) :
    Reserved count alloc job numSessions b h (reserveWorkBufs count alloc job numSessions b).1
      (reserveWorkBufs count alloc job numSessions b).2.1
      (reserveHeap count alloc job numSessions b h) := by
  by_cases hr : Refuses count job numSessions b
  · exact reserve_refused hr he
  obtain ⟨hbufs, hcur, -⟩ := @reserveWorkBufs_checked count numSessions alloc job b hr
  have hstart : ∀ j, (b.checked count job numSessions).workBufCnt ≤ j →
      Fills count job numSessions b j := by
    intro j hj
    by_cases hc : Changes count job numSessions b
    · exact Or.inl hc
    · refine Or.inr ?_
      unfold WorkBufs.checked at hj
      rwa [if_neg hc] at hj
  have hfresh : ∀ j, (b.checked count job numSessions).workBufCnt ≤ j →
      j < (b.checked count job numSessions).workBufCnt +
        (workBufsNeed count job numSessions - (b.checked count job numSessions).workBufCnt) →
      (alloc j).1 ≠ 0 ∧ (alloc j).1 ∉ (checkedHeap count job numSessions b h).live ∧
        ∀ m, (b.checked count job numSessions).workBufCnt ≤ m → m < j →
          (alloc m).1 ≠ (alloc j).1 := by
    intro j hj hlt
    obtain ⟨hne, hnew, hd⟩ := ho j (by omega) (hstart j hj)
    refine ⟨hne, fun hmem => ?_, fun m hm hmj => hd m hmj (hstart m hm)⟩
    unfold checkedHeap at hmem
    by_cases hc : Changes count job numSessions b
    · have hfreed := (he.congr b.addrs.reverse_perm.symm).freeAll
      rw [if_pos hc] at hmem
      exact absurd (hfreed.mem.mp hmem) List.not_mem_nil
    · rw [if_neg hc] at hmem
      exact hnew.elim hc fun hn => hn hmem
  obtain ⟨-, hexact, hsub, hzero, hpos⟩ := @allocWorkBufs_spec _ (ceiling32 job.workSize) alloc
    (b.checked count job numSessions) (checkedHeap count job numSessions b h)
    (if job.workBuf.addr ≠ 0 then job.workBuf else b.ionBuffer 0)
    (workBufsNeed count job numSessions - (b.checked count job numSessions).workBufCnt) rfl
    (checked_exactly he) hfresh
  have hlive : ¬Changes count job numSessions b →
      checkedHeap count job numSessions b h = h := fun hc => if_neg hc
  have hcnt : ¬Changes count job numSessions b →
      (b.checked count job numSessions).workBufCnt = b.workBufCnt := fun hc => if_neg hc
  rw [hbufs, hcur, reserveHeap, if_neg hr]
  refine ⟨hexact, fun hc => ?_, fun x hx => ?_, fun hn => ?_⟩
  · intro a ha
    apply hsub
    rw [hlive hc]
    exact ha
  · obtain ⟨⟨hle, hc⟩, hx⟩ := Option.ite_none_right_eq_some.mp hx
    obtain rfl := Option.some.inj hx
    have hnone : workBufsNeed count job numSessions -
        (b.checked count job numSessions).workBufCnt = 0 := by
      rw [hcnt hc]
      omega
    refine ⟨hzero hnone, fun hj => hsub ?_⟩
    rw [hlive hc, if_neg fun hn => hn hj]
    have hneed := @need_pos count numSessions job hcount hj
    exact he.mem.mpr (first_mem_addrs (by omega))
  · have hmore : 0 < workBufsNeed count job numSessions -
        (b.checked count job numSessions).workBufCnt := by
      by_cases hc : Changes count job numSessions b
      · have hz : (b.checked count job numSessions).workBufCnt = 0 := if_pos hc
        have hneed : workBufsNeed count job numSessions ≠ 0 := by
          intro hzero
          by_cases hj : job.workBuf.addr = 0
          · have hpos := @need_pos count numSessions job hcount hj
            omega
          · exact hc.1 ⟨hj, hzero⟩
        omega
      · rw [hcnt hc]
        by_contra hle
        rw [keptBuf, if_pos ⟨by omega, hc⟩] at hn
        cases hn
    obtain ⟨hsize, hmem, j, hj, hlt, heq⟩ := hpos hmore
    exact ⟨hsize, hmem, j, by omega, hstart j hj, heq⟩

end Jpeg
