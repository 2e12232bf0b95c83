import Wt88047.Lib.Runs
import Wt88047.QCamera.StreamBuffers

/-! Which set-ups of stream buffers are undone in full. -/

namespace Wt88047.StreamBuffers

open Custody

variable {o : Setup} {l : Life} {s : Stream}

theorem arrays_done (h : o.completes = true) (n : Nat) (s : Stream) :
    arrays o n s = ({ s.record [.take .regFlags, .take .bufDefs] with bufDefs := true }, .noError) := by
  simp only [Setup.completes, Bool.and_eq_true] at h
  simp [arrays, h.1.1, h.1.2, h.2, Stream.record]

theorem arrays_undone (h : o.completes = false) (n : Nat) (s : Stream) :
    ∃ taken : List Held, taken.Nodup ∧ (∀ k ∈ taken, k = .regFlags ∨ k = .bufDefs) ∧
      (arrays o n s).2 ≠ .noError ∧
      (arrays o n s).1 = { s.record (takes taken ++ (unmappings (List.range n) ++
        .give .streamBufs :: gives taken.reverse)) with streamBufs := false } := by
  unfold arrays
  cases hflags : o.flags with
  | false =>
    refine ⟨[], by simp, by simp, by simp, ?_⟩
    simp [Stream.unmapped, Stream.deallocate, Stream.record, takes, gives]
  | true =>
    cases hdefs : o.defs with
    | false =>
      refine ⟨[.regFlags], by simp, by simp, by simp, ?_⟩
      simp [Stream.unmapped, Stream.deallocate, Stream.record, takes, gives]
    | true =>
      have hquery : o.query = false := by simpa [Setup.completes, hflags, hdefs] using h
      refine ⟨[.regFlags, .bufDefs], by simp, by simp, by simp [hquery], ?_⟩
      simp [hquery, Stream.unmapped, Stream.deallocate, Stream.record, takes, gives]

theorem getBufs_refused (h : o.opsTbl = false ∨ o.memory = false) (hs : s.RolledBack) :
    (getBufs o s).2 ≠ .noError ∧ (getBufs o s).1.RolledBack := by
  obtain ⟨hsettled, hclean⟩ := hs
  unfold getBufs
  cases hops : o.opsTbl with
  | false => exact ⟨by simp, hsettled, hclean⟩
  | true =>
    have hmem : o.memory = false := by simpa [hops] using h
    simp only [hmem]
    exact ⟨by simp, hsettled, ⟨hclean.1, hclean.2, hclean.3, hclean.4, hclean.5⟩⟩

theorem getBufs_failed_iff (hs : s.RolledBack) {i : Nat} (hops : o.opsTbl = true) (hmem : o.memory = true)
    (hfail : o.firstFailure s.initialBufs = some i) :
    (getBufs o s).2 ≠ .noError ∧ ((getBufs o s).1.RolledBack ↔ o.size i = true) := by
  have hclean := hs.clean
  unfold getBufs
  simp only [hops, hmem, mapLoop_failed hfail]
  cases hsize : o.size i with
  | false =>
    -- nothing is undone
    refine ⟨by simp, ?_⟩
    simp
    intro hr
    have := hr.clean.streamBufs
    simp [Stream.mapped, Stream.record] at this
  | true =>
    refine ⟨by simp, ?_⟩
    simp
    rw [hs.iff_of_log (e := undone i [])]
    · exact ⟨settled_undone i List.nodup_nil (by simp), rfl, hclean.bufDefs, hclean.streamBufsAcquired,
        hclean.bufAllocPid, hclean.waitForCond⟩
    · simp [Stream.mapped, Stream.unmapped, Stream.deallocate, Stream.record, Stream.split, undone, takes,
        gives]

theorem getBufs_undone (hs : s.RolledBack) (hops : o.opsTbl = true) (hmem : o.memory = true)
    (hmap : o.firstFailure s.initialBufs = none) (hfail : o.completes = false) :
    (getBufs o s).2 ≠ .noError ∧ (getBufs o s).1.RolledBack := by
  have hclean := hs.clean
  obtain ⟨taken, hnodup, harrays, hrc, hstate⟩ := arrays_undone hfail s.initialBufs
    (({ s.split.record [.take .streamBufs] with streamBufs := true } : Stream).mapped
      (List.range s.initialBufs))
  unfold getBufs
  simp only [hops, hmem, mapLoop_done hmap]
  generalize harr : arrays o s.initialBufs _ = result at hrc hstate
  obtain ⟨t, rc⟩ := result
  cases rc with
  | noError => exact absurd rfl hrc
  | _ =>
    refine ⟨by simp, ?_⟩
    simp at hstate ⊢
    rw [hstate, hs.iff_of_log (e := undone s.initialBufs taken)]
    · exact ⟨settled_undone _ hnodup harrays, rfl, hclean.bufDefs, hclean.streamBufsAcquired,
        hclean.bufAllocPid, hclean.waitForCond⟩
    · simp [Stream.mapped, Stream.record, Stream.split, undone]

structure HandedOver (s t : Stream) : Prop where
  numBufs : t.numBufs = s.numBufs
  need : t.numBufsNeedAlloc = s.numBufs - s.initialBufs
  acquired : t.streamBufsAcquired = false
  pid : t.bufAllocPid = decide (0 < t.numBufsNeedAlloc)
  wait : t.waitForCond = t.bufAllocPid

theorem getBufs_done (hs : s.Clean) (hops : o.opsTbl = true) (hmem : o.memory = true)
    (hmap : o.firstFailure s.initialBufs = none) (hall : o.completes = true) :
    (getBufs o s).2 = .noError ∧ HandedOver s (getBufs o s).1 ∧
      (getBufs o s).1.log = s.log ++ Event.take Held.streamBufs :: (mappings (List.range s.initialBufs) ++
        [Event.take Held.regFlags, Event.take Held.bufDefs]) := by
  have hlog : s.split.log = s.log := rfl
  have hneed : s.split.numBufsNeedAlloc = s.numBufs - s.initialBufs := rfl
  unfold getBufs
  simp only [hops, hmem, mapLoop_done hmap, arrays_done hall]
  by_cases hpos : 0 < s.split.numBufsNeedAlloc
  · simp only [Stream.mapped, Stream.record, hpos]
    refine ⟨rfl, ⟨rfl, hneed, hs.streamBufsAcquired, ?_, rfl⟩, ?_⟩
    · exact (decide_eq_true hpos).symm
    · simp [hlog]
  · simp only [Stream.mapped, Stream.record, hpos]
    refine ⟨rfl, ⟨rfl, hneed, hs.streamBufsAcquired, ?_, ?_⟩, ?_⟩
    · exact hs.bufAllocPid.trans (decide_eq_false hpos).symm
    · exact hs.waitForCond.trans hs.bufAllocPid.symm
    · simp [hlog]

def Life.mappedLater (l : Life) (s : Stream) : List Nat :=
  if l.status && l.signalled && l.more.memory then s.split.remaining.filter l.more.takesIn else []

theorem remaining_eq (s : Stream) :
    s.split.remaining = List.range' s.initialBufs (s.numBufs - s.initialBufs) := by
  have hle := initialBufs_le s
  change List.range' (s.numBufs - (s.numBufs - s.initialBufs)) (s.numBufs - s.initialBufs) = _
  congr 1
  omega

theorem mappedLater_iff (l : Life) (s : Stream) :
    (∀ i, s.initialBufs ≤ i → i < s.numBufs → i ∈ l.mappedLater s) ↔
      (s.initialBufs < s.numBufs → l.finishes s) := by
  have hle := initialBufs_le s
  unfold Life.mappedLater Life.finishes
  rw [remaining_eq]
  constructor
  · intro h hlt
    have hfirst := h s.initialBufs (Nat.le_refl _) hlt
    by_cases hgo : (l.status && l.signalled && l.more.memory) = true
    · simp only [hgo, if_true, List.mem_filter] at h
      simp only [Bool.and_eq_true] at hgo
      exact ⟨hgo.1.1, hgo.1.2, hgo.2, fun i hi hlt => (h i hi hlt).2⟩
    · rw [if_neg hgo] at hfirst
      cases hfirst
  · intro h i hi hlt
    obtain ⟨hstatus, hsignalled, hmemory, hall⟩ := h (by omega)
    simp only [hstatus, hsignalled, hmemory, Bool.and_self, if_true, List.mem_filter, List.mem_range'_1]
    exact ⟨by omega, hall i hi hlt⟩

variable {t : Stream}

theorem HandedOver.record (h : HandedOver s t) (e : List (Event Held)) :
    HandedOver s (t.record e) := ⟨h.1, h.2, h.3, h.4, h.5⟩

theorem HandedOver.remaining (h : HandedOver s t) : t.remaining = s.split.remaining := by
  unfold Stream.remaining
  rw [h.numBufs, h.need]
  rfl

structure Joined (t u : Stream) (l : List Nat) : Prop where
  log : u.log = t.log ++ mappings l
  numBufs : u.numBufs = t.numBufs
  acquired : u.streamBufsAcquired = t.streamBufsAcquired
  pid : u.bufAllocPid = false
  wait : u.waitForCond = false

theorem condSignal_idle (h : t.waitForCond = false) (forceExit : Bool) :
    condSignal forceExit t = t := by
  unfold condSignal
  rw [if_neg (by simp [h])]

theorem condSignal_waiting (h : t.waitForCond = true) :
    condSignal false t = { t with waitForCond := false } := by
  unfold condSignal
  rw [if_pos h]
  rfl

theorem joinThread_running (o : More) (hpid : t.bufAllocPid = true) (hwait : t.waitForCond = false)
    :
    joinThread o t = { bufAllocRoutine o t with bufAllocPid := false } := by
  unfold joinThread
  rw [if_pos hpid, condSignal_idle hwait]

theorem joined_none (o : More) (hpid : t.bufAllocPid = false) (hwait : t.waitForCond = false) :
    Joined t (joinThread o t) [] := by
  unfold joinThread
  rw [if_neg (by simp [hpid])]
  exact ⟨(List.append_nil _).symm, rfl, rfl, hpid, hwait⟩

theorem HandedOver.joined_forced (h : HandedOver s t) (o : More) :
    Joined t (joinThread o t) [] := by
  cases hpid : t.bufAllocPid with
  | true =>
    have hwait := h.wait.trans hpid
    unfold joinThread condSignal bufAllocRoutine
    simp only [hpid, hwait, if_true, Nat.lt_irrefl, if_false]
    exact ⟨(List.append_nil _).symm, rfl, rfl, rfl, rfl⟩
  | false => exact joined_none o hpid (h.wait.trans hpid)

theorem HandedOver.joined_signalled (h : HandedOver s t) (o : More) :
    Joined t (joinThread o (condSignal false t))
      (if o.memory then s.split.remaining.filter o.takesIn else []) := by
  rw [← h.remaining]
  cases hpid : t.bufAllocPid with
  | true =>
    have hwait := h.wait.trans hpid
    have hpos : 0 < t.numBufsNeedAlloc := of_decide_eq_true (h.pid.symm.trans hpid)
    rw [condSignal_waiting hwait, joinThread_running (t := { t with waitForCond := false }) o hpid rfl]
    unfold bufAllocRoutine
    rw [if_pos hpos]
    by_cases hmem : o.memory = true
    · rw [if_pos hmem, if_pos hmem]
      exact ⟨rfl, rfl, rfl, rfl, rfl⟩
    · rw [if_neg hmem, if_neg hmem]
      exact ⟨(List.append_nil _).symm, rfl, rfl, rfl, rfl⟩
  | false =>
    have hwait := h.wait.trans hpid
    have hzero : t.numBufsNeedAlloc = 0 := by
      have hnot := of_decide_eq_false (h.pid.symm.trans hpid)
      omega
    rw [condSignal_idle hwait, show t.remaining = [] by simp [Stream.remaining, hzero]]
    simpa using joined_none o hpid hwait

theorem putBufs_clean {o : More} {v : Stream} {l : List Nat} (h : Joined t (joinThread o v) l)
    (hacquired : t.streamBufsAcquired = false) (e : List (Event Held)) :
    ((putBufs o v).record e).log = t.log ++ (mappings l ++ (unmappings (List.range t.numBufs) ++
        .give .streamBufs :: e)) ∧ ((putBufs o v).record e).Clean := by
  have hkept := h.acquired.trans hacquired
  have hput : putBufs o v = Stream.deallocate
      { (joinThread o v).unmapped (List.range (joinThread o v).numBufs) with bufDefs := false } := by
    unfold putBufs
    rw [if_pos]
    exact (congrArg not hkept).trans rfl
  rw [hput]
  generalize joinThread o v = u at h hkept
  refine ⟨?_, rfl, rfl, hkept, h.pid, h.wait⟩
  simp [Stream.unmapped, Stream.deallocate, Stream.record, h.log, h.numBufs]

theorem immediate_done (hs : s.RolledBack) (hops : l.setup.opsTbl = true) (hmem : l.setup.memory = true)
    (hmap : l.setup.firstFailure s.initialBufs = none) (hall : l.setup.completes = true) :
    (immediate l s).RolledBack ↔ (s.initialBufs < s.numBufs → l.finishes s) := by
  obtain ⟨hrc, hover, hset⟩ := getBufs_done hs.clean hops hmem hmap hall
  have hle := initialBufs_le s
  have hlog : ∃ early late, (∀ k, story k early ++ story k late =
        if k = Held.regFlags ∨ k = .bufDefs then [false] else []) ∧
      (immediate l s).log = s.log ++ released s.initialBufs s.numBufs (l.mappedLater s) early late ∧
      (immediate l s).Clean := by
    unfold immediate
    generalize getBufs l.setup s = result at hrc hover hset
    obtain ⟨t, rc⟩ := result
    obtain rfl : rc = .noError := hrc
    dsimp only at hover hset ⊢
    cases hstatus : l.status with
    | false =>
      obtain ⟨hput, hclean⟩ :=
        putBufs_clean (hover.joined_forced l.more) hover.acquired [.give .bufDefs, .give .regFlags]
      refine ⟨[], [.give .bufDefs, .give .regFlags], ?_, ?_, hclean⟩
      · intro k
        cases k <;> rfl
      · refine hput.trans ?_
        simp [hset, hover.numBufs, released, Life.mappedLater, hstatus]
    | true =>
      have hnext := hover.record [.give .regFlags]
      have hgone : ∃ v, (if l.signalled then condSignal false (t.record [.give .regFlags])
          else t.record [.give .regFlags]) = v ∧
          Joined (t.record [.give .regFlags]) (joinThread l.more v) (l.mappedLater s) := by
        unfold Life.mappedLater
        cases hsignalled : l.signalled with
        | false => exact ⟨_, rfl, by simpa [hstatus] using hnext.joined_forced l.more⟩
        | true => exact ⟨_, rfl, by simpa [hstatus] using hnext.joined_signalled l.more⟩
      obtain ⟨v, hv, hjoined⟩ := hgone
      obtain ⟨hput, hclean⟩ := putBufs_clean hjoined hnext.acquired [.give .bufDefs]
      simp only [Bool.not_true, Bool.false_eq_true, if_false, hv]
      refine ⟨[.give .regFlags], [.give .bufDefs], ?_, ?_, hclean⟩
      · intro k
        cases k <;> rfl
      · refine hput.trans ?_
        simp [Stream.record, hset, hover.numBufs, released]
  obtain ⟨early, late, harrays, hlog, hfinal⟩ := hlog
  rw [hs.iff_of_log hlog, and_iff_left hfinal, settled_released_iff _ _ hle ?_ ?_ harrays, mappedLater_iff]
  · unfold Life.mappedLater
    split
    · exact List.Nodup.filter _ (by rw [remaining_eq]; exact List.nodup_range')
    · exact List.nodup_nil
  · intro i hi
    unfold Life.mappedLater at hi
    split at hi
    · rw [remaining_eq, List.mem_filter, List.mem_range'_1] at hi
      omega
    · cases hi

theorem immediate_rolledBack_iff (hs : s.RolledBack) : (immediate l s).RolledBack ↔ l.Immediate s := by
  have hstop : (getBufs l.setup s).2 ≠ .noError → immediate l s = (getBufs l.setup s).1 := by
    intro hne
    unfold immediate
    generalize getBufs l.setup s = result at hne
    obtain ⟨t, rc⟩ := result
    cases rc with
    | noError => exact absurd rfl hne
    | _ => rfl
  unfold Life.Immediate
  by_cases hgo : l.setup.opsTbl = true ∧ l.setup.memory = true
  · obtain ⟨hops, hmem⟩ := hgo
    rw [forall_prop_of_true hops, forall_prop_of_true hmem]
    cases hmap : l.setup.firstFailure s.initialBufs with
    | some i =>
      obtain ⟨hne, hiff⟩ := getBufs_failed_iff hs hops hmem hmap
      rw [hstop hne]
      exact hiff
    | none =>
      cases hall : l.setup.completes with
      | false =>
        obtain ⟨hne, hback⟩ := getBufs_undone hs hops hmem hmap hall
        rw [hstop hne]
        simp [hback]
      | true => simpa using immediate_done hs hops hmem hmap hall
  · obtain ⟨hne, hback⟩ := getBufs_refused (o := l.setup) (by
      cases hops : l.setup.opsTbl <;> simp_all) hs
    rw [hstop hne]
    simp only [hback, true_iff]
    intro hops hmem
    exact absurd ⟨hops, hmem⟩ hgo

theorem allocateBuffers_failed_iff (hs : s.RolledBack) {i : Nat} (hmem : o.memory = true)
    (hfail : o.firstFailure s.numBufs = some i) :
    (allocateBuffers o s).1.Clean ∧ ((allocateBuffers o s).1.RolledBack ↔ i = 0) := by
  have hclean := hs.clean
  have hstate : (allocateBuffers o s).1.log = s.log ++ Event.take Held.streamBufs ::
        (mappings (List.range i) ++ (unmappings (List.replicate i i) ++ [Event.give Held.streamBufs])) ∧
      (allocateBuffers o s).1.Clean := by
    unfold allocateBuffers
    simp only [hmem, Bool.not_true, Bool.false_eq_true, if_false, mapLoop_failed hfail]
    refine ⟨?_, rfl, hclean.bufDefs, hclean.streamBufsAcquired, hclean.bufAllocPid, hclean.waitForCond⟩
    simp [Stream.mapped, Stream.unmapped, Stream.deallocate, Stream.record]
  refine ⟨hstate.2, ?_⟩
  rw [hs.iff_of_log hstate.1, and_iff_left hstate.2]
  constructor
  · intro h
    by_contra hne
    -- index 0 was mapped, and only `i` is unmapped
    have hzero := h (.mapping 0)
    have hnot : Held.mapping 0 ∉ (List.replicate i i).map Held.mapping := by
      simp [Ne.symm hne]
    rw [status, story_take, if_neg (by simp), story_append, story_append, story_mappings _ List.nodup_range,
      if_pos (List.mem_range.mpr (Nat.pos_of_ne_zero hne)), unmappings, story_gives_of_not_mem hnot] at hzero
    cases hzero
  · rintro rfl
    exact settled_undone 0 List.nodup_nil (by simp)

theorem allocateBuffers_undone (hs : s.RolledBack) (h : o.memory = false ∨
    o.firstFailure s.numBufs = none ∧ o.completes = false) : (allocateBuffers o s).1.RolledBack := by
  have hclean := hs.clean
  unfold allocateBuffers
  cases hmem : o.memory with
  | false => exact hs
  | true =>
    obtain ⟨hmap, hfail⟩ : o.firstFailure s.numBufs = none ∧ o.completes = false := by simpa [hmem] using h
    obtain ⟨taken, hnodup, harrays, hrc, hstate⟩ := arrays_undone hfail s.numBufs
      (({ s.record [.take .streamBufs] with streamBufs := true } : Stream).mapped (List.range s.numBufs))
    simp only [mapLoop_done hmap]
    generalize harr : arrays o s.numBufs _ = result at hrc hstate
    obtain ⟨t, rc⟩ := result
    cases rc with
    | noError => exact absurd rfl hrc
    | _ =>
      simp at hstate ⊢
      rw [hstate, hs.iff_of_log (e := undone s.numBufs taken)]
      · exact ⟨settled_undone _ hnodup harrays, rfl, hclean.bufDefs, hclean.streamBufsAcquired,
          hclean.bufAllocPid, hclean.waitForCond⟩
      · simp [Stream.mapped, Stream.record, undone]

def handedOver (n : Nat) : List (Event Held) := (List.replicate n [.give .regFlags, .give .bufDefs]).flatten

theorem start_iterate (h : (t.regFlags && t.bufDefs) = true) (n : Nat) :
    start^[n] t = t.record (handedOver n) := by
  induction n generalizing t with
  | zero => simp [handedOver, Stream.record]
  | succ n ih =>
    have hstart : start t = t.record [.give .regFlags, .give .bufDefs] := if_pos h
    rw [Function.iterate_succ_apply, hstart, ih (t := t.record _) h]
    simp [handedOver, Stream.record, List.replicate_succ]

theorem start_iterate_of_not (h : t.bufDefs = false) (n : Nat) : start^[n] t = t := by
  have hstart : start t = t := if_neg (by simp [h])
  exact Function.iterate_fixed hstart n

theorem releaseBuffs_none (o : More) (hpid : t.bufAllocPid = false) (hdefs : t.bufDefs = false)
    (hbufs : t.streamBufs = false) : releaseBuffs o t = t := by
  unfold releaseBuffs joinThread
  simp [hpid, hdefs, hbufs]

theorem deffered_of_clean (h : (allocateBuffers l.setup s).1.Clean) :
    (deffered l s).RolledBack ↔ (allocateBuffers l.setup s).1.RolledBack := by
  unfold deffered
  generalize (allocateBuffers l.setup s).1 = t at h
  have hkeep : ∀ b, releaseBuffs l.more { t with streamBufsAcquired := b } = { t with streamBufsAcquired := b } :=
    fun b => releaseBuffs_none l.more h.bufAllocPid h.bufDefs h.streamBufs
  have hresult : ∀ u : Stream, u = t ∨ u = { t with streamBufsAcquired := true } →
      releaseBuffs l.more { u with streamBufsAcquired := false } = t := by
    rintro u (rfl | rfl)
    · rw [hkeep false, ← h.streamBufsAcquired]
    · rw [hkeep false, ← h.streamBufsAcquired]
  rw [start_iterate_of_not h.bufDefs]
  dsimp only
  rw [hresult]
  split
  · exact Or.inr (hkeep true)
  · exact Or.inl rfl

structure Allocated (t : Stream) : Prop where
  streamBufs : t.streamBufs = true
  bufDefs : t.bufDefs = true
  pid : t.bufAllocPid = false
  wait : t.waitForCond = false

theorem releaseBuffs_allocated (h : Allocated t) (o : More) (deleted : Bool) :
    let u := if deleted then releaseBuffs o { t with streamBufsAcquired := true } else t
    (releaseBuffs o { u with streamBufsAcquired := false }).log =
        t.log ++ (unmappings (List.range t.numBufs) ++ [Event.give Held.streamBufs]) ∧
      (releaseBuffs o { u with streamBufsAcquired := false }).Clean := by
  obtain ⟨hbufs, hdefs, hpid, hwait⟩ := h
  cases deleted with
  | false =>
    simp [releaseBuffs, joinThread, hpid, hdefs, hbufs, Stream.unmapped, Stream.deallocate, Stream.record]
    exact ⟨rfl, rfl, rfl, rfl, hwait⟩
  | true =>
    simp [releaseBuffs, joinThread, hpid, hdefs, hbufs, Stream.unmapped, Stream.deallocate, Stream.record]
    exact ⟨rfl, rfl, rfl, rfl, hwait⟩

theorem story_handedOver (n : Nat) :
    story Held.regFlags (handedOver n) = List.replicate n false ∧
      story Held.bufDefs (handedOver n) = List.replicate n false := by
  induction n with
  | zero => exact ⟨rfl, rfl⟩
  | succ n ih =>
    have hcons : handedOver (n + 1) = .give .regFlags :: .give .bufDefs :: handedOver n := rfl
    rw [hcons]
    simp [ih.1, ih.2, List.replicate_succ]

theorem allocateBuffers_done (hs : s.RolledBack) (hmem : o.memory = true)
    (hmap : o.firstFailure s.numBufs = none) (hall : o.completes = true) :
    Allocated (allocateBuffers o s).1 ∧ (allocateBuffers o s).1.regFlags = true ∧
      (allocateBuffers o s).1.numBufs = s.numBufs ∧
      (allocateBuffers o s).1.log = s.log ++ Event.take Held.streamBufs :: (mappings (List.range s.numBufs) ++
        [Event.take Held.regFlags, Event.take Held.bufDefs]) := by
  have hclean := hs.clean
  unfold allocateBuffers
  simp only [hmem, mapLoop_done hmap, arrays_done hall]
  refine ⟨⟨rfl, rfl, hclean.bufAllocPid, hclean.waitForCond⟩, rfl, rfl, ?_⟩
  simp [Stream.mapped, Stream.record]

theorem deffered_done (hs : s.RolledBack) (hmem : l.setup.memory = true)
    (hmap : l.setup.firstFailure s.numBufs = none) (hall : l.setup.completes = true) :
    (deffered l s).RolledBack ↔ l.starts = 1 := by
  obtain ⟨halloc, hflags, hnum, hlog⟩ := allocateBuffers_done hs hmem hmap hall
  have hfinal : (deffered l s).log = s.log ++ Event.take Held.streamBufs :: (mappings (List.range s.numBufs) ++
      (.take .regFlags :: .take .bufDefs :: (handedOver l.starts ++
        (unmappings (List.range s.numBufs) ++ [Event.give Held.streamBufs])))) ∧ (deffered l s).Clean := by
    unfold deffered
    generalize (allocateBuffers l.setup s).1 = t at *
    rw [start_iterate (by simp [hflags, halloc.bufDefs])]
    obtain ⟨hrel, hclean⟩ := releaseBuffs_allocated (t := t.record (handedOver l.starts))
      ⟨halloc.1, halloc.2, halloc.3, halloc.4⟩ l.more l.deleted
    refine ⟨hrel.trans ?_, hclean⟩
    simp [Stream.record, hlog, hnum]
  rw [hs.iff_of_log hfinal.1, and_iff_left hfinal.2]
  constructor
  · intro h
    have hstory := h .regFlags
    have hno := story_mappings_other (k := Held.regFlags) (by simp) (List.range s.numBufs)
    simp [status, hno.1, hno.2, (story_handedOver l.starts).1] at hstory
    rcases hn : l.starts with _ | _ | n
    · simp [hn] at hstory
    · rfl
    · simp [hn, List.replicate_succ] at hstory
  · intro h
    have hiff := settled_released_iff (handedOver 1) [] (Nat.le_refl s.numBufs) List.nodup_nil
      (by simp) (by
        intro k
        cases k <;> rfl)
    rw [h]
    exact hiff.mpr fun i hle hlt => absurd hlt (Nat.not_lt.mpr hle)

theorem deffered_rolledBack_iff (hs : s.RolledBack) : (deffered l s).RolledBack ↔ l.Deffered s := by
  unfold Life.Deffered
  cases hmem : l.setup.memory with
  | false =>
    have hback := allocateBuffers_undone hs (Or.inl hmem)
    simp [deffered_of_clean hback.clean, hback]
  | true =>
    rw [forall_prop_of_true rfl]
    cases hmap : l.setup.firstFailure s.numBufs with
    | some i =>
      obtain ⟨hclean, hiff⟩ := allocateBuffers_failed_iff hs hmem hmap
      exact (deffered_of_clean hclean).trans hiff
    | none =>
      cases hall : l.setup.completes with
      | false =>
        have hback := allocateBuffers_undone hs (Or.inr ⟨hmap, hall⟩)
        simp [deffered_of_clean hback.clean, hback]
      | true => simpa using deffered_done hs hmem hmap hall

theorem live_rolledBack_iff (hs : s.RolledBack) : (s.live l).RolledBack ↔ l.Fits s := by
  unfold Stream.live Life.Fits
  split
  · exact deffered_rolledBack_iff hs
  · exact immediate_rolledBack_iff hs

/-- Every set-up of a stream ends with everything given back and the stream as it was, just if each
one meets the condition. -/
theorem stream_setups_rolledBack_iff (d : Bool) (n : Nat) (dyn : Bool) (run : List Life) :
    Runs.Along (fun s l => some (s.live l)) (fun s l => l.Fits s) (fresh d n dyn) run ↔
      ∀ pre post, run = pre ++ post → ((fresh d n dyn).lives pre).RolledBack := by
  exact Runs.along_foldl_iff_prefixes (fun hs _ => live_rolledBack_iff hs) (fresh_rolledBack d n dyn) run

def secondMapFails : Life where
  setup := { opsTbl := true, memory := true, size := fun _ => true, map := fun i => i != 1, flags := true,
             defs := true, query := true }
  status := true
  signalled := true
  more := { memory := true, size := fun _ => true, map := fun _ => true }
  starts := 0
  deleted := false

/-- Index 0 stays mapped, and index 1 is unmapped though it was not mapped. -/
theorem deffered_setup_not_undone :
    status (.mapping 0) ((fresh true 2 false).lives [secondMapFails]).log = some true ∧
      status (.mapping 1) ((fresh true 2 false).lives [secondMapFails]).log = none ∧
      ¬((fresh true 2 false).lives [secondMapFails]).RolledBack := by
  refine ⟨rfl, rfl, fun h => ?_⟩
  have hsettled := h.settled (.mapping 0)
  rw [show status (.mapping 0) ((fresh true 2 false).lives [secondMapFails]).log = some true from rfl]
    at hsettled
  cases hsettled

end Wt88047.StreamBuffers
