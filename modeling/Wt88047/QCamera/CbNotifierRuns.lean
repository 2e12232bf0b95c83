import Wt88047.QCamera.CbNotifier
import Mathlib.Data.List.Perm.Basic

/-! The items of the callback notifier through whole runs. -/

namespace Wt88047.CbNotifier

open CmdThread

variable {l k : List Act} {a : Act} {i : Item} {st : Status} {items : List Item}

theorem session_append : session (l ++ k) = k.foldl Session.next (session l) := List.foldl_append ..

theorem session_concat : session (l ++ [a]) = (session l).next a := session_append

theorem deliveries_append : deliveries (l ++ k) = deliveries l ++ deliveries k := List.flatMap_append

theorem releases_append : releases (l ++ k) = releases l ++ releases k := List.flatMap_append

theorem releaseAct_session (x : Session) : (releaseAct st i).foldl Session.next x = x := by
  unfold releaseAct
  split <;> rfl

theorem flush_session : session (l ++ items.flatMap (releaseAct st)) = session l := by
  rw [session_append]
  generalize session l = x
  induction items generalizing x with
  | nil => rfl
  | cons i items ih => rw [List.flatMap_cons, List.foldl_append, releaseAct_session, ih]

theorem flush_deliveries : deliveries (items.flatMap (releaseAct st)) = [] := by
  induction items with
  | nil => rfl
  | cons i items ih =>
    rw [List.flatMap_cons, deliveries_append, ih, List.append_nil]
    unfold releaseAct
    split <;> rfl

theorem flush_releases : releases (items.flatMap (releaseAct st)) =
    (items.filter Item.releaseCb).map Item.serial := by
  induction items with
  | nil => rfl
  | cons i items ih =>
    rw [List.flatMap_cons, releases_append, ih]
    unfold releaseAct
    cases hr : i.releaseCb with
    | true => rw [List.filter_cons_of_pos hr]; rfl
    | false => rw [List.filter_cons_of_neg (by rw [hr]; decide)]; rfl

theorem flush_trace (h : Trace.Each Allowed l) (hn : (items.map Item.serial).Nodup)
    (hd : ∀ i ∈ items, i.serial ∉ releases l) :
    Trace.Each Allowed (l ++ items.flatMap (releaseAct st)) := by
  induction items generalizing l with
  | nil =>
    rw [List.flatMap_nil, List.append_nil]
    exact h
  | cons i items ih =>
    obtain ⟨hi, hn⟩ := List.nodup_cons.mp hn
    rw [List.flatMap_cons, ← List.append_assoc]
    refine ih ?_ hn fun j hj hm => ?_
    · unfold releaseAct
      split
      · exact h.concat (hd i (List.mem_cons_self ..))
      · rw [List.append_nil]
        exact h
    · rw [releases_append] at hm
      rcases List.mem_append.mp hm with hm | hm
      · exact hd j (List.mem_cons_of_mem _ hj) hm
      · unfold releaseAct at hm
        split at hm
        · obtain he | hm := List.mem_cons.mp hm
          · exact hi (List.mem_map.mpr ⟨j, hj, he⟩)
          · cases hm
        · cases hm

def Caller.checkedItem : Caller → List Item
  | .checked i => [i]
  | _ => []

def checked (s : Notifier) : List Item := s.callers.flatMap Caller.checkedItem

def known (s : Notifier) : List Item := s.queued ++ checked s ++ s.rejected

def ThreadPc.counted : ThreadPc → Nat
  | .posting _ => 1
  | .calling i => if i.snapshot then 1 else 0
  | _ => 0

def ThreadPc.announcing : ThreadPc → Bool
  | .posting _ => true
  | _ => false

def ThreadPc.onWay : ThreadPc → Bool
  | .releasing .. | .exited => false
  | _ => true

structure Counted (s : Notifier) : Prop where
  active : (session s.log).active = s.isSnapshotActive
  longShot : s.isSnapshotActive = true → (session s.log).longShot = s.longShot
  expected : s.isSnapshotActive = true → (session s.log).expected = s.expected
  jpegs : s.isSnapshotActive = true → s.longShot = false →
    s.rcvd = (session s.log).jpegs + s.pc.counted
  dones : s.isSnapshotActive = true → s.longShot = false → (session s.log).dones =
    if 0 < s.expected ∧ s.expected ≤ s.rcvd ∧ s.pc.announcing = false then 1 else 0
  posting : ∀ i, s.pc = .posting i → i.snapshot = true ∧ s.isSnapshotActive = true ∧
    s.longShot = false ∧ 0 < s.expected ∧ s.expected = s.rcvd
  calling : ∀ i, s.pc = .calling i → i.snapshot = true → s.isSnapshotActive = true

structure Inv (s : Notifier) : Prop where
  line : (s.gone ++ pending s).Perm s.queued
  fresh : ((known s).map Item.serial).Nodup
  below : ∀ i ∈ known s, i.serial < s.issued
  callers : ∀ i, Caller.queued i ∈ s.callers ∨ Caller.posting i ∈ s.callers → i ∈ s.queued
  accepted : ∀ i ∈ s.accepted, i ∈ s.queued
  released : releases s.log = (s.gone.filter Item.releaseCb).map Item.serial
  delivered : ∀ n ∈ deliveries s.log, n ∈ s.gone.map Item.serial ∨
    ∃ i st, s.pc = .releasing i st ∧ i.serial = n
  trace : Trace.Each Allowed s.log
  counted : Counted s
  flushed : s.pc = .exited → s.dataQ = []
  joined : s.exitPc = .joined → s.pc = .exited

variable {s t : Notifier}

theorem Inv.distinct (h : Inv s) : ((s.gone ++ pending s).map Item.serial).Nodup := by
  have hfresh := h.fresh
  unfold known at hfresh
  rw [List.map_append, List.map_append, List.append_assoc] at hfresh
  exact ((h.line.map Item.serial).nodup_iff).mpr (List.nodup_append.mp hfresh).1

theorem Inv.unreleased (h : Inv s) (hi : i ∈ pending s) : i.serial ∉ releases s.log := by
  intro hm
  rw [h.released] at hm
  obtain ⟨j, hj, he⟩ := List.mem_map.mp hm
  have hdist := h.distinct
  rw [List.map_append] at hdist
  exact (List.nodup_append.mp hdist).2.2 _ (List.mem_map_of_mem (List.mem_filter.mp hj).1) _
    (List.mem_map_of_mem hi) he

theorem Inv.kept (h : Inv s) : Kept s := by
  have hfresh := h.fresh
  refine ⟨fun i hi hp => ?_, fun i hi => h.unreleased hi, fun i hi => ?_, h.trace, fun hj => ?_⟩
  · have hgone : i ∈ s.gone :=
      (List.mem_append.mp (h.line.mem_iff.mpr (h.accepted i hi))).resolve_right hp
    have hdist := h.distinct
    rw [List.map_append] at hdist
    have hnodup := (List.nodup_append.mp hdist).1
    rw [h.released]
    cases hr : i.releaseCb with
    | true =>
      refine List.count_eq_one_of_mem ?_ (List.mem_map_of_mem (List.mem_filter.mpr ⟨hgone, hr⟩))
      exact hnodup.sublist (List.filter_sublist.map _)
    | false =>
      refine List.count_eq_zero.mpr fun hm => ?_
      obtain ⟨j, hj, he⟩ := List.mem_map.mp hm
      obtain ⟨hjg, hjr⟩ := List.mem_filter.mp hj
      have hji := List.inj_on_of_nodup_map hnodup hjg hgone he
      rw [hji, hr] at hjr
      cases hjr
  · have hnot : ∀ j ∈ s.queued, j.serial ≠ i.serial := by
      intro j hj he
      unfold known at hfresh
      rw [List.map_append] at hfresh
      refine (List.nodup_append.mp hfresh).2.2 _ (List.mem_map_of_mem ?_) _ (List.mem_map_of_mem hi) he
      exact List.mem_append_left _ hj
    have hgone : ∀ j ∈ s.gone, j.serial ≠ i.serial := fun j hj =>
      hnot j (h.line.mem_iff.mp (List.mem_append_left _ hj))
    have hpend : ∀ j ∈ pending s, j.serial ≠ i.serial := fun j hj =>
      hnot j (h.line.mem_iff.mp (List.mem_append_right _ hj))
    refine ⟨fun hp => hpend i hp rfl, fun hm => ?_, fun hm => ?_⟩
    · rw [h.released] at hm
      obtain ⟨j, hj, he⟩ := List.mem_map.mp hm
      exact hgone j (List.mem_filter.mp hj).1 he
    · rcases h.delivered _ hm with hm | ⟨j, st, hpc, he⟩
      · obtain ⟨j, hj, he⟩ := List.mem_map.mp hm
        exact hgone j hj he
      · refine hpend j ?_ he
        unfold pending
        rw [hpc]
        exact List.mem_cons_self ..
  · have hpc := h.joined hj
    unfold pending
    rw [hpc, h.flushed hpc]
    rfl

theorem Inv.not_releasing (h : Inv s) (hw : s.pc.onWay = true) {n : Nat} (hn : n ∈ deliveries s.log) :
    n ∈ s.gone.map Item.serial := by
  rcases h.delivered n hn with hn | ⟨i, st, hrel, _⟩
  · exact hn
  · rw [hrel] at hw
    cases hw

theorem Inv.not_joined (h : Inv s) (hw : s.pc.onWay = true) : s.exitPc ≠ .joined := by
  intro hj
  rw [h.joined hj] at hw
  cases hw

theorem Inv.move {dataQ : List Item} {commands : Commands} {pc : ThreadPc} {rcvd : Nat} (h : Inv s)
    (hw : s.pc.onWay = true) (hp : pc.hand ++ dataQ = pending s) (hx : pc ≠ .exited)
    (hc : Counted { s with dataQ, commands, pc, rcvd }) : Inv { s with dataQ, commands, pc, rcvd } :=
  { h with
    line := by
      show (s.gone ++ (pc.hand ++ dataQ)).Perm s.queued
      rw [hp]
      exact h.line
    delivered := fun _ hn => Or.inl (h.not_releasing hw hn)
    counted := hc
    flushed := fun he => absurd he hx
    joined := fun hj => absurd hj (h.not_joined hw) }

theorem Counted.keep (h : Counted s) (hl : session t.log = session s.log)
    (ha : t.isSnapshotActive = s.isSnapshotActive) (hs : t.longShot = s.longShot)
    (he : t.expected = s.expected) (hr : t.rcvd = s.rcvd) (hc : t.pc.counted = s.pc.counted)
    (hn : t.pc.announcing = s.pc.announcing) (hp : ∀ i, t.pc = .posting i → s.pc = .posting i)
    (hcall : ∀ i, t.pc = .calling i → i.snapshot = true → s.pc = .calling i) : Counted t := by
  refine ⟨?_, ?_, ?_, ?_, ?_, fun i hi => ?_, fun i hi hsnap => ?_⟩
  · rw [hl, ha]
    exact h.active
  · rw [hl, ha, hs]
    exact h.longShot
  · rw [hl, ha, he]
    exact h.expected
  · rw [hl, ha, hs, hr, hc]
    exact h.jpegs
  · rw [hl, ha, hs, he, hr, hn]
    exact h.dones
  · rw [ha, hs, he, hr]
    exact h.posting i (hp i hi)
  · rw [ha]
    exact h.calling i (hcall i hi hsnap) hsnap

def ThreadPc.Idle (pc : ThreadPc) : Prop := pc.counted = 0 ∧ pc.announcing = false

theorem Counted.idle (h : Counted s) (hl : session t.log = session s.log)
    (ha : t.isSnapshotActive = s.isSnapshotActive) (hs : t.longShot = s.longShot)
    (he : t.expected = s.expected) (hr : t.rcvd = s.rcvd) (hsi : s.pc.Idle) (hti : t.pc.Idle) :
    Counted t := by
  refine h.keep hl ha hs he hr (hti.1.trans hsi.1.symm) (hti.2.trans hsi.2.symm) (fun i hi => ?_)
    fun i hi hsnap => ?_
  · have htn := hti.2
    rw [hi] at htn
    cases htn
  · have hone := hti.1
    rw [hi] at hone
    cases (if_pos hsnap).symm.trans hone

theorem Inv.moveIdle {dataQ : List Item} {commands : Commands} {pc : ThreadPc} (h : Inv s)
    (hw : s.pc.onWay = true) (hs : s.pc.Idle) (hp : pc.hand ++ dataQ = pending s)
    (ht : pc.Idle) (hx : pc ≠ .exited) : Inv { s with dataQ, commands, pc } :=
  h.move hw hp hx (h.counted.idle rfl rfl rfl rfl rfl hs ht)

theorem checked_erase {c : Nat} {x : Caller} (hc : s.callers[c]? = some x) :
    (checked s).Perm (x.checkedItem ++ (s.callers.eraseIdx c).flatMap Caller.checkedItem) := by
  obtain ⟨hlt, heq⟩ := List.getElem?_eq_some_iff.mp hc
  have hperm := (List.getElem_cons_eraseIdx_perm hlt).flatMap_right Caller.checkedItem
  rw [heq] at hperm
  exact hperm.symm

theorem checked_set {c : Nat} {x : Caller} (y : Caller) (hc : s.callers[c]? = some x) :
    ((s.callers.set c y).flatMap Caller.checkedItem).Perm
      (y.checkedItem ++ (s.callers.eraseIdx c).flatMap Caller.checkedItem) := by
  obtain ⟨hlt, _⟩ := List.getElem?_eq_some_iff.mp hc
  exact (List.set_perm_cons_eraseIdx hlt y).flatMap_right Caller.checkedItem

theorem Inv.known_perm (h : Inv s) (hk : (known t).Perm (known s)) :
    ((known t).map Item.serial).Nodup ∧ ∀ i ∈ known t, i.serial < s.issued :=
  ⟨((hk.map Item.serial).nodup_iff).mpr h.fresh, fun i hi => h.below i (hk.mem_iff.mp hi)⟩

theorem Inv.notifyCallback {cbType : CbType} {msgType : Nat} {releaseCb mem : Bool} (h : Inv s) :
    Inv (s.notifyCallback cbType msgType releaseCb mem) := by
  let i : Item := ⟨s.issued, cbType, msgType, releaseCb⟩
  have hcons : ∀ t : Notifier, (known t).Perm (i :: known s) → t.issued = s.issued + 1 →
      ((known t).map Item.serial).Nodup ∧ ∀ j ∈ known t, j.serial < t.issued := by
    intro t hk hi
    constructor
    · refine ((hk.map Item.serial).nodup_iff).mpr (List.nodup_cons.mpr ⟨fun hm => ?_, h.fresh⟩)
      obtain ⟨j, hj, he⟩ := List.mem_map.mp hm
      have hlt := h.below j hj
      rw [he] at hlt
      exact Nat.lt_irrefl _ hlt
    · intro j hj
      rw [hi]
      rcases List.mem_cons.mp (hk.mem_iff.mp hj) with rfl | hj
      · exact Nat.lt_succ_self _
      · exact Nat.lt_succ_of_lt (h.below j hj)
  unfold Notifier.notifyCallback
  dsimp only
  split
  · let t : Notifier := { s with issued := s.issued + 1, callers := s.callers ++ [.checked i] }
    have hk : (known t).Perm (i :: known s) := by
      show (s.queued ++ (s.callers ++ [Caller.checked i]).flatMap Caller.checkedItem ++ s.rejected).Perm _
      rw [List.flatMap_append, ← List.append_assoc, List.append_assoc]
      exact List.perm_middle
    obtain ⟨hfresh, hbelow⟩ := hcons t hk rfl
    show Inv t
    refine { h with
      fresh := hfresh
      below := hbelow
      callers := fun j hj => h.callers j ?_
      counted := { h.counted with } }
    rcases hj with hj | hj
    · rcases List.mem_append.mp hj with hj | hj
      · exact Or.inl hj
      · cases List.mem_singleton.mp hj
    · rcases List.mem_append.mp hj with hj | hj
      · exact Or.inr hj
      · cases List.mem_singleton.mp hj
  · let t : Notifier := { s with issued := s.issued + 1, rejected := s.rejected ++ [i] }
    have hk : (known t).Perm (i :: known s) := by
      show (s.queued ++ checked s ++ (s.rejected ++ [i])).Perm _
      rw [← List.append_assoc]
      exact List.perm_append_singleton _ _
    obtain ⟨hfresh, hbelow⟩ := hcons t hk rfl
    show Inv t
    exact { h with fresh := hfresh, below := hbelow, counted := { h.counted with } }

theorem Inv.enqueue {c : Nat} {node : Bool} (h : Inv s) (hc : s.callers[c]? = some (.checked i))
    (hnode : node = true → s.pc ≠ .exited) : Inv (s.enqueue c i node) := by
  have herase := checked_erase hc
  unfold Notifier.enqueue
  split
  next hn =>
    have hset := checked_set (.queued i) hc
    let t : Notifier := { s with
      dataQ := s.dataQ ++ [i], queued := s.queued ++ [i], callers := s.callers.set c (.queued i) }
    have hk : (known t).Perm (known s) := by
      show (s.queued ++ [i] ++ (s.callers.set c (.queued i)).flatMap Caller.checkedItem ++
        s.rejected).Perm (s.queued ++ checked s ++ s.rejected)
      refine List.Perm.append_right _ ?_
      rw [List.append_assoc]
      exact List.Perm.append_left _ ((hset.append_left [i]).trans herase.symm)
    obtain ⟨hfresh, hbelow⟩ := h.known_perm hk
    show Inv t
    refine { h with
      line := ?_
      fresh := hfresh
      below := hbelow
      callers := fun j hj => ?_
      accepted := fun j hj => List.mem_append_left _ (h.accepted j hj)
      counted := { h.counted with }
      flushed := fun hx => absurd hx (hnode hn) }
    · show (s.gone ++ (s.pc.hand ++ (s.dataQ ++ [i]))).Perm (s.queued ++ [i])
      rw [← List.append_assoc s.pc.hand, ← List.append_assoc s.gone]
      exact h.line.append_right [i]
    · rcases hj with hj | hj
      · rcases List.mem_or_eq_of_mem_set hj with hj | hj
        · exact List.mem_append_left _ (h.callers j (Or.inl hj))
        · cases hj
          exact List.mem_append_right _ (List.mem_singleton_self _)
      · rcases List.mem_or_eq_of_mem_set hj with hj | hj
        · exact List.mem_append_left _ (h.callers j (Or.inr hj))
        · cases hj
  · let t : Notifier := { s with callers := s.callers.eraseIdx c, rejected := s.rejected ++ [i] }
    have hk : (known t).Perm (known s) := by
      show (s.queued ++ (s.callers.eraseIdx c).flatMap Caller.checkedItem ++ (s.rejected ++ [i])).Perm
        (s.queued ++ checked s ++ s.rejected)
      rw [List.append_assoc, List.append_assoc s.queued]
      refine List.Perm.append_left _ ?_
      rw [← List.append_assoc]
      refine (List.perm_append_singleton _ _).trans ?_
      exact herase.symm.append_right s.rejected
    obtain ⟨hfresh, hbelow⟩ := h.known_perm hk
    show Inv t
    exact { h with
      fresh := hfresh
      below := hbelow
      callers := fun j hj =>
        h.callers j (hj.imp List.mem_of_mem_eraseIdx List.mem_of_mem_eraseIdx)
      counted := { h.counted with } }

theorem Inv.sendNext {c : Nat} {o : Send} (h : Inv s) (hc : s.callers[c]? = some (.queued i))
    (ho : o ≠ .noMem) : Inv (s.sendNext c i o) := by
  have herase := checked_erase hc
  have hset := checked_set (.posting i) hc
  have hqueued := h.callers i (Or.inl (List.mem_of_getElem? hc))
  unfold Notifier.sendNext
  rw [if_neg ho]
  let t : Notifier := { s with
    callers := s.callers.set c (.posting i), commands := s.commands.put .doNextJob false o }
  have hk : (known t).Perm (known s) :=
    List.Perm.append_right _ (List.Perm.append_left _ (hset.trans herase.symm))
  obtain ⟨hfresh, hbelow⟩ := h.known_perm hk
  show Inv t
  refine { h with
    fresh := hfresh
    below := hbelow
    callers := fun j hj => ?_
    counted := { h.counted with } }
  rcases hj with hj | hj
  · rcases List.mem_or_eq_of_mem_set hj with hj | hj
    · exact h.callers j (Or.inl hj)
    · cases hj
  · rcases List.mem_or_eq_of_mem_set hj with hj | hj
    · exact h.callers j (Or.inr hj)
    · cases hj
      exact hqueued

theorem Inv.postNext {c : Nat} (h : Inv s) (hc : s.callers[c]? = some (.posting i)) :
    Inv (s.postNext c i) := by
  have herase := checked_erase hc
  have hqueued := h.callers i (Or.inr (List.mem_of_getElem? hc))
  let t : Notifier := s.postNext c i
  have hk : (known t).Perm (known s) :=
    List.Perm.append_right _ (List.Perm.append_left _ herase.symm)
  obtain ⟨hfresh, hbelow⟩ := h.known_perm hk
  show Inv t
  refine { h with
    fresh := hfresh
    below := hbelow
    callers := fun j hj => h.callers j (hj.imp List.mem_of_mem_eraseIdx List.mem_of_mem_eraseIdx)
    accepted := fun j hj => ?_
    counted := { h.counted with } }
  rcases List.mem_append.mp hj with hj | hj
  · exact h.accepted j hj
  · rw [List.mem_singleton.mp hj]
    exact hqueued

theorem Inv.flushNodes (h : Inv s) (p : Item → Bool) : Inv (s.flushNodes p) := by
  let t : Notifier := s.flushNodes p
  have hsub : ∀ i ∈ s.dataQ.filter p, i ∈ pending s := fun i hi =>
    List.mem_append_right _ (List.mem_filter.mp hi).1
  have hdist := h.distinct
  have hnodup : ((s.dataQ.filter p).map Item.serial).Nodup := by
    unfold pending at hdist
    rw [List.map_append, List.map_append] at hdist
    have hq := (List.nodup_append.mp (List.nodup_append.mp hdist).2.1).2.1
    exact hq.sublist (List.filter_sublist.map _)
  show Inv t
  refine ⟨?_, h.fresh, h.below, h.callers, h.accepted, ?_, fun n hn => ?_, ?_, ?_, fun hx => ?_,
    h.joined⟩
  · refine List.Perm.trans ?_ h.line
    show (s.gone ++ s.dataQ.filter p ++ (s.pc.hand ++ s.dataQ.filter fun i => !p i)).Perm
      (s.gone ++ (s.pc.hand ++ s.dataQ))
    rw [List.append_assoc]
    refine List.Perm.append_left _ ?_
    rw [← List.append_assoc]
    refine (List.perm_append_comm.append_right _).trans ?_
    rw [List.append_assoc]
    exact List.Perm.append_left _ (List.filter_append_perm p s.dataQ)
  · show releases (s.log ++ _) = ((s.gone ++ s.dataQ.filter p).filter Item.releaseCb).map Item.serial
    rw [releases_append, flush_releases, h.released, List.filter_append, List.map_append]
  · have hsame : deliveries t.log = deliveries s.log := by
      show deliveries (s.log ++ _) = _
      rw [deliveries_append, flush_deliveries, List.append_nil]
    rw [hsame] at hn
    rcases h.delivered n hn with hn | hn
    · exact Or.inl (by
        show n ∈ (s.gone ++ s.dataQ.filter p).map Item.serial
        rw [List.map_append]
        exact List.mem_append_left _ hn)
    · exact Or.inr hn
  · exact flush_trace h.trace hnodup fun i hi => h.unreleased (hsub i hi)
  · exact h.counted.keep flush_session rfl rfl rfl rfl rfl rfl (fun _ hi => hi) fun _ hi _ => hi
  · show s.dataQ.filter _ = []
    rw [h.flushed hx]
    rfl

theorem Inv.noted (h : Inv s) (hw : s.pc.onWay = true) (hd : a.delivered = [])
    (hr : a.released = []) (ha : Allowed s.log a) (hl : t.log = s.log ++ [a])
    (hg : t.gone = s.gone) :
    releases t.log = (t.gone.filter Item.releaseCb).map Item.serial ∧
      (∀ n ∈ deliveries t.log, n ∈ t.gone.map Item.serial) ∧ Trace.Each Allowed t.log := by
  have hdel : deliveries t.log = deliveries s.log := by
    rw [hl, deliveries_append]
    show _ ++ ([a].flatMap Act.delivered) = _
    rw [List.flatMap_singleton, hd, List.append_nil]
  have hrel : releases t.log = releases s.log := by
    rw [hl, releases_append]
    show _ ++ ([a].flatMap Act.released) = _
    rw [List.flatMap_singleton, hr, List.append_nil]
  rw [hdel, hrel, hg, hl]
  exact ⟨h.released, fun n hn => h.not_releasing hw hn, h.trace.concat ha⟩

theorem Inv.startProc {expected : Nat} {longShot : Bool} (h : Inv s) (hpc : s.pc = .starting) :
    Inv (s.startProc expected longShot) := by
  let t : Notifier := s.startProc expected longShot
  have hsession : session t.log = { active := true, longShot, expected } := session_concat
  have hw : s.pc.onWay = true := by rw [hpc]; rfl
  obtain ⟨hreleased, hdelivered, htrace⟩ :=
    @Inv.noted (.start expected longShot) s t h hw rfl rfl trivial rfl rfl
  show Inv t
  refine { h with
    line := ?_
    released := hreleased
    delivered := fun n hn => Or.inl (hdelivered n hn)
    trace := htrace
    counted := ⟨?_, ?_, ?_, ?_, ?_, (fun i hi => by cases hi), fun i hi => by cases hi⟩
    flushed := fun hx => by cases hx
    joined := fun hj => absurd hj (h.not_joined hw) }
  · have hline := h.line
    unfold pending at hline
    rw [hpc] at hline
    exact hline
  · rw [hsession]
    rfl
  · intro _
    rw [hsession]
    rfl
  · intro _
    rw [hsession]
    rfl
  · intro _ _
    rw [hsession]
    rfl
  · intro _ _
    have hnot : ¬(0 < expected ∧ expected ≤ 0 ∧ ThreadPc.waiting.announcing = false) := by omega
    rw [hsession]
    exact (if_neg hnot).symm

theorem Inv.stopProc (h : Inv s) (hpc : s.pc = .stopping) : Inv s.stopProc := by
  have hflush := h.flushNodes Item.snapshot
  let t : Notifier := s.stopProc
  have hsession : session t.log = {} := session_concat
  have hw : s.pc.onWay = true := by rw [hpc]; rfl
  obtain ⟨hreleased, hdelivered, htrace⟩ :=
    @Inv.noted .stop (s.flushNodes Item.snapshot) t hflush hw rfl rfl trivial rfl rfl
  show Inv t
  refine { hflush with
    line := ?_
    released := hreleased
    delivered := fun n hn => Or.inl (hdelivered n hn)
    trace := htrace
    counted := ⟨?_, ?_, ?_, ?_, ?_, (fun i hi => by cases hi), fun i hi => by cases hi⟩
    flushed := fun hx => by cases hx
    joined := fun hj => absurd hj (h.not_joined hw) }
  · have hline := hflush.line
    unfold pending at hline
    rw [show (s.flushNodes Item.snapshot).pc = .stopping from hpc] at hline
    exact hline
  · rw [hsession]
    rfl
  · exact fun ha => Bool.noConfusion ha
  · exact fun ha => Bool.noConfusion ha
  · exact fun ha => Bool.noConfusion ha
  · exact fun ha => Bool.noConfusion ha

theorem Inv.exitProc (h : Inv s) (hpc : s.pc = .exiting) : Inv s.exitProc := by
  have hflush := h.flushNodes fun _ => true
  have hpc' : (s.flushNodes fun _ => true).pc = .exiting := hpc
  have hw : (s.flushNodes fun _ => true).pc.onWay = true := by rw [hpc']; rfl
  have hline := hflush.line
  unfold pending at hline
  rw [hpc'] at hline
  exact { hflush with
    line := hline
    delivered := fun n hn => Or.inl (hflush.not_releasing hw hn)
    counted := hflush.counted.idle rfl rfl rfl rfl rfl (by rw [hpc']; exact ⟨rfl, rfl⟩) ⟨rfl, rfl⟩
    flushed := fun _ => List.filter_eq_nil_iff.mpr fun _ _ => Bool.false_ne_true
    joined := fun _ => rfl }

theorem Inv.getCmd (h : Inv s) (hpc : s.pc = .woken) : Inv s.getCmd := by
  have hpcs : s.getCmd.pc.hand = [] ∧ s.getCmd.pc.Idle ∧ s.getCmd.pc ≠ .exited := by
    unfold Notifier.getCmd
    dsimp only
    split <;> exact ⟨rfl, ⟨rfl, rfl⟩, ThreadPc.noConfusion⟩
  refine h.moveIdle (by rw [hpc]; rfl) (by rw [hpc]; exact ⟨rfl, rfl⟩) ?_ hpcs.2.1 hpcs.2.2
  unfold pending
  rw [hpc]
  exact congrArg (· ++ s.dataQ) hpcs.1

theorem Inv.dequeue (h : Inv s) (hpc : s.pc = .doNext) : Inv s.dequeue := by
  have hw : s.pc.onWay = true := by rw [hpc]; rfl
  have hidle : s.pc.Idle := by rw [hpc]; exact ⟨rfl, rfl⟩
  have hpend : pending s = s.dataQ := by
    unfold pending
    rw [hpc]
    rfl
  unfold Notifier.dequeue
  split
  · exact h.moveIdle hw hidle hpend.symm ⟨rfl, rfl⟩ ThreadPc.noConfusion
  next i rest hq => exact h.moveIdle hw hidle (hq.symm.trans hpend.symm) ⟨rfl, rfl⟩ ThreadPc.noConfusion

theorem holding_pending {pc : ThreadPc} (hpc : s.pc = .holding i) (hh : pc.hand = [i]) :
    pc.hand ++ s.dataQ = pending s := by
  unfold pending
  rw [hpc, hh]
  rfl

theorem Inv.checked_uncounted {pc : ThreadPc} (h : Inv s) (hpc : s.pc = .holding i)
    (hh : pc.hand = [i]) (hc : pc.Idle) : Inv { s with pc := pc } := by
  refine h.moveIdle (by rw [hpc]; rfl) (by rw [hpc]; exact ⟨rfl, rfl⟩) (holding_pending hpc hh) hc ?_
  rintro rfl
  cases hh

theorem Inv.checkSnapshot (h : Inv s) (hpc : s.pc = .holding i) (hsnap : i.snapshot = true)
    (hlt : s.rcvd + 1 < 2 ^ 32) : Inv (s.checkSnapshot i) := by
  have hw : s.pc.onWay = true := by rw [hpc]; rfl
  have hold : s.pc.counted = 0 := by rw [hpc]; rfl
  have hann : s.pc.announcing = false := by rw [hpc]; rfl
  have hone : (ThreadPc.calling i).counted = 1 := if_pos hsnap
  unfold Notifier.checkSnapshot
  by_cases hact : s.isSnapshotActive = true ∧ s.dataCb = true
  swap
  · rw [if_neg hact]
    exact h.checked_uncounted hpc rfl ⟨rfl, rfl⟩
  rw [if_pos hact]
  by_cases hlong : s.longShot = true
  · rw [if_pos hlong]
    refine h.move hw (holding_pending hpc rfl) ThreadPc.noConfusion
      ⟨h.counted.active, h.counted.longShot, h.counted.expected, fun _ hl => ?_, fun _ hl => ?_,
        (fun j hj => by cases hj), fun _ _ _ => hact.1⟩
    · rw [hlong] at hl
      cases hl
    · rw [hlong] at hl
      cases hl
  rw [if_neg hlong]
  have hfalse : s.longShot = false := by simpa using hlong
  have hmod : (s.rcvd + 1) % 2 ^ 32 = s.rcvd + 1 := Nat.mod_eq_of_lt hlt
  have hjpegs := h.counted.jpegs hact.1 hfalse
  have hdones := h.counted.dones hact.1 hfalse
  rw [hold, Nat.add_zero] at hjpegs
  dsimp only
  rw [hmod]
  by_cases hlast : 0 < s.expected ∧ s.expected = s.rcvd + 1
  · rw [if_pos hlast]
    refine h.move hw (holding_pending hpc rfl) ThreadPc.noConfusion
      ⟨h.counted.active, h.counted.longShot, h.counted.expected, fun _ _ => ?_, fun _ _ => ?_,
        fun j hj => ?_, fun j hj => by cases hj⟩
    · show s.rcvd + 1 = _
      rw [hjpegs]
      rfl
    · have hbefore : ¬(0 < s.expected ∧ s.expected ≤ s.rcvd ∧ s.pc.announcing = false) := by omega
      have hnow : ¬(0 < s.expected ∧ s.expected ≤ s.rcvd + 1 ∧
          (ThreadPc.posting i).announcing = false) := fun hx => Bool.noConfusion hx.2.2
      rw [if_neg hbefore] at hdones
      rw [if_neg hnow]
      exact hdones
    · cases hj
      exact ⟨hsnap, hact.1, hfalse, hlast⟩
  · rw [if_neg hlast]
    refine h.move hw (holding_pending hpc rfl) ThreadPc.noConfusion
      ⟨h.counted.active, h.counted.longShot, h.counted.expected, fun _ _ => ?_, fun _ _ => ?_,
        (fun j hj => by cases hj), fun _ _ _ => hact.1⟩
    · show s.rcvd + 1 = _ + (ThreadPc.calling i).counted
      rw [hjpegs, hone]
    · have hiff : (0 < s.expected ∧ s.expected ≤ s.rcvd + 1 ∧
          (ThreadPc.calling i).announcing = false) ↔
          (0 < s.expected ∧ s.expected ≤ s.rcvd ∧ s.pc.announcing = false) := by
        rw [hann]
        have hcall : (ThreadPc.calling i).announcing = false := rfl
        rw [hcall]
        constructor
        · rintro ⟨h0, hle, _⟩
          exact ⟨h0, by omega, rfl⟩
        · rintro ⟨h0, hle, _⟩
          exact ⟨h0, by omega, rfl⟩
      show _ = if 0 < s.expected ∧ s.expected ≤ s.rcvd + 1 ∧
        (ThreadPc.calling i).announcing = false then 1 else 0
      rw [if_congr hiff rfl rfl]
      exact hdones

theorem Inv.check {enabled : Bool} (h : Inv s) (hpc : s.pc = .holding i)
    (hlt : s.rcvd + 1 < 2 ^ 32) : Inv (s.check i enabled) := by
  have hcall (hs : i.snapshot = false) : (ThreadPc.calling i).counted = 0 := by
    show (if i.snapshot then 1 else 0) = 0
    rw [hs]
    rfl
  have hplain {b : Bool} (hs : i.snapshot = false) :
      Inv { s with pc := if b then .calling i else .releasing i .noError } := by
    cases b with
    | true => exact h.checked_uncounted hpc rfl ⟨hcall hs, rfl⟩
    | false => exact h.checked_uncounted hpc rfl ⟨rfl, rfl⟩
  have hsnap : i.snapshot = decide (i.cbType = .snapshot) := rfl
  unfold Notifier.check
  split
  · split
    next ht => exact hplain (by rw [hsnap, ht]; rfl)
    next ht => exact hplain (by rw [hsnap, ht]; rfl)
    next ht => exact hplain (by rw [hsnap, ht]; rfl)
    next ht => exact h.checkSnapshot hpc (by rw [hsnap, ht]; rfl) hlt
    · exact h.checked_uncounted hpc rfl ⟨rfl, rfl⟩
  · exact h.checked_uncounted hpc rfl ⟨rfl, rfl⟩

theorem Inv.postDone (h : Inv s) (hpc : s.pc = .posting i) :
    Inv { s with pc := .calling i, log := s.log ++ [.done] } := by
  have hw : s.pc.onWay = true := by rw [hpc]; rfl
  obtain ⟨hsnap, hact, hlong, hpos, hlast⟩ := h.counted.posting i hpc
  have hjpegs := h.counted.jpegs hact hlong
  have hdones := h.counted.dones hact hlong
  have hcounted : s.pc.counted = 1 := by rw [hpc]; rfl
  have hann : s.pc.announcing = true := by rw [hpc]; rfl
  have hnot : ¬(0 < s.expected ∧ s.expected ≤ s.rcvd ∧ s.pc.announcing = false) := by
    rw [hann]
    exact fun hx => Bool.noConfusion hx.2.2
  rw [if_neg hnot] at hdones
  let t : Notifier := { s with pc := .calling i, log := s.log ++ [.done] }
  have hsession : session t.log = { session s.log with dones := (session s.log).dones + 1 } :=
    session_concat
  have hallowed : Allowed s.log .done := by
    refine ⟨by rw [h.counted.active]; exact hact, by rw [h.counted.longShot hact]; exact hlong,
      hdones, ?_⟩
    rw [h.counted.expected hact, hlast, hjpegs, hcounted]
  obtain ⟨hreleased, hdelivered, htrace⟩ := @Inv.noted .done s t h hw rfl rfl hallowed rfl rfl
  have hline := h.line
  unfold pending at hline
  rw [hpc] at hline
  show Inv t
  refine { h with
    line := hline
    released := hreleased
    delivered := fun n hn => Or.inl (hdelivered n hn)
    trace := htrace
    counted := ?_
    flushed := fun hx => by cases hx
    joined := fun hj => absurd hj (h.not_joined hw) }
  · refine ⟨?_, ?_, ?_, ?_, ?_, (fun j hj => by cases hj), fun _ _ _ => hact⟩
    · rw [hsession]
      exact h.counted.active
    · rw [hsession]
      exact h.counted.longShot
    · rw [hsession]
      exact h.counted.expected
    · intro _ _
      rw [hsession]
      show s.rcvd = (session s.log).jpegs + (ThreadPc.calling i).counted
      have hone : (ThreadPc.calling i).counted = 1 := if_pos hsnap
      rw [hjpegs, hcounted, hone]
    · intro _ _
      have hnow : 0 < s.expected ∧ s.expected ≤ s.rcvd ∧ (ThreadPc.calling i).announcing = false :=
        ⟨hpos, Nat.le_of_eq hlast, rfl⟩
      rw [hsession]
      show (session s.log).dones + 1 = if 0 < s.expected ∧ s.expected ≤ s.rcvd ∧
        (ThreadPc.calling i).announcing = false then 1 else 0
      rw [hdones, if_pos hnow]

theorem Inv.call (h : Inv s) (hpc : s.pc = .calling i) : Inv (s.call i) := by
  have hw : s.pc.onWay = true := by rw [hpc]; rfl
  have hmem : i ∈ pending s := by
    unfold pending
    rw [hpc]
    exact List.mem_cons_self ..
  let t : Notifier := s.call i
  have hsession : session t.log =
      if i.snapshot then { session s.log with jpegs := (session s.log).jpegs + 1 } else session s.log :=
    session_concat
  have hpend : pending t = pending s := by
    show [i] ++ s.dataQ = s.pc.hand ++ s.dataQ
    rw [hpc]
    rfl
  have hallowed : Allowed s.log (.deliver i.serial i.snapshot) := by
    refine ⟨fun hm => ?_, h.unreleased hmem, fun hsnap => ?_⟩
    · have hdist := h.distinct
      rw [List.map_append] at hdist
      exact (List.nodup_append.mp hdist).2.2 _ (h.not_releasing hw hm) _ (List.mem_map_of_mem hmem) rfl
    · have hact := h.counted.calling i hpc hsnap
      refine ⟨by rw [h.counted.active]; exact hact, fun hlong hlast => ?_⟩
      rw [h.counted.longShot hact] at hlong
      rw [h.counted.expected hact] at hlast
      have hjpegs := h.counted.jpegs hact hlong
      have hcounted : s.pc.counted = 1 := by rw [hpc]; exact if_pos hsnap
      have hann : s.pc.announcing = false := by rw [hpc]; rfl
      rw [hcounted] at hjpegs
      rw [h.counted.dones hact hlong]
      exact if_pos ⟨by omega, by omega, hann⟩
  have hcount : Counted t := by
    refine ⟨?_, ?_, ?_, ?_, ?_, (fun j hj => by cases hj), fun j hj => by cases hj⟩
    · rw [hsession]
      split <;> exact h.counted.active
    · rw [hsession]
      split <;> exact h.counted.longShot
    · rw [hsession]
      split <;> exact h.counted.expected
    · intro ha hl
      have hjpegs := h.counted.jpegs ha hl
      have hc : s.pc.counted = if i.snapshot then 1 else 0 := by rw [hpc]; rfl
      rw [hc] at hjpegs
      rw [hsession]
      show s.rcvd = _ + 0
      split
      next hs =>
        rw [if_pos hs] at hjpegs
        exact hjpegs
      next hs =>
        rw [if_neg hs] at hjpegs
        exact hjpegs
    · intro ha hl
      have hdones := h.counted.dones ha hl
      have hann : s.pc.announcing = false := by rw [hpc]; rfl
      rw [hann] at hdones
      rw [hsession]
      split <;> exact hdones
  show Inv t
  refine { h with
    line := ?_
    released := ?_
    delivered := fun n hn => ?_
    trace := h.trace.concat hallowed
    counted := hcount
    flushed := fun hx => by cases hx
    joined := fun hj => absurd hj (h.not_joined hw) }
  · rw [hpend]
    exact h.line
  · show releases (s.log ++ [.deliver i.serial i.snapshot]) = _
    rw [releases_append]
    exact (List.append_nil _).trans h.released
  · have hsplit : n ∈ deliveries s.log ++ [i.serial] := by
      have hd : deliveries t.log = deliveries s.log ++ [i.serial] := deliveries_append
      rw [hd] at hn
      exact hn
    rcases List.mem_append.mp hsplit with hn | hn
    · exact Or.inl (h.not_releasing hw hn)
    · exact Or.inr ⟨i, .noError, rfl, (List.mem_singleton.mp hn).symm⟩

theorem Inv.release (h : Inv s) (hpc : s.pc = .releasing i st) : Inv (s.release i st) := by
  have hpend : pending s = i :: s.dataQ := by
    unfold pending
    rw [hpc]
    rfl
  have hmem : i ∈ pending s := by
    rw [hpend]
    exact List.mem_cons_self ..
  have hact : [i].flatMap (releaseAct st) = releaseAct st i := List.flatMap_singleton ..
  let t : Notifier := s.release i st
  show Inv t
  refine { h with
    line := ?_
    released := ?_
    delivered := fun n hn => ?_
    trace := ?_
    counted := ?_
    flushed := fun hx => by cases hx
    joined := fun hj => absurd (hpc.symm.trans (h.joined hj)) ThreadPc.noConfusion }
  · have hline := h.line
    rw [hpend, List.append_cons] at hline
    exact hline
  · show releases (s.log ++ releaseAct st i) = ((s.gone ++ [i]).filter Item.releaseCb).map Item.serial
    rw [← hact, releases_append, flush_releases, h.released, List.filter_append, List.map_append]
  · have hd : deliveries t.log = deliveries s.log := by
      show deliveries (s.log ++ releaseAct st i) = _
      rw [← hact, deliveries_append, flush_deliveries, List.append_nil]
    rw [hd] at hn
    refine Or.inl ?_
    show n ∈ (s.gone ++ [i]).map Item.serial
    rw [List.map_append]
    rcases h.delivered n hn with hn | ⟨j, st', hrel, he⟩
    · exact List.mem_append_left _ hn
    · rw [hpc] at hrel
      obtain ⟨rfl, _⟩ := ThreadPc.releasing.inj hrel
      exact List.mem_append_right _ (List.mem_singleton.mpr he.symm)
  · show Trace.Each Allowed (s.log ++ releaseAct st i)
    rw [← hact]
    refine flush_trace h.trace (List.nodup_singleton _) fun j hj => ?_
    rw [List.mem_singleton.mp hj]
    exact h.unreleased hmem
  · refine h.counted.idle ?_ rfl rfl rfl rfl (by rw [hpc]; exact ⟨rfl, rfl⟩) ⟨rfl, rfl⟩
    show session (s.log ++ releaseAct st i) = _
    rw [← hact, flush_session]

theorem Inv.step {e : Event} (h : Inv s) (hs : Sound s e) (ht : step s e = some t) : Inv t := by
  cases e with
  | notifyCallback cbType msgType releaseCb mem =>
    obtain rfl := Option.some.inj ht
    exact h.notifyCallback
  | enqueue c node =>
    simp only [CbNotifier.step] at ht
    split at ht
    next i hc =>
      obtain rfl := Option.some.inj ht
      exact h.enqueue hc hs
    · cases ht
  | sendNext c o =>
    simp only [CbNotifier.step] at ht
    split at ht
    next i hc =>
      obtain rfl := Option.some.inj ht
      exact h.sendNext hc hs
    · cases ht
  | postNext c =>
    simp only [CbNotifier.step] at ht
    split at ht
    next i hc =>
      obtain rfl := Option.some.inj ht
      exact h.postNext hc
    · cases ht
  | startSnapshots o =>
    obtain rfl := Option.some.inj ht
    exact { h with counted := { h.counted with } }
  | stopSnapshots o =>
    obtain rfl := Option.some.inj ht
    exact { h with counted := { h.counted with } }
  | flushVideoNotifications =>
    obtain rfl := Option.some.inj ht
    split
    · exact { h with counted := { h.counted with } }
    · exact h
  | flushVideo =>
    simp only [CbNotifier.step] at ht
    split at ht
    · obtain rfl := Option.some.inj ht
      have hflush := h.flushNodes Item.video
      exact { hflush with counted := { hflush.counted with } }
    · cases ht
  | exit =>
    simp only [CbNotifier.step] at ht
    split at ht
    · obtain rfl := Option.some.inj ht
      exact { h with counted := { h.counted with }, joined := fun hj => by cases hj }
    · cases ht
  | sendExit o =>
    simp only [CbNotifier.step] at ht
    split at ht
    · obtain rfl := Option.some.inj ht
      unfold Notifier.sendExit
      split
      · exact { h with counted := { h.counted with }, joined := fun hj => by cases hj }
      · exact { h with counted := { h.counted with }, joined := fun hj => by cases hj }
    · cases ht
  | join =>
    simp only [CbNotifier.step] at ht
    split at ht
    next hj =>
      obtain rfl := Option.some.inj ht
      exact { h with counted := { h.counted with }, joined := fun _ => hj.2 }
    · cases ht
  | semWait =>
    simp only [CbNotifier.step] at ht
    split at ht
    next q hpc _ =>
      obtain rfl := Option.some.inj ht
      refine h.moveIdle (by rw [hpc]; rfl) (by rw [hpc]; exact ⟨rfl, rfl⟩) ?_ ⟨rfl, rfl⟩
        ThreadPc.noConfusion
      unfold pending
      rw [hpc]
      rfl
    · cases ht
  | getCmd =>
    obtain ⟨hpc, ht⟩ := Option.ite_none_right_eq_some.mp ht
    obtain rfl := Option.some.inj ht
    exact h.getCmd hpc
  | startProc expected longShot =>
    obtain ⟨hpc, ht⟩ := Option.ite_none_right_eq_some.mp ht
    obtain rfl := Option.some.inj ht
    exact h.startProc hpc
  | stopProc =>
    obtain ⟨hpc, ht⟩ := Option.ite_none_right_eq_some.mp ht
    obtain rfl := Option.some.inj ht
    exact h.stopProc hpc
  | exitProc =>
    obtain ⟨hpc, ht⟩ := Option.ite_none_right_eq_some.mp ht
    obtain rfl := Option.some.inj ht
    exact h.exitProc hpc
  | dequeue =>
    obtain ⟨hpc, ht⟩ := Option.ite_none_right_eq_some.mp ht
    obtain rfl := Option.some.inj ht
    exact h.dequeue hpc
  | check enabled =>
    simp only [CbNotifier.step] at ht
    split at ht
    next i hpc =>
      obtain rfl := Option.some.inj ht
      exact h.check hpc hs
    · cases ht
  | postDone =>
    simp only [CbNotifier.step] at ht
    split at ht
    next i hpc =>
      obtain rfl := Option.some.inj ht
      exact h.postDone hpc
    · cases ht
  | call =>
    simp only [CbNotifier.step] at ht
    split at ht
    next i hpc =>
      obtain rfl := Option.some.inj ht
      exact h.call hpc
    · cases ht
  | release =>
    simp only [CbNotifier.step] at ht
    split at ht
    next i st hpc =>
      obtain rfl := Option.some.inj ht
      exact h.release hpc
    · cases ht

theorem Inv.init (notifyCb dataCb timestampCb : Bool) : Inv (init notifyCb dataCb timestampCb) :=
  ⟨List.Perm.refl _, List.nodup_nil, fun _ hi => absurd hi List.not_mem_nil,
    fun _ hi => absurd hi (by rintro (h | h) <;> exact absurd h List.not_mem_nil),
    fun _ hi => absurd hi List.not_mem_nil, rfl, fun _ hn => absurd hn List.not_mem_nil,
    Trace.Each.nil, ⟨rfl, fun _ => rfl, fun _ => rfl, fun _ _ => rfl, fun _ _ => rfl,
      (fun _ hi => by cases hi), fun _ hi => by cases hi⟩, fun _ => rfl, fun hj => by cases hj⟩

/-- Every item that is accepted is delivered at most once and then released once, snapshots are
delivered in a session only, and the last one is announced once, just before it is delivered. -/
theorem items_kept {notifyCb dataCb timestampCb : Bool} {es : List Event} {s : Notifier}
    (hrun : Runs.play step (init notifyCb dataCb timestampCb) es = some s)
    (hsound : Runs.Along step Sound (init notifyCb dataCb timestampCb) es) : Kept s :=
  (Runs.play_invariant (fun _ _ _ hi hs ht => Inv.step hi hs ht)
    (Inv.init notifyCb dataCb timestampCb) hsound hrun).kept

def oneSnapshot : List Event :=
  [.notifyCallback .snapshot 0x100 true true, .enqueue 0 true, .sendNext 0 .sent, .postNext 0,
    .semWait, .getCmd, .dequeue, .check true]

/-- One JPEG is asked for and delivered, another comes too late and is flushed by the stop. -/
theorem items_kept_late : ∃ s, Runs.play step (init true true true)
      ([.startSnapshots .sent, .semWait, .getCmd, .startProc 1 false] ++ oneSnapshot ++
        [.postDone, .call, .release, .notifyCallback .snapshot 0x100 true true, .enqueue 0 true,
          .stopSnapshots .sent, .semWait, .getCmd, .stopProc, .sendNext 0 .sent, .postNext 0]) =
        some s ∧
    s.log = [.start 1 false, .done, .deliver 0 true, .release 0 .noError,
      .release 1 .failedTransaction, .stop] ∧ Kept s := by
  obtain ⟨s, hrun, hlog⟩ := Option.map_eq_some_iff.mp (show (Runs.play step (init true true true)
      ([Event.startSnapshots .sent, .semWait, .getCmd, .startProc 1 false] ++ oneSnapshot ++
        [Event.postDone, .call, .release, .notifyCallback .snapshot 0x100 true true, .enqueue 0 true,
          .stopSnapshots .sent, .semWait, .getCmd, .stopProc, .sendNext 0 .sent, .postNext 0])).map
      (·.log) = some [.start 1 false, .done, .deliver 0 true, .release 0 .noError,
        .release 1 .failedTransaction, .stop] from rfl)
  exact ⟨s, hrun, hlog, items_kept hrun (by decide +kernel)⟩

/-- SNAPSHOT_DONE is posted before the last JPEG of a session is delivered. -/
theorem done_before_delivery :
    ¬∀ (es : List Event) (s : Notifier), Runs.play step (init true true true) es = some s →
      Trace.Each (fun pre a => a = .done → (session pre).expected ≤ (session pre).jpegs) s.log := by
  intro h
  obtain ⟨s, hrun, hlog⟩ := Option.map_eq_some_iff.mp (show (Runs.play step (init true true true)
      ([Event.startSnapshots .sent, .semWait, .getCmd, .startProc 1 false] ++ oneSnapshot ++
        [Event.postDone])).map (·.log) = some [.start 1 false, .done] from rfl)
  have hs := h _ s hrun [.start 1 false] .done [] hlog rfl
  exact absurd hs (by decide)

end Wt88047.CbNotifier
