import Wt88047.Gps.LocThread

/-! The two holders of a delegate, and what holds of it in every state of a run. -/

namespace Wt88047.LocThread

def ClientPc.holds : ClientPc → Bool
  | .deleting | .gone => false
  | _ => true

def ClientPc.releases : ClientPc → Bool
  | .destroy | .locked | .deleting | .gone => true
  | _ => false

def ThreadPc.holds : ThreadPc → Bool
  | .unborn | .deleting | .ended => false
  | _ => true

def ThreadPc.released : ThreadPc → Bool
  | .destroy | .locked | .deleting | .ended => true
  | _ => false

variable {pc : ClientPc}

namespace Delegate

variable {d d' : Delegate} {more : Bool}

structure Inv (d : Delegate) : Prop where
  refs : d.mRefCount = d.client.holds.toNat + d.thread.holds.toNat
  deletes : d.deletes + (if d.client = .deleting then 1 else 0) + (if d.thread = .deleting then 1 else 0) =
    if d.mRefCount = 0 then 1 else 0
  late : d.late = false
  unborn : d.thread = .unborn ↔ d.spawned = false
  runnableDeletes : d.runnableDeletes = d.thread.released.toNat
  begun : d.thread = .begin → d.mRunnable = true
  unmade : d.spawned = false → d.mRunnable = false
  failed : d.started = some false → d.spawned = false
  ran : d.started = some true → d.spawned = true
  joins : d.joins = (d.spawned && d.joinable && d.client.releases).toNat
  joinable : d.client.releases = false → d.client ≠ .join → d.mJoinable = (d.spawned && d.joinable)
  joining : d.client = .clearJoinable ∨ d.client = .join → d.spawned = true ∧ d.joinable = true

theorem make_inv (joinable spawned : Bool) : (make joinable spawned).Inv := by
  cases spawned <;> cases joinable <;> constructor <;> decide

theorem Inv.alive (h : d.Inv) (hold : d.client.holds = true ∨ d.thread.holds = true) :
    d.deletes = 0 := by
  have hrefs := h.refs
  have hdel := h.deletes
  have hpos : d.mRefCount ≠ 0 := by
    rcases hold with hold | hold
    all_goals
      rw [hrefs, hold]
      simp
  rw [if_neg hpos] at hdel
  omega

theorem Inv.touch (h : d.Inv) (hold : d.client.holds = true ∨ d.thread.holds = true) : d.touch = d := by
  have hdel := h.alive hold
  cases d
  simp only at hdel
  simp [Delegate.touch, hdel]

theorem client_holds (hc : d.client = pc) (hpc : pc.holds = true) : d.client.holds = true := by
  rw [hc]
  exact hpc

theorem thread_holds {pc : ThreadPc} (ht : d.thread = pc) (hpc : pc.holds = true) : d.thread.holds = true := by
  rw [ht]
  exact hpc

theorem ne_deleting_of_holds (h : pc.holds = true) : pc ≠ .deleting := by
  rintro rfl
  cases h

theorem Inv.clientTo (h : d.Inv) {mRunnable mJoinable detached : Bool} {started : Option Bool}
    {joins : Nat} (hc : d.client.holds = true) (hpc : pc.holds = true)
    (hbegun : d.thread = .begin → mRunnable = true)
    (hunmade : d.spawned = false → mRunnable = false)
    (hfailed : started = some false → d.spawned = false)
    (hran : started = some true → d.spawned = true)
    (hjoins : joins = (d.spawned && d.joinable && pc.releases).toNat)
    (hjoinable : pc.releases = false → pc ≠ .join → mJoinable = (d.spawned && d.joinable))
    (hjoining : pc = .clearJoinable ∨ pc = .join → d.spawned = true ∧ d.joinable = true) :
    { d with
      client := pc, mRunnable := mRunnable, mJoinable := mJoinable, detached := detached, started := started
      joins := joins }.Inv where
  refs := by
    rw [hpc, ← hc]
    exact h.refs
  deletes := by
    have hdel := h.deletes
    rw [if_neg (ne_deleting_of_holds hc)] at hdel
    rw [if_neg (ne_deleting_of_holds hpc)]
    exact hdel
  late := h.late
  unborn := h.unborn
  runnableDeletes := h.runnableDeletes
  begun := hbegun
  unmade := hunmade
  failed := hfailed
  ran := hran
  joins := hjoins
  joinable := hjoinable
  joining := hjoining

theorem Inv.unjoined (h : d.Inv) (hr : d.client.releases = false) : d.joins = 0 := by
  rw [h.joins, hr, Bool.and_false]
  rfl

theorem Inv.stillUnjoined (h : d.Inv) (hr : d.client.releases = false) (hpc : pc.releases = false) :
    d.joins = (d.spawned && d.joinable && pc.releases).toNat := by
  rw [h.unjoined hr, hpc, Bool.and_false]
  rfl

theorem Inv.skipsJoin (h : d.Inv) (hr : d.client.releases = false) (hne : d.client ≠ .join)
    (hj : d.mJoinable = false) : d.joins = (d.spawned && d.joinable && ClientPc.destroy.releases).toNat := by
  rw [h.unjoined hr, ← h.joinable hr hne, hj]
  rfl

theorem Inv.clientLocked (h : d.Inv) (hc : d.client = .locked) :
    { d with mRefCount := d.mRefCount - 1, client := if d.mRefCount = 1 then .deleting else .gone }.Inv := by
  have hrefs := h.refs
  have hdel := h.deletes
  have hjoins := h.joins
  simp only [hc, ClientPc.holds, ClientPc.releases, reduceCtorEq, if_false, Bool.toNat_true] at hrefs hdel hjoins
  rw [if_neg (by omega : ¬ d.mRefCount = 0)] at hdel
  by_cases hlast : d.mRefCount = 1
  · rw [if_pos hlast]
    refine { h with refs := ?_, deletes := ?_, joins := hjoins, joinable := nofun, joining := nofun }
    · simp only [ClientPc.holds, Bool.toNat_false]
      omega
    · simp only [if_true, hlast]
      omega
  · rw [if_neg hlast]
    refine { h with refs := ?_, deletes := ?_, joins := hjoins, joinable := nofun, joining := nofun }
    · simp only [ClientPc.holds, Bool.toNat_false]
      omega
    · simp only [reduceCtorEq, if_false]
      rw [if_neg (by omega : ¬ d.mRefCount - 1 = 0)]
      omega

theorem Inv.clientDeleting (h : d.Inv) (hc : d.client = .deleting) :
    { d with deletes := d.deletes + 1, client := .gone }.Inv := by
  have hrefs := h.refs
  have hdel := h.deletes
  have hjoins := h.joins
  rw [hc] at hrefs hjoins
  rw [if_pos hc] at hdel
  refine { h with refs := hrefs, deletes := ?_, joins := hjoins, joinable := nofun, joining := nofun }
  simp only [reduceCtorEq, if_false]
  omega

theorem Inv.clientStep (h : d.Inv) (hs : d.Sound) (hd : d.clientStep = some d') : d'.Inv := by
  have htouch : d.client.holds = true → d.touch = d := fun hh => h.touch (.inl hh)
  cases hc : d.client with
  | gone => simp [Delegate.clientStep, hc] at hd
  | held => simp [Delegate.clientStep, hc] at hd
  | deleting =>
    simp only [Delegate.clientStep, hc, Option.some.injEq] at hd
    subst hd
    exact h.clientDeleting hc
  | locked =>
    have hholds := client_holds hc rfl
    simp only [Delegate.clientStep, hc, Option.some.injEq] at hd
    subst hd
    rw [htouch hholds]
    exact h.clientLocked hc
  | destroy =>
    have hholds := client_holds hc rfl
    have hpos : 0 < d.mRefCount := by
      rw [h.refs, hc]
      exact Nat.lt_of_lt_of_le Nat.zero_lt_one (Nat.le_add_right _ _)
    have hjoins := h.joins
    rw [hc] at hjoins
    simp only [Delegate.clientStep, hc, if_pos hpos, Option.some.injEq] at hd
    subst hd
    rw [htouch hholds]
    exact h.clientTo hholds rfl h.begun h.unmade h.failed h.ran hjoins nofun nofun
  | join =>
    have hholds := client_holds hc rfl
    simp only [Delegate.clientStep, hc, Option.ite_none_right_eq_some, Option.some.injEq] at hd
    obtain ⟨-, rfl⟩ := hd
    obtain ⟨hspawned, hjoin⟩ := h.joining (.inr hc)
    rw [htouch hholds, h.unjoined (by rw [hc]; rfl)]
    refine h.clientTo hholds rfl h.begun h.unmade h.failed h.ran ?_ nofun nofun
    rw [hspawned, hjoin]
    rfl
  | created =>
    have hholds := client_holds hc rfl
    simp only [Delegate.clientStep, hc, Option.some.injEq] at hd
    subst hd
    rw [htouch hholds]
    exact h.clientTo hholds rfl h.begun h.unmade h.failed h.ran
      (h.stillUnjoined (by rw [hc]; rfl) rfl) (fun _ _ => h.joinable (by rw [hc]; rfl) (by rw [hc]; nofun)) nofun
  | check =>
    have hholds := client_holds hc rfl
    have hjoinable := h.joinable (by rw [hc]; rfl) (by rw [hc]; nofun)
    simp only [Delegate.clientStep, hc, Option.some.injEq] at hd
    subst hd
    rw [htouch hholds]
    cases hr : d.mRunnable with
    | true =>
      have hspawned : d.spawned = true := by
        by_contra hno
        rw [h.unmade (by simpa using hno)] at hr
        cases hr
      exact h.clientTo hholds rfl (fun _ => rfl)
        (fun hno => absurd (hspawned.symm.trans hno) nofun) nofun (fun _ => hspawned)
        (h.stillUnjoined (by rw [hc]; rfl) rfl) (fun _ _ => hjoinable) nofun
    | false =>
      have hspawned : d.spawned = false := by
        by_contra hyes
        rw [hs.1 hc (by simpa using hyes)] at hr
        cases hr
      rw [hspawned] at hjoinable
      exact h.clientTo hholds rfl
        (fun hb => hr.symm.trans (h.begun hb)) (fun _ => rfl) (fun _ => hspawned) nofun
        (h.skipsJoin (by rw [hc]; rfl) (by rw [hc]; nofun) hjoinable) nofun nofun
  | bye =>
    have hholds := client_holds hc rfl
    simp only [Delegate.clientStep, hc, Option.some.injEq] at hd
    subst hd
    rw [htouch hholds]
    cases hj : d.mJoinable with
    | true =>
      exact h.clientTo hholds rfl h.begun h.unmade h.failed h.ran
        (h.stillUnjoined (by rw [hc]; rfl) rfl)
        (fun _ _ => hj.symm.trans (h.joinable (by rw [hc]; rfl) (by rw [hc]; nofun))) nofun
    | false =>
      exact h.clientTo hholds rfl h.begun h.unmade h.failed h.ran
        (h.skipsJoin (by rw [hc]; rfl) (by rw [hc]; nofun) hj) nofun nofun
  | stop =>
    have hholds := client_holds hc rfl
    have hjoinable := h.joinable (by rw [hc]; rfl) (by rw [hc]; nofun)
    simp only [Delegate.clientStep, hc, Option.some.injEq] at hd
    subst hd
    rw [htouch hholds]
    cases hr : d.mRunnable with
    | true =>
      exact h.clientTo hholds rfl (fun _ => rfl)
        (fun hno => hr.symm.trans (h.unmade hno)) h.failed h.ran (h.stillUnjoined (by rw [hc]; rfl) rfl)
        (fun _ _ => hjoinable) nofun
    | false =>
      exact h.clientTo hholds rfl (fun hb => hr.symm.trans (h.begun hb))
        (fun _ => rfl) h.failed h.ran (h.stillUnjoined (by rw [hc]; rfl) rfl) (fun _ _ => hjoinable) nofun
  | clearRunnable =>
    have hholds := client_holds hc rfl
    simp only [Delegate.clientStep, hc, Option.some.injEq] at hd
    subst hd
    rw [htouch hholds]
    exact h.clientTo hholds rfl (fun hb => absurd hb (hs.2 hc)) (fun _ => rfl)
      h.failed h.ran (h.stillUnjoined (by rw [hc]; rfl) rfl)
      (fun _ _ => h.joinable (by rw [hc]; rfl) (by rw [hc]; nofun)) nofun
  | readJoinable =>
    have hholds := client_holds hc rfl
    have hjoinable := h.joinable (by rw [hc]; rfl) (by rw [hc]; nofun)
    simp only [Delegate.clientStep, hc, Option.some.injEq] at hd
    subst hd
    rw [htouch hholds]
    cases hj : d.mJoinable with
    | true =>
      rw [hj, eq_comm, Bool.and_eq_true] at hjoinable
      refine h.clientTo hholds rfl h.begun h.unmade h.failed h.ran
        (h.stillUnjoined (by rw [hc]; rfl) rfl) (fun _ _ => ?_) fun _ => hjoinable
      rw [hjoinable.1, hjoinable.2]
      rfl
    | false =>
      exact h.clientTo hholds rfl h.begun h.unmade h.failed h.ran
        (h.skipsJoin (by rw [hc]; rfl) (by rw [hc]; nofun) hj) nofun nofun
  | clearJoinable =>
    have hholds := client_holds hc rfl
    simp only [Delegate.clientStep, hc, Option.some.injEq] at hd
    subst hd
    rw [htouch hholds]
    exact h.clientTo hholds rfl h.begun h.unmade h.failed h.ran
      (h.stillUnjoined (by rw [hc]; rfl) rfl) (fun _ hne => absurd rfl hne) fun _ => h.joining (.inl hc)

theorem running_of_holds {pc : ThreadPc} (h : pc.holds = true) : pc ≠ .deleting ∧ pc ≠ .unborn := by
  constructor
  all_goals
    rintro rfl
    cases h

theorem Inv.threadTo (h : d.Inv) {pc : ThreadPc} {mRunnable : Bool} {runnableDeletes : Nat}
    (ht : d.thread.holds = true) (hpc : pc.holds = true) (hdeletes : runnableDeletes = pc.released.toNat)
    (hbegun : pc = .begin → mRunnable = true) (hunmade : d.spawned = false → mRunnable = false) :
    { d with thread := pc, mRunnable := mRunnable, runnableDeletes := runnableDeletes }.Inv where
  refs := by
    rw [hpc, ← ht]
    exact h.refs
  deletes := by
    have hdel := h.deletes
    rw [if_neg (running_of_holds ht).1] at hdel
    rw [if_neg (running_of_holds hpc).1]
    exact hdel
  late := h.late
  unborn := ⟨fun hu => absurd hu (running_of_holds hpc).2,
    fun hs => absurd (h.unborn.mpr hs) (running_of_holds ht).2⟩
  runnableDeletes := hdeletes
  begun := hbegun
  unmade := hunmade
  failed := h.failed
  ran := h.ran
  joins := h.joins
  joinable := h.joinable
  joining := h.joining

theorem Inv.threadLocked (h : d.Inv) (ht : d.thread = .locked) :
    { d with mRefCount := d.mRefCount - 1, thread := if d.mRefCount = 1 then .deleting else .ended }.Inv := by
  have hrefs := h.refs
  have hdel := h.deletes
  have hdeletes := h.runnableDeletes
  have hborn : d.spawned = false → False := fun hs => by
    rw [h.unborn.mpr hs] at ht
    cases ht
  simp only [ht, ThreadPc.holds, reduceCtorEq, if_false, Bool.toNat_true] at hrefs hdel
  rw [ht] at hdeletes
  rw [if_neg (by omega : ¬ d.mRefCount = 0)] at hdel
  by_cases hlast : d.mRefCount = 1
  · rw [if_pos hlast]
    refine { h with
      refs := ?_
      deletes := ?_
      unborn := ⟨nofun, fun hs => (hborn hs).elim⟩
      runnableDeletes := hdeletes
      begun := nofun }
    · simp only [ThreadPc.holds, Bool.toNat_false]
      omega
    · simp only [if_true, hlast]
      omega
  · rw [if_neg hlast]
    refine { h with
      refs := ?_
      deletes := ?_
      unborn := ⟨nofun, fun hs => (hborn hs).elim⟩
      runnableDeletes := hdeletes
      begun := nofun }
    · simp only [ThreadPc.holds, Bool.toNat_false]
      omega
    · simp only [reduceCtorEq, if_false]
      rw [if_neg (by omega : ¬ d.mRefCount - 1 = 0)]
      omega

theorem Inv.threadDeleting (h : d.Inv) (ht : d.thread = .deleting) :
    { d with deletes := d.deletes + 1, thread := .ended }.Inv := by
  have hrefs := h.refs
  have hdel := h.deletes
  have hdeletes := h.runnableDeletes
  have hborn : d.spawned = false → False := fun hs => by
    rw [h.unborn.mpr hs] at ht
    cases ht
  rw [ht] at hrefs hdeletes
  rw [if_pos ht] at hdel
  refine { h with
    refs := hrefs
    deletes := ?_
    unborn := ⟨nofun, fun hs => (hborn hs).elim⟩
    runnableDeletes := hdeletes
    begun := nofun }
  simp only [reduceCtorEq, if_false]
  omega

theorem Inv.threadStep (h : d.Inv) (hd : d.threadStep more = some d') : d'.Inv := by
  have htouch : d.thread.holds = true → d.touch = d := fun hh => h.touch (.inr hh)
  have hdeletes := h.runnableDeletes
  cases ht : d.thread with
  | unborn => simp [Delegate.threadStep, ht] at hd
  | ended => simp [Delegate.threadStep, ht] at hd
  | deleting =>
    simp only [Delegate.threadStep, ht, Option.some.injEq] at hd
    subst hd
    exact h.threadDeleting ht
  | locked =>
    have hholds := thread_holds ht rfl
    simp only [Delegate.threadStep, ht, Option.some.injEq] at hd
    subst hd
    rw [htouch hholds]
    exact h.threadLocked ht
  | destroy =>
    have hholds := thread_holds ht rfl
    have hpos : 0 < d.mRefCount := by
      rw [h.refs, ht]
      exact Nat.lt_of_lt_of_le Nat.zero_lt_one (Nat.le_add_left _ _)
    rw [ht] at hdeletes
    simp only [Delegate.threadStep, ht, if_pos hpos, Option.some.injEq] at hd
    subst hd
    rw [htouch hholds]
    exact h.threadTo hholds rfl hdeletes nofun h.unmade
  | begin =>
    have hholds := thread_holds ht rfl
    rw [ht] at hdeletes
    simp only [Delegate.threadStep, ht, if_pos (h.begun ht), Option.some.injEq] at hd
    subst hd
    rw [htouch hholds]
    exact h.threadTo hholds rfl hdeletes nofun h.unmade
  | prerun =>
    have hholds := thread_holds ht rfl
    rw [ht] at hdeletes
    simp only [Delegate.threadStep, ht, Option.some.injEq] at hd
    subst hd
    rw [htouch hholds]
    exact h.threadTo hholds rfl hdeletes nofun h.unmade
  | loop =>
    have hholds := thread_holds ht rfl
    rw [ht] at hdeletes
    simp only [Delegate.threadStep, ht, Option.some.injEq] at hd
    subst hd
    rw [htouch hholds]
    cases hr : d.mRunnable with
    | true =>
      exact h.threadTo hholds rfl hdeletes nofun
        fun hs => hr.symm.trans (h.unmade hs)
    | false =>
      exact h.threadTo hholds rfl hdeletes nofun
        fun _ => rfl
  | run =>
    rw [ht] at hdeletes
    simp only [Delegate.threadStep, ht, Option.some.injEq] at hd
    subst hd
    cases more with
    | true =>
      exact h.threadTo (by rw [ht]; rfl) rfl hdeletes nofun h.unmade
    | false =>
      exact h.threadTo (by rw [ht]; rfl) rfl hdeletes nofun h.unmade
  | postrun =>
    have hholds := thread_holds ht rfl
    rw [ht] at hdeletes
    simp only [Delegate.threadStep, ht, Option.some.injEq] at hd
    subst hd
    rw [htouch hholds]
    exact h.threadTo hholds rfl hdeletes nofun h.unmade
  | clear =>
    have hholds := thread_holds ht rfl
    rw [ht] at hdeletes
    simp only [Delegate.threadStep, ht, Option.some.injEq] at hd
    subst hd
    rw [htouch hholds]
    exact h.threadTo hholds rfl hdeletes nofun
      fun _ => rfl
  | deleteRunnable =>
    rw [ht] at hdeletes
    simp only [Delegate.threadStep, ht, Option.some.injEq] at hd
    subst hd
    refine h.threadTo (by rw [ht]; rfl) rfl ?_ nofun h.unmade
    rw [hdeletes]
    rfl

theorem Inv.call (h : d.Inv) (hc : d.client = .held) (hpc : pc = .stop ∨ pc = .bye) :
    { d with client := pc }.Inv := by
  have hjoinable := h.joinable (by rw [hc]; rfl) (by rw [hc]; nofun)
  rcases hpc with rfl | rfl
  all_goals
    exact h.clientTo (by rw [hc]; rfl) rfl h.begun h.unmade h.failed h.ran
      (h.stillUnjoined (by rw [hc]; rfl) rfl) (fun _ _ => hjoinable) nofun

theorem Inv.lifetime (h : d.Inv) : d.Lifetime where
  runnable hs := by
    have hsp := h.ran hs
    have hun : d.thread ≠ .unborn := by
      intro hu
      rw [h.unborn.mp hu] at hsp
      cases hsp
    refine ⟨hun, ?_, ?_⟩
    · rw [h.runnableDeletes]
      exact Bool.toNat_le _
    · intro he
      rw [h.runnableDeletes, he]
      rfl
  kept hs := by
    have hun := h.unborn.mpr (h.failed hs)
    refine ⟨?_, hun⟩
    rw [h.runnableDeletes, hun]
    rfl
  deleted := by
    have hle : (if d.mRefCount = 0 then 1 else 0) ≤ 1 := by
      split <;> omega
    have hdel := h.deletes
    omega
  freed hc ht := by
    have hrefs := h.refs
    have hdel := h.deletes
    rw [hc] at hrefs hdel
    rcases ht with ht | ht
    all_goals
      rw [ht] at hrefs hdel
      simp_all [ClientPc.holds, ThreadPc.holds]
  untouched := h.late
  joined hsp hj := by
    have hjoins := h.joins
    rw [hsp, hj] at hjoins
    refine ⟨?_, ?_⟩
    · rw [hjoins]
      exact Bool.toNat_le _
    · intro hc
      rw [hjoins, hc]
      rfl
  unjoined hno := by
    rw [h.joins]
    rcases hno with hno | hno
    all_goals simp [hno]
  joinEnds hc hu := by
    have hsp := (h.joining (.inr hc)).1
    rw [h.unborn.mp hu] at hsp
    cases hsp

end Delegate

structure World.Inv (w : World) : Prop where
  cur : ∀ d, w.cur = some d → d.Inv ∧ d.client ≠ .gone
  past : ∀ d ∈ w.past, d.Inv ∧ d.client = .gone

theorem World.Inv.lifetime {w : World} (h : w.Inv) : ∀ d ∈ w.delegates, d.Lifetime := by
  intro d hd
  rcases List.mem_append.mp hd with hd | hd
  · exact (h.cur d (by simpa using hd)).1.lifetime
  · exact (h.past d hd).1.lifetime

theorem World.Inv.call {w w' : World} (h : w.Inv) (hpc : pc = .stop ∨ pc = .bye)
    (hw : w.call pc = some w') : w'.Inv := by
  unfold World.call at hw
  cases hcur : w.cur with
  | none =>
    simp only [hcur, Option.some.injEq] at hw
    exact hw ▸ h
  | some d =>
    simp only [hcur, Option.ite_none_right_eq_some, Option.some.injEq] at hw
    obtain ⟨hheld, rfl⟩ := hw
    refine ⟨?_, h.past⟩
    intro d' hd'
    obtain rfl := Option.some.inj hd'
    refine ⟨(h.cur d hcur).1.call hheld hpc, ?_⟩
    rcases hpc with rfl | rfl
    all_goals simp

theorem Delegate.make_client (joinable spawned : Bool) : (make joinable spawned).client ≠ .gone := by
  cases spawned <;> simp [make]

theorem Delegate.threadStep_client {d d' : Delegate} {more : Bool} (hd : d.threadStep more = some d') :
    d'.client = d.client := by
  cases hc : d.thread <;> simp only [Delegate.threadStep, hc, Option.some.injEq, reduceCtorEq] at hd
  all_goals
    subst hd
    rfl

theorem World.Inv.step {w w' : World} {e : Event} (h : w.Inv) (hs : Sound w e)
    (hw : LocThread.step w e = some w') : w'.Inv := by
  cases e with
  | start runnable joinable spawned =>
    simp only [LocThread.step, Option.ite_none_left_eq_some] at hw
    obtain ⟨-, hw⟩ := hw
    cases hcur : w.cur with
    | some d =>
      simp only [hcur, Option.ite_none_right_eq_some, Option.some.injEq] at hw
      exact hw.2 ▸ h
    | none =>
      rw [hcur] at hw
      cases runnable with
      | false =>
        obtain rfl := Option.some.inj hw
        exact h
      | true =>
        obtain rfl := Option.some.inj hw
        refine ⟨?_, h.past⟩
        intro d hd
        obtain rfl := Option.some.inj hd
        exact ⟨Delegate.make_inv joinable spawned, Delegate.make_client joinable spawned⟩
  | stop =>
    simp only [LocThread.step, Option.ite_none_left_eq_some] at hw
    exact h.call (.inl rfl) hw.2
  | destruct =>
    simp only [LocThread.step, Option.ite_none_left_eq_some, Option.map_eq_some_iff] at hw
    obtain ⟨-, u, hu, rfl⟩ := hw
    have hinv := h.call (.inr rfl) hu
    exact ⟨hinv.cur, hinv.past⟩
  | client =>
    simp only [LocThread.step, Option.map_eq_some_iff, Option.bind_eq_some_iff] at hw
    obtain ⟨d', ⟨d, hcur, hd⟩, rfl⟩ := hw
    have hinv := (h.cur d hcur).1.clientStep (hs d hcur) hd
    by_cases hgone : d'.client = .gone
    · rw [if_pos hgone]
      refine ⟨by simp, ?_⟩
      intro p hp
      rcases List.mem_append.mp hp with hp | hp
      · exact h.past p hp
      · rw [List.mem_singleton.mp hp]
        exact ⟨hinv, hgone⟩
    · rw [if_neg hgone]
      refine ⟨?_, h.past⟩
      intro p hp
      obtain rfl := Option.some.inj hp
      exact ⟨hinv, hgone⟩
  | thread more =>
    simp only [LocThread.step, Option.map_eq_some_iff, Option.bind_eq_some_iff] at hw
    obtain ⟨d', ⟨d, hcur, hd⟩, rfl⟩ := hw
    refine ⟨?_, h.past⟩
    intro p hp
    obtain rfl := Option.some.inj hp
    refine ⟨(h.cur d hcur).1.threadStep hd, ?_⟩
    rw [Delegate.threadStep_client hd]
    exact (h.cur d hcur).2
  | pastThread i more =>
    simp only [LocThread.step, Option.map_eq_some_iff, Option.bind_eq_some_iff] at hw
    obtain ⟨d', ⟨d, hi, hd⟩, rfl⟩ := hw
    have hmem := h.past d (List.mem_of_getElem? hi)
    refine ⟨h.cur, ?_⟩
    intro p hp
    rcases List.mem_or_eq_of_mem_set hp with hp | rfl
    · exact h.past p hp
    · refine ⟨hmem.1.threadStep hd, ?_⟩
      rw [Delegate.threadStep_client hd]
      exact hmem.2

/-- While a created thread's runnable is found by `create` and no stop comes before the thread has read
it, the runnable, the delegate and the thread are each released once, by the one they are due to. -/
theorem start_releases_once {es : List Event} {w : World} (hs : Runs.Along step Sound {} es)
    (hw : Runs.play step {} es = some w) : ∀ d ∈ w.delegates, d.Lifetime := by
  have hempty : World.Inv {} := ⟨by simp, by simp⟩
  exact (Runs.play_invariant (fun _ _ _ h hs hw => World.Inv.step h hs hw) hempty hs hw).lifetime

/-- The thread's `run` returns false before `create` looks at the delegate, and `start` returns false for a
runnable that the thread has deleted. -/
theorem ended_thread_taken_for_failed : ¬ ∀ (es : List Event) (w : World),
    Runs.play step {} es = some w → ∀ d ∈ w.delegates, d.Lifetime := by
  intro h
  have hw := h
    [.start true true true, .thread true, .thread true, .thread true, .thread false, .thread true, .thread true,
      .thread true, .client, .client] _ rfl _ (List.mem_singleton.mpr rfl)
  exact absurd (hw.kept rfl).1 (by decide)

theorem start_releases_once_joined : ∃ w : World, ∃ d ∈ w.delegates, d.Lifetime ∧
    (d.started, d.runnableDeletes, d.deletes, d.joins) = (some true, 1, 1, 1) :=
  ⟨⟨none, [⟨true, true, false, false, 0, .gone, .ended, false, some true, 1, 1, 1, false⟩], false⟩,
    _, List.mem_singleton.mpr rfl,
    @start_releases_once
      [.start true true true, .thread true, .client, .client, .thread true, .thread true, .thread true,
        .stop, .client, .client, .client, .client, .thread true, .thread true, .thread true, .thread true,
        .thread true, .thread true, .client, .client, .client, .client]
      _ (by decide) rfl _ (List.mem_singleton.mpr rfl),
    rfl⟩

end Wt88047.LocThread
