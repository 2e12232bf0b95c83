import Wt88047.Sensors.Activation
import Mathlib.Order.Bounds.Basic
import Mathlib.Algebra.Order.Ring.Int

/-! The delay that a hardware sensor's driver runs at, against those that its listeners have asked
for. -/

namespace Wt88047.Sensors

def leastSet (d : Nat → Int) (l : List Nat) (a : Int) : Int :=
  l.foldl (fun least x => if d x = 0 then least else if d x < least then d x else least) a

theorem leastSet_spec (d : Nat → Int) (l : List Nat) (a : Int) : leastSet d l a ≤ a ∧
    (∀ x ∈ l, d x ≠ 0 → leastSet d l a ≤ d x) ∧
    (leastSet d l a = a ∨ ∃ x ∈ l, d x ≠ 0 ∧ leastSet d l a = d x) := by
  induction l generalizing a with
  | nil => exact ⟨le_refl a, by simp, Or.inl rfl⟩
  | cons y l ih =>
    obtain ⟨b, hb⟩ : ∃ b, b = if d y = 0 then a else if d y < a then d y else a := ⟨_, rfl⟩
    have hcons : leastSet d (y :: l) a = leastSet d l b := by rw [hb]; rfl
    obtain ⟨hle, hmem, hcases⟩ := ih b
    have hba : b ≤ a := by
      rw [hb]
      split_ifs <;> omega
    rw [hcons]
    refine ⟨by omega, fun x hx hset => ?_, ?_⟩
    · rcases List.mem_cons.mp hx with rfl | hx
      · have hbx : b ≤ d x := by
          rw [hb, if_neg hset]
          split_ifs <;> omega
        omega
      · exact hmem x hx hset
    · rcases hcases with heq | ⟨x, hx, hset, heq⟩
      · rw [heq, hb]
        split_ifs with h0 hlt
        · exact Or.inl rfl
        · exact Or.inr ⟨y, List.mem_cons_self .., h0, rfl⟩
        · exact Or.inl rfl
      · exact Or.inr ⟨x, List.mem_cons_of_mem _ hx, hset, heq⟩

theorem leastSet_isLeast_iff (d : Nat → Int) (first : Nat) (rest : List Nat) :
    (leastSet d (first :: rest) (d first) ≠ 0 ∧
      IsLeast {n | ∃ x ∈ first :: rest, d x ≠ 0 ∧ n = d x}
        (leastSet d (first :: rest) (d first))) ↔
      d first ≠ 0 ∨ ∃ x ∈ first :: rest, d x < 0 := by
  obtain ⟨hle, hmem, hcases⟩ := leastSet_spec d (first :: rest) (d first)
  have hlower : leastSet d (first :: rest) (d first) ∈
      lowerBounds {n | ∃ x ∈ first :: rest, d x ≠ 0 ∧ n = d x} := by
    rintro n ⟨x, hx, hset, rfl⟩
    exact hmem x hx hset
  constructor
  · rintro ⟨hne, -⟩
    by_cases h0 : d first = 0
    · rcases hcases with heq | ⟨x, hx, hset, heq⟩
      · exact absurd (heq.trans h0) hne
      · exact Or.inr ⟨x, hx, by omega⟩
    · exact Or.inl h0
  · intro hset
    have hin : ∃ x ∈ first :: rest, d x ≠ 0 ∧ leastSet d (first :: rest) (d first) = d x := by
      rcases hcases with heq | hin
      · rcases hset with h0 | ⟨x, hx, hneg⟩
        · exact ⟨first, List.mem_cons_self .., h0, heq⟩
        · have hlt := hmem x hx (by omega)
          exact ⟨first, List.mem_cons_self .., by omega, heq⟩
      · exact hin
    obtain ⟨x, hx, hne, heq⟩ := hin
    exact ⟨by omega, ⟨x, hx, hne, heq⟩, hlower⟩

namespace NativeSensorManager

open Requests (setEnabled)

variable {sensors : SensorList} {m : NativeSensorManager} {x hw i : Nat} {enable : Int}

def syncedNs (m : NativeSensorManager) (hw : Nat) : Option Int :=
  match (m.context hw).listener with
  | [] => none
  | first :: rest =>
    some (leastSet (fun x => (m.context x).delayNs) (first :: rest) (m.context first).delayNs)

theorem syncDelay_setDelay : ((m.syncDelay hw).driver i).setDelay =
    if i = hw ∧ (m.context hw).listener ≠ [] then m.syncedNs hw else (m.driver i).setDelay := by
  unfold syncDelay syncedNs
  split
  · next hl => simp [hl]
  · next first rest hl =>
    by_cases hi : i = hw
    · subst hi
      simp [tell, hl, leastSet]
    · simp [tell, hi]

theorem syncedNs_congr {n : NativeSensorManager}
    (hl : (n.context hw).listener = (m.context hw).listener)
    (hd : ∀ x ∈ (m.context hw).listener, (n.context x).delayNs = (m.context x).delayNs) :
    n.syncedNs hw = m.syncedNs hw := by
  have hfold : ∀ l : List Nat, (∀ x ∈ l, (n.context x).delayNs = (m.context x).delayNs) →
      ∀ a, leastSet (fun x => (n.context x).delayNs) l a =
        leastSet (fun x => (m.context x).delayNs) l a := by
    intro l hall
    induction l with
    | nil => exact fun _ => rfl
    | cons y l ih =>
      intro a
      simp only [leastSet, List.foldl_cons, hall y (List.mem_cons_self ..)]
      exact ih (fun x hx => hall x (List.mem_cons_of_mem y hx)) _
  unfold syncedNs
  rw [hl]
  split
  · rfl
  · next first rest hlist =>
    rw [hlist] at hd
    rw [hfold _ hd, hd first (List.mem_cons_self ..)]

def SyncedAt (i : Nat) (m : NativeSensorManager) : Prop :=
  (m.context i).listener ≠ [] → (m.driver i).setDelay = m.syncedNs i

theorem SyncedAt.congr {n : NativeSensorManager} (h : m.SyncedAt i)
    (hdriver : (n.driver i).setDelay = (m.driver i).setDelay)
    (hl : (n.context i).listener = (m.context i).listener)
    (hd : ∀ x ∈ (m.context i).listener, (n.context x).delayNs = (m.context x).delayNs) :
    n.SyncedAt i := by
  intro hne
  rw [hl] at hne
  rw [hdriver, syncedNs_congr hl hd]
  exact h hne

theorem syncDelay_syncedAt : (m.syncDelay hw).SyncedAt hw := by
  intro hne
  rw [syncDelay_context] at hne
  rw [syncDelay_setDelay, if_pos ⟨rfl, hne⟩]
  exact (syncedNs_congr (by rw [syncDelay_context]) fun _ _ => by rw [syncDelay_context]).symm

theorem SyncedAt.syncDelay (h : m.SyncedAt i) : (m.syncDelay hw).SyncedAt i := by
  by_cases hi : i = hw
  · subst hi
    exact syncDelay_syncedAt
  · exact h.congr (by rw [syncDelay_setDelay, if_neg (fun hc => hi hc.1)])
      (by rw [syncDelay_context]) fun _ _ => by rw [syncDelay_context]

theorem SyncedAt.syncLatency (h : m.SyncedAt i) : (m.syncLatency sensors hw).SyncedAt i :=
  h.congr syncLatency_driver.2 (by rw [syncLatency_context]) fun _ _ => by rw [syncLatency_context]

theorem SyncedAt.driverEnable (h : m.SyncedAt i) : (m.driverEnable hw enable).SyncedAt i := by
  refine h.congr ?_ rfl fun _ _ => rfl
  rw [driverEnable_driver]
  split_ifs with hi
  · rw [hi]
  · rfl

theorem SyncedAt.activateOn (h : m.SyncedAt i) :
    (m.activateOn sensors x enable hw).SyncedAt i := by
  have hset : i ≠ hw →
      (m.setListener hw (setEnabled x enable (m.context hw).listener)).SyncedAt i := by
    intro hi
    have hcontext : ∀ y, ((m.setListener hw (setEnabled x enable
        (m.context hw).listener)).context y).delayNs = (m.context y).delayNs := by
      intro y
      by_cases hy : y = hw
      · subst hy
        simp [setListener, update]
      · simp [setListener, update, hy]
    exact h.congr rfl (by simp [setListener, update, hi]) fun y _ => hcontext y
  rw [activateOn_eq]
  by_cases hi : i = hw
  · subst hi
    split_ifs
    · exact syncDelay_syncedAt
    · exact syncDelay_syncedAt.syncLatency.driverEnable
    · exact syncDelay_syncedAt.syncLatency
  · split_ifs
    · exact (hset hi).syncLatency.driverEnable.syncDelay
    · exact (hset hi).syncDelay.syncLatency.driverEnable
    · exact (hset hi).syncDelay.syncLatency

theorem syncAll_syncedAt {deps : List Nat} {g : NativeSensorManager → Nat → NativeSensorManager}
    (hkeep : ∀ m hw i, m.SyncedAt i → (g m hw).SyncedAt i) (hsync : ∀ m hw, (g m hw).SyncedAt hw)
    (h : m.SyncedAt i ∨ i ∈ deps) : (deps.foldl g m).SyncedAt i := by
  induction deps generalizing m with
  | nil => exact h.resolve_right (by simp)
  | cons hw deps ih =>
    apply ih
    rcases h with h | h
    · exact Or.inl (hkeep m hw i h)
    · rcases List.mem_cons.mp h with rfl | h
      · exact Or.inl (hsync m i)
      · exact Or.inr h

end NativeSensorManager

namespace SensorInfo

def raised (info : SensorInfo) (ns : Int) : Int := max ns (info.minDelay.toInt * 1000)

def wanted (info : SensorInfo) (ns : Int) : Int := if ns = 0 then 0 else info.raised ns

end SensorInfo

def Requests.FirstSet (sensors : SensorList) (r : Requests) : Prop :=
  ∀ i first rest, r.enabled.filter (fun x => i ∈ (sensors.info x).depList) = first :: rest →
    (∃ x ∈ first :: rest, r.delay x ≠ 0) →
      r.delay first ≠ 0 ∨ ∃ x ∈ first :: rest, (sensors.info x).wanted (r.delay x) < 0

namespace ManagerRun

variable {sensors : SensorList} {s u : ManagerRun}

/-- A valid request is stored as it should be: `setDelay` has the product in 32 bits right, or it
does not matter, and `batch` needs no raising. -/
def Clamped (sensors : SensorList) (_s : ManagerRun) (e : ManagerCall) : Prop :=
  ∀ r ∈ Requests.delayOf sensors e,
    let info := sensors.info r.1
    match e with
    | .activate .. => True
    | .setDelay _ ns =>
      (NativeSensorManager.minDelayNs info.minDelay = info.minDelay.toInt * 1000 ∨
        (NativeSensorManager.minDelayNs info.minDelay ≤ ns ∧ info.minDelay.toInt * 1000 ≤ ns)) ∧
      info.raised ns ≠ 0
    | .batch _ sampleNs _ => sampleNs = 0 ∨ info.minDelay.toInt * 1000 ≤ sampleNs

/-- The call leaves a first listener without a delay before no other one that has one. -/
def KeepsFirstSet (sensors : SensorList) (s : ManagerRun) (e : ManagerCall) : Prop :=
  (s.asked.record sensors e).FirstSet sensors

def Programmed (sensors : SensorList) (s : ManagerRun) : Prop :=
  ∀ i, (∃ x ∈ (s.manager.context i).listener, s.asked.delay x ≠ 0) →
    ∃ ns, (s.manager.driver i).setDelay = some ns ∧ ns ≠ 0 ∧
      IsLeast {d | ∃ x ∈ (s.manager.context i).listener, s.asked.delay x ≠ 0 ∧
        d = (sensors.info x).raised (s.asked.delay x)} ns

structure Synced (sensors : SensorList) (s : ManagerRun) : Prop where
  registered : s.Registered sensors
  synced : ∀ i, s.manager.SyncedAt i
  stored : ∀ x, (s.manager.context x).delayNs = (sensors.info x).wanted (s.asked.delay x)
  raised : ∀ x, s.asked.delay x ≠ 0 → (sensors.info x).wanted (s.asked.delay x) ≠ 0

theorem init_synced (sensors : SensorList) : init.Synced sensors where
  registered := init_registered sensors
  synced i hne := absurd rfl hne
  stored x := by simp [init, NativeSensorManager.init, Requests.init, SensorInfo.wanted]
  raised x hx := absurd rfl hx

theorem Synced.activate (h : s.Synced sensors) (handle enable : Int) :
    (ManagerRun.mk (s.manager.activate sensors handle enable).2
      (s.asked.record sensors (.activate handle enable))).Synced sensors := by
  have hr := h.registered.activate handle enable
  have hdelay : (s.asked.record sensors (.activate handle enable)).delay = s.asked.delay := by
    simp only [Requests.record]
    split <;> rfl
  have hkeep : (∀ i, ((s.manager.activate sensors handle enable).2).SyncedAt i) ∧
      ∀ x, ((s.manager.activate sensors handle enable).2.context x).delayNs =
        (s.manager.context x).delayNs := by
    simp only [NativeSensorManager.activate]
    cases hx : sensors.getInfoByHandle handle with
    | none => exact ⟨h.synced, fun _ => rfl⟩
    | some x =>
      let m := s.manager.update x fun c => { c with enable := enable }
      have hm : ∀ y, (m.context y).delayNs = (s.manager.context y).delayNs ∧
          (m.context y).listener = (s.manager.context y).listener := by
        intro y
        by_cases hy : y = x
        · subst hy
          simp [m, NativeSensorManager.update]
        · simp [m, NativeSensorManager.update, hy]
      have hsync : ∀ i, m.SyncedAt i := fun i =>
        (h.synced i).congr rfl (hm i).2 fun y _ => (hm y).1
      have hall : ∀ deps : List Nat, ∀ n : NativeSensorManager, (∀ i, n.SyncedAt i) →
          (∀ i, (deps.foldl (fun m hw => m.activateOn sensors x enable hw) n).SyncedAt i) ∧
          ∀ y, ((deps.foldl (fun m hw => m.activateOn sensors x enable hw) n).context y).delayNs =
            (n.context y).delayNs := by
        intro deps
        induction deps with
        | nil => exact fun n hn => ⟨hn, fun _ => rfl⟩
        | cons hw deps ih =>
          intro n hn
          obtain ⟨hs, hd⟩ := ih (n.activateOn sensors x enable hw) fun i => (hn i).activateOn
          refine ⟨hs, fun y => (hd y).trans ?_⟩
          rw [NativeSensorManager.activateOn_context]
          split_ifs with hy
          · rw [hy]
          · rfl
      dsimp only
      split_ifs
      · exact ⟨fun i => (hsync i).driverEnable, fun y => (hm y).1⟩
      · obtain ⟨hs, hd⟩ := hall (sensors.info x).depList m hsync
        exact ⟨fun i => (hs i).driverEnable, fun y => (hd y).trans (hm y).1⟩
      · obtain ⟨hs, hd⟩ := hall (sensors.info x).depList m hsync
        exact ⟨hs, fun y => (hd y).trans (hm y).1⟩
  refine ⟨hr, hkeep.1, fun x => ?_, fun x => ?_⟩
  · rw [hkeep.2, h.stored, hdelay]
  · rw [hdelay]
    exact h.raised x

variable {e : ManagerCall}

theorem clamped_stored (hc : Clamped sensors s e) {x : Nat} {ns : Int}
    (hx : Requests.delayOf sensors e = some (x, ns)) :
    storedNs sensors x e = (sensors.info x).wanted ns ∧
      (ns ≠ 0 → (sensors.info x).wanted ns ≠ 0) := by
  have hclamp := hc _ hx
  cases e with
  | activate handle enable => cases hx
  | setDelay handle n =>
    obtain ⟨y, -, hy⟩ := Option.bind_eq_some_iff.mp hx
    split_ifs at hy with h0
    obtain ⟨rfl, rfl⟩ := Prod.mk.inj (Option.some.inj hy)
    have hne : n ≠ 0 := fun hz => h0 (Or.inl hz)
    simp only [SensorInfo.wanted, SensorInfo.raised, storedNs, if_neg hne] at hclamp ⊢
    refine ⟨?_, fun _ => hclamp.2⟩
    obtain ⟨heq | ⟨hw, hp⟩, -⟩ := hclamp
    · rw [heq]
      split_ifs with hlt
      · rw [max_eq_right (by omega)]
      · rw [max_eq_left (by omega)]
    · rw [if_neg (by omega), max_eq_left hp]
  | batch handle sampleNs latencyNs =>
    have hy : sampleNs = ns := by
      simp only [Requests.delayOf] at hx
      split_ifs at hx
      obtain ⟨y, -, hy⟩ := Option.bind_eq_some_iff.mp hx
      split_ifs at hy
      exact (Prod.mk.inj (Option.some.inj hy)).2
    subst hy
    simp only [SensorInfo.wanted, SensorInfo.raised, storedNs] at hclamp ⊢
    rcases hclamp with rfl | hle
    · simp
    · rw [max_eq_left hle]
      split_ifs with h0
      · exact ⟨h0, fun hne => absurd h0 hne⟩
      · exact ⟨rfl, fun hne => hne⟩

theorem record_none {r : Requests} (he : ∀ handle enable, e ≠ .activate handle enable)
    (h : Requests.delayOf sensors e = none) : r.record sensors e = r := by
  cases e with
  | activate handle enable => exact absurd rfl (he handle enable)
  | setDelay handle ns => simp only [Requests.record, h]
  | batch handle sampleNs latencyNs => simp only [Requests.record, h]

theorem record_some {r : Requests} {x : Nat} {ns : Int}
    (he : ∀ handle enable, e ≠ .activate handle enable)
    (h : Requests.delayOf sensors e = some (x, ns)) :
    (r.record sensors e).delay = Function.update r.delay x ns := by
  cases e with
  | activate handle enable => exact absurd rfl (he handle enable)
  | setDelay handle n => simp only [Requests.record, h]
  | batch handle sampleNs latencyNs => simp only [Requests.record, h]

theorem Synced.call (h : s.Synced sensors) (he : ∀ handle enable, e ≠ .activate handle enable)
    (hc : Clamped sensors s e) :
    (ManagerRun.mk (s.manager.call sensors e).2 (s.asked.record sensors e)).Synced sensors := by
  have hr := h.registered.keeps (@call_keeps sensors s e he)
  rcases call_cases s.manager he with ⟨hnone, hm⟩ | ⟨x, ns, f, g, hsome, hm, hf, hg⟩
  · have hasked : s.asked.record sensors e = s.asked := record_none he hnone
    rw [hasked, hm]
    exact h
  · obtain ⟨hstored, hraised⟩ := clamped_stored hc hsome
    have hasked : (s.asked.record sensors e).delay = Function.update s.asked.delay x ns :=
      record_some he hsome
    have hcontext := NativeSensorManager.syncAll_keeps (m := s.manager.update x f)
      (sensors.info x).depList (·.context) g fun m hw => by
        rcases hg m hw with h | h <;> simp [h]
    have hupdate : ∀ y, ((s.manager.update x f).context y) =
        if y = x then f (s.manager.context x) else s.manager.context y := by
      intro y
      by_cases hy : y = x
      · subst hy
        simp [NativeSensorManager.update]
      · simp [NativeSensorManager.update, hy]
    refine ⟨hr, fun i => ?_, fun y => ?_, fun y => ?_⟩
    · show NativeSensorManager.SyncedAt i (s.manager.call sensors e).2
      rw [hm]
      apply NativeSensorManager.syncAll_syncedAt
      · intro m hw i hi
        rcases hg m hw with h | h <;> rw [h]
        · exact hi.syncDelay
        · exact hi.syncDelay.syncLatency
      · intro m hw
        rcases hg m hw with h | h <;> rw [h]
        · exact NativeSensorManager.syncDelay_syncedAt
        · exact NativeSensorManager.syncDelay_syncedAt.syncLatency
      · -- Where `x` does not listen, its delay does not count.
        by_cases hi : i ∈ (sensors.info x).depList
        · exact Or.inr hi
        · have hnot : x ∉ (s.manager.context i).listener := by
            rw [h.registered.listener]
            simp [hi]
          refine Or.inl ((h.synced i).congr rfl ?_ fun y hy => ?_)
          · rw [hupdate]
            split_ifs with hix
            · rw [(hf _).1, hix]
            · rfl
          · rw [hupdate, if_neg]
            rintro rfl
            exact hnot hy
    · show ((s.manager.call sensors e).2.context y).delayNs = _
      rw [hm, hcontext, hupdate, hasked]
      by_cases hy : y = x
      · subst hy
        rw [if_pos rfl, (hf _).2.2, hstored, Function.update_self]
      · rw [if_neg hy, h.stored, Function.update_of_ne hy]
    · rw [hasked]
      by_cases hy : y = x
      · subst hy
        rw [Function.update_self]
        exact hraised
      · rw [Function.update_of_ne hy]
        exact h.raised y

theorem step_synced (h : s.Synced sensors) (hc : Clamped sensors s e)
    (hu : s.step sensors e = some u) : u.Synced sensors := by
  obtain rfl := Option.some.inj hu
  cases e with
  | activate handle enable => exact h.activate handle enable
  | setDelay handle ns => exact h.call (by simp) hc
  | batch handle sampleNs latencyNs => exact h.call (by simp) hc

theorem programmed_iff (h : s.Synced sensors) :
    s.Programmed sensors ↔ s.asked.FirstSet sensors := by
  have hset : ∀ x, (s.manager.context x).delayNs ≠ 0 ↔ s.asked.delay x ≠ 0 := by
    intro x
    rw [h.stored]
    constructor
    · intro hw h0
      exact hw (by simp [SensorInfo.wanted, h0])
    · exact h.raised x
  have hvalue : ∀ x, s.asked.delay x ≠ 0 →
      (s.manager.context x).delayNs = (sensors.info x).raised (s.asked.delay x) := by
    intro x hx
    rw [h.stored, SensorInfo.wanted, if_neg hx]
  have hleast : ∀ l : List Nat, {d | ∃ x ∈ l, s.asked.delay x ≠ 0 ∧
      d = (sensors.info x).raised (s.asked.delay x)} =
      {n | ∃ x ∈ l, (s.manager.context x).delayNs ≠ 0 ∧ n = (s.manager.context x).delayNs} := by
    intro l
    ext d
    constructor
    · rintro ⟨x, hx, hne, rfl⟩
      exact ⟨x, hx, (hset x).mpr hne, (hvalue x hne).symm⟩
    · rintro ⟨x, hx, hne, rfl⟩
      exact ⟨x, hx, (hset x).mp hne, hvalue x ((hset x).mp hne)⟩
  have hprogrammed : ∀ i first rest, (s.manager.context i).listener = first :: rest →
      (s.manager.driver i).setDelay = some (leastSet (fun x => (s.manager.context x).delayNs)
        (first :: rest) (s.manager.context first).delayNs) := by
    intro i first rest hl
    rw [h.synced i (by rw [hl]; simp), NativeSensorManager.syncedNs, hl]
  constructor
  · intro hp i first rest hl hsome
    rw [← h.registered.listener] at hl
    obtain ⟨ns, hns, hne, hns'⟩ := hp i (by rwa [hl])
    rw [hprogrammed i first rest hl] at hns
    obtain rfl := Option.some.inj hns
    rw [hl, hleast] at hns'
    have hiff := (leastSet_isLeast_iff _ first rest).mp ⟨hne, hns'⟩
    simpa only [← h.stored, ← hset] using hiff
  · intro hf i hsome
    cases hl : (s.manager.context i).listener with
    | nil =>
      rw [hl] at hsome
      obtain ⟨x, hx, -⟩ := hsome
      cases hx
    | cons first rest =>
      rw [hl] at hsome
      have hfirst := hf i first rest (by rw [← h.registered.listener, hl]) hsome
      simp only [← h.stored, ← hset] at hfirst
      obtain ⟨hne, hmin⟩ := (leastSet_isLeast_iff (fun x => (s.manager.context x).delayNs)
        first rest).mpr hfirst
      exact ⟨_, hprogrammed i first rest hl, hne, by rw [hleast]; exact hmin⟩

theorem delay_programmed (sensors : SensorList) (es : List ManagerCall) (s : ManagerRun)
    (h : Runs.play (step sensors) init es = some s)
    (hc : Runs.Along (step sensors) (Clamped sensors) init es) :
    Runs.Along (step sensors) (KeepsFirstSet sensors) init es ↔
      ∀ pre post, es = pre ++ post → ∀ u, Runs.play (step sensors) init pre = some u →
        u.Programmed sensors := by
  refine Runs.along_iff_prefixes (R := Clamped sensors)
    (I := fun s => s.Synced sensors ∧ s.asked.FirstSet sensors) ?_ ?_ ?_ ?_ hc h
  · intro s e u hs hclamp hp hu
    refine ⟨step_synced hs.1 hclamp hu, ?_⟩
    obtain rfl := Option.some.inj hu
    exact hp
  · exact fun s hs => (programmed_iff hs.1).mpr hs.2
  · intro s e u hs hclamp hu hq
    have hu' := step_synced hs.1 hclamp hu
    obtain rfl := Option.some.inj hu
    exact (programmed_iff hu').mp hq
  · refine ⟨init_synced sensors, ?_⟩
    intro i first rest hl
    cases hl

theorem delay_programmed_shared : ∃ s, Runs.play (step twoAndVirtual) init
    [.batch 3 20000000 0, .activate 3 1, .setDelay 1 5000000, .activate 1 1] = some s ∧
    (Runs.Along (step twoAndVirtual) (KeepsFirstSet twoAndVirtual) init
      [.batch 3 20000000 0, .activate 3 1, .setDelay 1 5000000, .activate 1 1] ↔
      ∀ pre post, [.batch 3 20000000 0, .activate 3 1, .setDelay 1 5000000, .activate 1 1] =
        pre ++ post → ∀ u, Runs.play (step twoAndVirtual) init pre = some u →
          u.Programmed twoAndVirtual) :=
  ⟨_, rfl, delay_programmed twoAndVirtual
    [.batch 3 20000000 0, .activate 3 1, .setDelay 1 5000000, .activate 1 1] _ rfl (by
      refine ⟨?_, fun t ht => ⟨?_, fun t ht => ⟨?_, fun t ht => ⟨?_, fun t ht => trivial⟩⟩⟩⟩ <;>
        (intro r hr; cases hr) <;> decide)⟩

/-- The virtual sensor has no delay yet, and is the first listener of the accelerometer. -/
theorem first_listener_unset : ¬ ∀ (sensors : SensorList) (es : List ManagerCall) (s : ManagerRun),
    Runs.play (step sensors) init es = some s → s.Programmed sensors := by
  intro h
  obtain ⟨ns, hns, hne, -⟩ := h twoAndVirtual
    [.activate 3 1, .batch 1 20000000 0, .activate 1 1] _ rfl 0 ⟨0, by decide, by decide⟩
  have h0 : some (0 : Int) = some ns := hns
  exact hne (Option.some.inj h0).symm

end ManagerRun

end Wt88047.Sensors
