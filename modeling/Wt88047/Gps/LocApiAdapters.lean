import Wt88047.Gps.LocApiBase
import Wt88047.Lib.Trace
import Mathlib.Data.List.Induction
import Mathlib.Data.List.Nodup

/-! The adapters that are registered after any calls: the array is a list without holes, to which an adapter is
appended, and from which one is taken by moving the last into its place. -/

namespace Wt88047.LocApiBase

variable {α : Type}

def ofList (l : List α) : Adapters α := fun i => l[i]?

variable {l : List α}

theorem ofList_ne_none {i : Nat} : ofList l i ≠ none ↔ i < l.length := by
  rw [ofList, ne_eq, List.getElem?_eq_none_iff, Nat.not_le]

theorem update_ofList_length (l : List α) (a : α) :
    Function.update (ofList l) l.length (some a) = ofList (l ++ [a]) := by
  funext i
  rw [Function.update_apply, ofList, ofList, List.getElem?_append]
  split
  case isTrue h => simp [h]
  case isFalse h =>
    split
    · rfl
    · rw [List.getElem?_eq_none (by omega), List.getElem?_eq_none (by simp; omega)]

theorem update_ofList_set {i : Nat} (hi : i < l.length) (a : α) :
    Function.update (ofList l) i (some a) = ofList (l.set i a) := by
  funext k
  rw [Function.update_apply, ofList, ofList, List.getElem?_set]
  by_cases h : k = i
  · rw [if_pos h, if_pos h.symm, if_pos (h ▸ hi)]
  · rw [if_neg h, if_neg (Ne.symm h)]

theorem update_ofList_last (l : List α) : Function.update (ofList l) (l.length - 1) none = ofList l.dropLast := by
  funext k
  rw [Function.update_apply, ofList, ofList, List.getElem?_dropLast]
  split
  case isTrue h => rw [if_neg (by omega)]
  case isFalse h =>
    split
    · rfl
    · exact List.getElem?_eq_none (by omega)

theorem endFrom_eq {adapters : Adapters α} (hl : l.length ≤ maxAdapters) {rounds i : Nat}
    (hsame : ∀ k, i ≤ k → adapters k = ofList l k) (hi : i ≤ l.length)
    (hrounds : l.length ≤ i + rounds) : endFrom adapters rounds i = l.length := by
  induction rounds generalizing i with
  | zero => exact Nat.le_antisymm hi hrounds
  | succ rounds ih =>
    rw [endFrom, hsame i (Nat.le_refl i)]
    by_cases hlt : i < l.length
    · rw [if_pos ⟨by omega, ofList_ne_none.mpr hlt⟩]
      exact ih (fun k hk => hsame k (by omega)) hlt (by omega)
    · rw [if_neg fun h => hlt (ofList_ne_none.mp h.2)]
      omega

def Registered (adapters : Adapters α) (adapter : α) : Prop := ∃ i < maxAdapters, adapters i = some adapter

def HasRoom (adapters : Adapters α) : Prop := ∃ i < maxAdapters, adapters i = none

variable {adapter : α}

theorem registered_ofList (hl : l.length ≤ maxAdapters) :
    Registered (ofList l) adapter ↔ adapter ∈ l := by
  rw [List.mem_iff_getElem?]
  refine exists_congr fun i => and_iff_right_of_imp fun h => ?_
  have hi := ofList_ne_none.mp fun hno => Option.some_ne_none _ (h.symm.trans hno)
  omega

theorem hasRoom_ofList (hl : l.length ≤ maxAdapters) :
    HasRoom (ofList l) ↔ l.length < maxAdapters := by
  constructor
  · rintro ⟨i, hi, hnone⟩
    have hle : l.length ≤ i := List.getElem?_eq_none_iff.mp hnone
    omega
  · intro h
    exact ⟨l.length, h, List.getElem?_eq_none (Nat.le_refl _)⟩

variable [DecidableEq α] {evtMask : α → UInt32} {excludedMask : UInt32}

theorem addFrom_eq (hl : l.length ≤ maxAdapters) {rounds i : Nat} (hi : i ≤ l.length)
    (hrounds : maxAdapters ≤ i + rounds) (hbefore : adapter ∉ l.take i) :
    addFrom evtMask adapter rounds i (ofList l) =
      if adapter ∈ l ∨ l.length = maxAdapters then (ofList l, [])
      else (ofList (l ++ [adapter]), [.locOpenMsg (evtMask adapter)]) := by
  induction rounds generalizing i with
  | zero => rw [addFrom, if_pos (Or.inr (by omega))]
  | succ rounds ih =>
    rw [addFrom]
    by_cases hlt : i < l.length
    · have hget : ofList l i = some l[i] := List.getElem?_eq_getElem hlt
      by_cases hsame : l[i] = adapter
      · rw [if_neg fun h => h.2 (hget.trans (congrArg some hsame)), if_pos (Or.inl (hsame ▸ List.getElem_mem hlt))]
      · rw [if_pos ⟨by omega, fun h => hsame (Option.some.inj (hget.symm.trans h))⟩, if_neg (by simp [hget])]
        refine ih hlt (by omega) ?_
        rw [← List.take_append_getElem hlt, List.mem_append, List.mem_singleton]
        exact fun h => h.elim hbefore fun h => hsame h.symm
    · obtain rfl : i = l.length := by omega
      have hnone : ofList l l.length = none := List.getElem?_eq_none (Nat.le_refl _)
      have hnot : adapter ∉ l := by rwa [List.take_length] at hbefore
      rw [hnone, if_pos rfl, update_ofList_length]
      by_cases hfull : l.length = maxAdapters
      · rw [if_neg fun h => absurd h.1 (by omega), if_pos (Or.inr hfull)]
      · rw [if_pos ⟨by omega, nofun⟩, if_neg fun h => h.elim hnot hfull]

theorem removeFrom_none {adapters : Adapters α} {rounds i : Nat}
    (h : ∀ k, i ≤ k → adapters k ≠ some adapter) :
    removeFrom evtMask excludedMask adapter rounds i adapters = (adapters, []) := by
  induction rounds generalizing i with
  | zero => rfl
  | succ rounds ih =>
    rw [removeFrom, if_neg (h i (Nat.le_refl i)), ih fun k hk => h k (by omega)]
    exact ite_self _

theorem removeFrom_skip (hl : l.length ≤ maxAdapters) {j : Nat} (hj : j < l.length)
    (hbefore : ∀ k, k < j → ofList l k ≠ some adapter) {rounds i : Nat} (hi : i ≤ j) :
    removeFrom evtMask excludedMask adapter (j - i + rounds) i (ofList l) =
      removeFrom evtMask excludedMask adapter rounds j (ofList l) := by
  induction hd : j - i generalizing i with
  | zero =>
    obtain rfl : i = j := by omega
    rw [Nat.zero_add]
  | succ d ih =>
    rw [Nat.add_right_comm, removeFrom, if_pos ⟨by omega, ofList_ne_none.mpr (by omega)⟩, if_neg (hbefore i (by omega))]
    exact ih (by omega) (by omega)

theorem removeFrom_at {l : List α} (hl : l.length ≤ maxAdapters) {j : Nat} (hj : j < l.length) {last : α}
    (hlast : ofList l (l.length - 1) = some last) {rounds : Nat} :
    removeFrom evtMask excludedMask l[j] (rounds + 1) j (ofList l) =
      (ofList (l.set j last).dropLast,
        [if l.length = 1 then .close
          else .locOpenMsg (getEvtMask evtMask excludedMask (ofList (l.set j last).dropLast))]) := by
  have hget : ofList l j = some l[j] := List.getElem?_eq_getElem hj
  have hend : endFrom (Function.update (ofList l) j none) maxAdapters (j + 1) = l.length :=
    endFrom_eq hl (fun k hk => Function.update_of_ne (by omega) _ _) hj (by omega)
  have hmoved : Function.update (Function.update (Function.update (ofList l) j none) j
      (Function.update (ofList l) j none (l.length - 1))) (l.length - 1) none = ofList (l.set j last).dropLast := by
    rw [Function.update_idem, ← update_ofList_last, List.length_set, ← update_ofList_set hj]
    by_cases hsame : l.length - 1 = j
    · rw [hsame, Function.update_idem, Function.update_idem]
    · rw [Function.update_of_ne hsame, hlast]
  have hnone : ∀ k, l.length - 1 + 1 ≤ k → ofList (l.set j last).dropLast k ≠ some l[j] := by
    intro k hk h
    have hlt := ofList_ne_none.mp fun hno => Option.some_ne_none _ (h.symm.trans hno)
    rw [List.length_dropLast, List.length_set] at hlt
    omega
  rw [removeFrom, if_pos ⟨by omega, ofList_ne_none.mpr hj⟩, if_pos hget]
  dsimp only
  rw [hend, hmoved, removeFrom_none hnone]
  refine congrArg (Prod.mk _) (congrArg (List.cons · []) (if_congr ?_ rfl rfl))
  omega

theorem perm_moveLast {before after : List α} {last : α} (hnot : adapter ∉ before)
    (hlast : (before ++ adapter :: after).getLast? = some last) :
    ((before ++ adapter :: after).set before.length last).dropLast.Perm
      ((before ++ adapter :: after).erase adapter) := by
  rw [List.set_append_right _ _ (Nat.le_refl _), Nat.sub_self, List.set_cons_zero, List.erase_append_right _ hnot,
    List.erase_cons_head]
  induction after using List.reverseRecOn with
  | nil => rw [List.append_nil, List.dropLast_concat]
  | append_singleton mid b _ =>
    rw [← List.cons_append, ← List.append_assoc, List.getLast?_concat] at hlast
    obtain rfl := Option.some.inj hlast
    rw [← List.cons_append, ← List.append_assoc, List.dropLast_concat]
    exact (List.perm_append_singleton b mid).symm.append_left before

theorem removeAdapter_mem {l : List α} (hl : l.length ≤ maxAdapters) (hnodup : l.Nodup) {adapter : α}
    (hmem : adapter ∈ l) :
    ∃ l', l'.Perm (l.erase adapter) ∧ removeAdapter evtMask excludedMask adapter (ofList l) =
      (ofList l', [if l.length = 1 then .close else .locOpenMsg (getEvtMask evtMask excludedMask (ofList l'))]) := by
  obtain ⟨before, after, rfl⟩ := List.append_of_mem hmem
  have hnot : adapter ∉ before := fun h => (List.nodup_append.mp hnodup).2.2 _ h _ (List.mem_cons_self) rfl
  have hj : before.length < (before ++ adapter :: after).length := by simp
  have hget : (before ++ adapter :: after)[before.length] = adapter := by simp
  obtain ⟨last, hlast⟩ : ∃ last, (before ++ adapter :: after).getLast? = some last :=
    ⟨_, List.getLast?_eq_some_getLast (by simp)⟩
  have hbefore : ∀ k, k < before.length → ofList (before ++ adapter :: after) k ≠ some adapter := by
    intro k hk h
    rw [ofList, List.getElem?_append_left hk] at h
    exact hnot (List.mem_of_getElem? h)
  obtain ⟨rounds, hrounds⟩ : ∃ rounds, maxAdapters = before.length - 0 + (rounds + 1) :=
    ⟨maxAdapters - before.length - 1, by omega⟩
  refine ⟨_, perm_moveLast hnot hlast, ?_⟩
  rw [removeAdapter]
  nth_rewrite 1 [hrounds]
  rw [removeFrom_skip hl hj hbefore (Nat.zero_le _)]
  have hat := @removeFrom_at _ _ evtMask excludedMask _ hl _ hj last
    (by rwa [List.getLast?_eq_getElem?] at hlast) rounds
  rwa [hget] at hat

def After (l : List α) : Call α → α → Prop
  | .addAdapter adapter, b => b ∈ l ∨ b = adapter ∧ l.length < maxAdapters
  | .removeAdapter adapter, b => b ∈ l ∧ b ≠ adapter

structure Stepped (l l' : List α) (call : Call α) (events : List Event) : Prop where
  length_le : l'.length ≤ maxAdapters
  nodup : l'.Nodup
  mem : ∀ b, b ∈ l' ↔ After l call b
  close : .close ∈ events ↔ ∃ adapter, call = .removeAdapter adapter ∧ l = [adapter]
  once : events.length ≤ 1

theorem step_addAdapter (hl : l.length ≤ maxAdapters) (hnodup : l.Nodup) (adapter : α) :
    ∃ l', (step evtMask excludedMask (ofList l) (.addAdapter adapter)).1 = ofList l' ∧
      Stepped l l' (.addAdapter adapter) (step evtMask excludedMask (ofList l) (.addAdapter adapter)).2 := by
  rw [step, addAdapter, addFrom_eq hl (Nat.zero_le _) (by omega) List.not_mem_nil]
  by_cases hkeep : adapter ∈ l ∨ l.length = maxAdapters
  · rw [if_pos hkeep]
    refine ⟨l, rfl, hl, hnodup, fun b => ?_, by simp, Nat.zero_le 1⟩
    refine (or_iff_left_of_imp ?_).symm
    rintro ⟨rfl, hroom⟩
    exact hkeep.resolve_right (Nat.ne_of_lt hroom)
  · rw [if_neg hkeep]
    obtain ⟨hnot, hroom⟩ := not_or.mp hkeep
    refine ⟨l ++ [adapter], rfl, ?_, ?_, fun b => ?_, by simp, Nat.le_refl 1⟩
    · rw [List.length_append, List.length_singleton]
      omega
    · exact hnodup.append (List.nodup_singleton _) (by simpa using hnot)
    · rw [List.mem_append, List.mem_singleton]
      exact or_congr_right (iff_self_and.mpr fun _ => Nat.lt_of_le_of_ne hl hroom)

theorem step_removeAdapter (hl : l.length ≤ maxAdapters) (hnodup : l.Nodup) (adapter : α) :
    ∃ l', (step evtMask excludedMask (ofList l) (.removeAdapter adapter)).1 = ofList l' ∧
      Stepped l l' (.removeAdapter adapter) (step evtMask excludedMask (ofList l) (.removeAdapter adapter)).2
    := by
  rw [step]
  by_cases hmem : adapter ∈ l
  · obtain ⟨l', hperm, heq⟩ := @removeAdapter_mem _ _ evtMask excludedMask l hl hnodup adapter hmem
    rw [heq]
    have hlength := hperm.length_eq
    rw [List.length_erase_of_mem hmem] at hlength
    refine ⟨l', rfl, by omega, hperm.nodup_iff.mpr (hnodup.erase adapter), fun b => ?_, ?_, Nat.le_refl 1⟩
    · rw [hperm.mem_iff, hnodup.mem_erase_iff]
      exact and_comm
    · rw [List.mem_singleton]
      constructor
      · intro hclose
        have hone : l.length = 1 := by
          by_contra hne
          rw [if_neg hne] at hclose
          cases hclose
        obtain ⟨a, rfl⟩ := List.length_eq_one_iff.mp hone
        rw [List.mem_singleton.mp hmem]
        exact ⟨a, rfl, rfl⟩
      · rintro ⟨other, -, rfl⟩
        rfl
  · have habsent : ∀ k, 0 ≤ k → ofList l k ≠ some adapter := fun k _ h => hmem (List.mem_of_getElem? h)
    rw [removeAdapter, removeFrom_none habsent]
    refine ⟨l, rfl, hl, hnodup, fun b => (and_iff_left_of_imp ?_).symm, ?_, Nat.zero_le 1⟩
    · rintro hb rfl
      exact hmem hb
    · refine iff_of_false List.not_mem_nil ?_
      rintro ⟨other, hcall, rfl⟩
      obtain rfl := Call.removeAdapter.inj hcall
      exact hmem (List.mem_singleton_self _)

theorem step_ofList {l : List α} (hl : l.length ≤ maxAdapters) (hnodup : l.Nodup) (call : Call α) :
    ∃ l', (step evtMask excludedMask (ofList l) call).1 = ofList l' ∧
      Stepped l l' call (step evtMask excludedMask (ofList l) call).2 := by
  cases call with
  | addAdapter adapter => exact step_addAdapter hl hnodup adapter
  | removeAdapter adapter => exact step_removeAdapter hl hnodup adapter

variable (calls : List (Call α))

theorem run_append_singleton (call : Call α) :
    run evtMask excludedMask (calls ++ [call]) =
      (step evtMask excludedMask (run evtMask excludedMask calls) call).1 := by
  rw [run, List.foldl_append]
  rfl

theorem run_ofList (calls : List (Call α)) :
    ∃ l, run evtMask excludedMask calls = ofList l ∧ l.length ≤ maxAdapters ∧ l.Nodup := by
  induction calls using List.reverseRecOn with
  | nil => exact ⟨[], rfl, Nat.zero_le _, List.nodup_nil⟩
  | append_singleton calls call ih =>
    obtain ⟨l, hrun, hl, hnodup⟩ := ih
    obtain ⟨l', hstep, hnext⟩ := step_ofList hl hnodup call
    rw [run_append_singleton, hrun]
    exact ⟨l', hstep, hnext.length_le, hnext.nodup⟩

structure Registration (evtMask : α → UInt32) (excludedMask : UInt32) (calls : List (Call α)) : Prop where
  /-- A prefix without gaps and duplicates, and NULLs. -/
  packed : ∃ l : List α, l.length ≤ maxAdapters ∧ l.Nodup ∧ ∀ i, run evtMask excludedMask calls i = l[i]?
  /-- An adapter is there if it was added, with room for it, and not removed since. -/
  registered : ∀ adapter, Registered (run evtMask excludedMask calls) adapter ↔
    Since (fun before call => call = .addAdapter adapter ∧
      (Registered (run evtMask excludedMask before) adapter ∨ HasRoom (run evtMask excludedMask before)))
      (· ≠ .removeAdapter adapter) calls
  others : ∀ adapter other, other ≠ adapter →
    (Registered (run evtMask excludedMask (calls ++ [.removeAdapter adapter])) other ↔
      Registered (run evtMask excludedMask calls) other)
  /-- A call closes the API, once, if it removes the last adapter. -/
  close : ∀ call, (step evtMask excludedMask (run evtMask excludedMask calls) call).2.length ≤ 1 ∧
    (.close ∈ (step evtMask excludedMask (run evtMask excludedMask calls) call).2 ↔
      ∃ adapter, call = .removeAdapter adapter ∧
        ∀ other, Registered (run evtMask excludedMask calls) other ↔ other = adapter)

theorem registered_step (call : Call α) (b : α) :
    Registered (run evtMask excludedMask (calls ++ [call])) b ↔
      match call with
      | .addAdapter adapter => Registered (run evtMask excludedMask calls) b ∨
          b = adapter ∧ HasRoom (run evtMask excludedMask calls)
      | .removeAdapter adapter => Registered (run evtMask excludedMask calls) b ∧ b ≠ adapter := by
  obtain ⟨l, hrun, hl, hnodup⟩ := @run_ofList _ _ evtMask excludedMask calls
  obtain ⟨l', hstep, hnext⟩ := @step_ofList _ _ evtMask excludedMask l hl hnodup call
  rw [run_append_singleton, hrun, hstep, registered_ofList hnext.length_le, hnext.mem]
  cases call with
  | addAdapter adapter => exact (or_congr (registered_ofList hl) (and_congr_right fun _ => hasRoom_ofList hl)).symm
  | removeAdapter adapter => exact (and_congr_left fun _ => registered_ofList hl).symm

theorem registered_since (adapter : α) :
    Registered (run evtMask excludedMask calls) adapter ↔
      Since (fun before call => call = .addAdapter adapter ∧
        (Registered (run evtMask excludedMask before) adapter ∨ HasRoom (run evtMask excludedMask before)))
        (· ≠ .removeAdapter adapter) calls := by
  induction calls using List.reverseRecOn with
  | nil =>
    refine iff_of_false ?_ Since.nil
    rintro ⟨i, -, hi⟩
    cases hi
  | append_singleton calls call ih =>
    rw [registered_step, Since.append_singleton, ← ih]
    cases call with
    | addAdapter a =>
      have hne : Call.addAdapter a ≠ .removeAdapter adapter := nofun
      rw [Call.addAdapter.injEq, and_iff_left hne, eq_comm]
      tauto
    | removeAdapter a =>
      have hne : Call.removeAdapter a ≠ .addAdapter adapter := nofun
      rw [or_iff_right fun h => hne h.1, ne_eq (Call.removeAdapter a), Call.removeAdapter.injEq]
      exact and_congr_right fun _ => ne_comm

/-- The calls so far keep the adapters registered as they should. -/
theorem adapters_registered (evtMask : α → UInt32) (excludedMask : UInt32) (calls : List (Call α)) :
    Registration evtMask excludedMask calls := by
  obtain ⟨l, hrun, hl, hnodup⟩ := @run_ofList _ _ evtMask excludedMask calls
  constructor
  · exact ⟨l, hl, hnodup, fun i => congrFun hrun i⟩
  · exact registered_since calls
  · intro adapter other hne
    rw [registered_step]
    exact and_iff_left hne
  · intro call
    obtain ⟨l', -, hnext⟩ := @step_ofList _ _ evtMask excludedMask l hl hnodup call
    rw [hrun]
    refine ⟨hnext.once, hnext.close.trans (exists_congr fun adapter => and_congr_right fun _ => ?_)⟩
    simp only [registered_ofList hl]
    constructor
    · rintro rfl other
      exact List.mem_singleton
    · intro hmem
      refine List.perm_singleton.mp ?_
      apply (List.perm_ext_iff_of_nodup hnodup (List.nodup_singleton adapter)).mpr
      intro other
      rw [hmem, List.mem_singleton]

end Wt88047.LocApiBase
