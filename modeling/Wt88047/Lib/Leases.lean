import Mathlib.Data.List.Nodup
import Mathlib.Logic.Function.Basic

/-! Slots that name resources on lease. Whoever gives a resource back may leave its name in the slot. -/

namespace Leases

variable {κ : Type*}

/-- The resources are numbered as they are obtained; `released` lists those given back, the last one
first, as often as that happened. -/
structure Books (κ : Type*) where
  slot : κ → Option Nat := fun _ => none
  next : Nat := 0
  released : List Nat := []

namespace Books

def Live (b : Books κ) (k : κ) : Prop := ∃ id, b.slot k = some id ∧ id ∉ b.released

variable [DecidableEq κ]

def obtain (k : κ) (b : Books κ) : Books κ :=
  { b with slot := Function.update b.slot k (some b.next), next := b.next + 1 }

def drop (k : κ) (b : Books κ) : Books κ := { b with slot := Function.update b.slot k none }

def giveBack (clear : Bool) (k : κ) (b : Books κ) : Books κ :=
  { b with
    slot := if clear then Function.update b.slot k none else b.slot
    released := (b.slot k).toList ++ b.released }

def obtainAll (l : List κ) (b : Books κ) : Books κ := l.foldl (fun b k => b.obtain k) b

def giveBackAll (clear : Bool) (l : List κ) (b : Books κ) : Books κ :=
  l.foldl (fun b k => b.giveBack clear k) b

theorem obtainAll_cons (k : κ) (l : List κ) (b : Books κ) :
    obtainAll (k :: l) b = obtainAll l (b.obtain k) := rfl

@[simp] theorem giveBackAll_nil (clear : Bool) (b : Books κ) : giveBackAll clear [] b = b := rfl

theorem giveBackAll_cons (clear : Bool) (k : κ) (l : List κ) (b : Books κ) :
    giveBackAll clear (k :: l) b = giveBackAll clear l (b.giveBack clear k) := rfl

theorem obtain_slot_self (k : κ) (b : Books κ) : (b.obtain k).slot k = some b.next :=
  Function.update_self ..

theorem obtain_slot_of_ne {j k : κ} (h : j ≠ k) (b : Books κ) : (b.obtain k).slot j = b.slot j :=
  Function.update_of_ne h ..

theorem giveBack_slot_of_ne {j k : κ} (h : j ≠ k) (clear : Bool) (b : Books κ) :
    (b.giveBack clear k).slot j = b.slot j := by
  cases clear
  · rfl
  · exact Function.update_of_ne h ..

theorem giveBack_slot {clear : Bool} {j k : κ} {id : Nat} {b : Books κ}
    (h : (b.giveBack clear k).slot j = some id) : b.slot j = some id := by
  cases clear
  · exact h
  · by_cases hjk : j = k
    · rw [hjk] at h
      change Function.update b.slot k none k = some id at h
      rw [Function.update_self] at h
      cases h
    · rwa [giveBack_slot_of_ne hjk] at h

theorem giveBack_released {k : κ} {id : Nat} {b : Books κ} (h : b.slot k = some id) (clear : Bool) :
    (b.giveBack clear k).released = id :: b.released := by
  change (b.slot k).toList ++ b.released = id :: b.released
  rw [h]
  rfl

theorem obtainAll_slot_of_not_mem {j : κ} {l : List κ} (h : j ∉ l) (b : Books κ) :
    (b.obtainAll l).slot j = b.slot j := by
  induction l generalizing b with
  | nil => rfl
  | cons k l ih =>
    obtain ⟨hjk, hl⟩ := not_or.mp (mt List.mem_cons.mpr h)
    rw [obtainAll_cons, ih hl, obtain_slot_of_ne hjk]

theorem giveBackAll_slot_of_not_mem {j : κ} {l : List κ} (h : j ∉ l) (clear : Bool) (b : Books κ) :
    (b.giveBackAll clear l).slot j = b.slot j := by
  induction l generalizing b with
  | nil => rfl
  | cons k l ih =>
    obtain ⟨hjk, hl⟩ := not_or.mp (mt List.mem_cons.mpr h)
    rw [giveBackAll_cons, ih hl, giveBack_slot_of_ne hjk]

theorem giveBackAll_slot_none {j : κ} (l : List κ) (clear : Bool) {b : Books κ} (h : b.slot j = none) :
    (b.giveBackAll clear l).slot j = none := by
  induction l generalizing b with
  | nil => exact h
  | cons k l ih =>
    apply ih
    by_contra hne
    obtain ⟨id, hid⟩ := Option.ne_none_iff_exists'.mp hne
    rw [giveBack_slot hid] at h
    cases h

theorem giveBackAll_slot_of_mem {j : κ} {l : List κ} (h : j ∈ l) (b : Books κ) :
    (b.giveBackAll true l).slot j = none := by
  induction l generalizing b with
  | nil => cases h
  | cons k l ih =>
    rw [giveBackAll_cons]
    rcases List.mem_cons.mp h with rfl | hl
    · exact giveBackAll_slot_none l true (Function.update_self ..)
    · exact ih hl _

end Books

open Books

/-- The slots of `P` each name a resource of their own that is out; nothing else is out, and nothing
was given back twice. -/
structure Balanced (P : κ → Prop) (b : Books κ) : Prop where
  live : ∀ k, P k → b.Live k
  dead : ∀ k, ¬P k → ∀ id, b.slot k = some id → id ∈ b.released
  distinct : ∀ j k id, P j → P k → b.slot j = some id → b.slot k = some id → j = k
  known : ∀ k id, b.slot k = some id → id < b.next
  known_released : ∀ id ∈ b.released, id < b.next
  once : b.released.Nodup
  held : ∀ id < b.next, id ∉ b.released → ∃ k, b.slot k = some id

theorem balanced_init : Balanced (fun _ : κ => False) {} where
  live _ h := h.elim
  dead _ _ _ h := by cases h
  distinct _ _ _ h := h.elim
  known _ _ h := by cases h
  known_released _ h := absurd h List.not_mem_nil
  once := List.nodup_nil
  held _ h := absurd h (Nat.not_lt_zero _)

namespace Balanced

variable {P Q : κ → Prop} {b : Books κ} {k : κ} {l : List κ}

theorem congr (h : Balanced P b) (hpq : ∀ k, P k ↔ Q k) : Balanced Q b := by
  have heq : P = Q := funext fun k => propext (hpq k)
  rwa [← heq]

theorem live_iff (h : Balanced P b) : b.Live k ↔ P k := by
  constructor
  · rintro ⟨id, hid, hout⟩
    by_contra hk
    exact hout (h.dead k hk id hid)
  · exact h.live k

/-- When no slot is in use, everything was given back exactly once. -/
theorem count_released (h : Balanced P b) (hnone : ∀ k, ¬P k) :
    ∀ id < b.next, b.released.count id = 1 := by
  intro id hid
  apply List.count_eq_one_of_mem h.once
  by_contra hout
  obtain ⟨k, hk⟩ := h.held id hid hout
  exact hout (h.dead k (hnone k) id hk)

variable [DecidableEq κ]

theorem obtain (h : Balanced P b) (hk : ¬P k) : Balanced (fun j => P j ∨ j = k) (b.obtain k) := by
  have hnew : b.next ∉ b.released := fun hmem => Nat.lt_irrefl _ (h.known_released _ hmem)
  have hne : ∀ j, P j → j ≠ k := by
    rintro j hj rfl
    exact hk hj
  refine ⟨?_, ?_, ?_, ?_, ?_, h.once, ?_⟩
  · rintro j (hj | rfl)
    · obtain ⟨id, hid, hout⟩ := h.live j hj
      exact ⟨id, (obtain_slot_of_ne (hne j hj) b).trans hid, hout⟩
    · exact ⟨b.next, obtain_slot_self j b, hnew⟩
  · intro j hj id hid
    rw [obtain_slot_of_ne (fun he => hj (Or.inr he))] at hid
    exact h.dead j (fun hpj => hj (Or.inl hpj)) id hid
  · -- the new number is larger than every other one
    rintro i j id (hi | rfl) (hj | rfl) hid hjd
    · rw [obtain_slot_of_ne (hne i hi)] at hid
      rw [obtain_slot_of_ne (hne j hj)] at hjd
      exact h.distinct i j id hi hj hid hjd
    · rw [obtain_slot_of_ne (hne i hi)] at hid
      rw [obtain_slot_self] at hjd
      have hlt := h.known i id hid
      have heq := Option.some.inj hjd
      omega
    · rw [obtain_slot_self] at hid
      rw [obtain_slot_of_ne (hne j hj)] at hjd
      have hlt := h.known j id hjd
      have heq := Option.some.inj hid
      omega
    · rfl
  · intro j id hid
    change id < b.next + 1
    by_cases hjk : j = k
    · rw [hjk, obtain_slot_self] at hid
      have heq := Option.some.inj hid
      omega
    · rw [obtain_slot_of_ne hjk] at hid
      have hlt := h.known j id hid
      omega
  · intro id hid
    exact Nat.lt_succ_of_lt (h.known_released id hid)
  · intro id hid hout
    rcases Nat.lt_succ_iff_lt_or_eq.mp hid with hlt | rfl
    · obtain ⟨j, hj⟩ := h.held id hlt hout
      have hjk : j ≠ k := by
        rintro rfl
        exact hout (h.dead j hk id hj)
      exact ⟨j, (obtain_slot_of_ne hjk b).trans hj⟩
    · exact ⟨k, obtain_slot_self k b⟩

theorem drop (h : Balanced P b) (hk : ¬P k) : Balanced P (b.drop k) := by
  have hne : ∀ {j}, P j → j ≠ k := by
    rintro j hj rfl
    exact hk hj
  have hslot : ∀ {j id}, (b.drop k).slot j = some id → b.slot j = some id := by
    intro j id hid
    change Function.update b.slot k none j = some id at hid
    by_cases hjk : j = k
    · rw [hjk, Function.update_self] at hid
      cases hid
    · rwa [Function.update_of_ne hjk] at hid
  refine ⟨?_, ?_, ?_, ?_, h.known_released, h.once, ?_⟩
  · intro j hj
    obtain ⟨id, hid, hout⟩ := h.live j hj
    exact ⟨id, (Function.update_of_ne (hne hj) ..).trans hid, hout⟩
  · intro j hj id hid
    exact h.dead j hj id (hslot hid)
  · intro i j id hi hj hid hjd
    exact h.distinct i j id hi hj (hslot hid) (hslot hjd)
  · intro j id hid
    exact h.known j id (hslot hid)
  · intro id hid hout
    obtain ⟨j, hj⟩ := h.held id hid hout
    have hjk : j ≠ k := by
      rintro rfl
      exact hout (h.dead j hk id hj)
    exact ⟨j, (Function.update_of_ne hjk ..).trans hj⟩

theorem giveBack (h : Balanced P b) (hk : P k) (clear : Bool) :
    Balanced (fun j => P j ∧ j ≠ k) (b.giveBack clear k) := by
  obtain ⟨id, hid, hout⟩ := h.live k hk
  have hrel := giveBack_released hid clear
  refine ⟨?_, ?_, ?_, ?_, ?_, ?_, ?_⟩
  · rintro j ⟨hj, hjk⟩
    obtain ⟨jd, hjd, hjout⟩ := h.live j hj
    refine ⟨jd, (giveBack_slot_of_ne hjk clear b).trans hjd, ?_⟩
    rw [hrel, List.mem_cons, not_or]
    refine ⟨?_, hjout⟩
    rintro rfl
    exact hjk (h.distinct j k jd hj hk hjd hid)
  · intro j hj jd hjd
    have hslot := giveBack_slot hjd
    rw [hrel, List.mem_cons]
    by_cases hjk : j = k
    · rw [hjk, hid] at hslot
      exact Or.inl (Option.some.inj hslot).symm
    · exact Or.inr (h.dead j (fun hpj => hj ⟨hpj, hjk⟩) jd hslot)
  · rintro i j jd ⟨hi, -⟩ ⟨hj, -⟩ hid' hjd'
    exact h.distinct i j jd hi hj (giveBack_slot hid') (giveBack_slot hjd')
  · intro j jd hjd
    exact h.known j jd (giveBack_slot hjd)
  · intro jd hjd
    rw [hrel] at hjd
    rcases List.mem_cons.mp hjd with rfl | hjd
    · exact h.known k jd hid
    · exact h.known_released jd hjd
  · rw [hrel]
    exact List.nodup_cons.mpr ⟨hout, h.once⟩
  · intro jd hjd hjout
    rw [hrel, List.mem_cons, not_or] at hjout
    obtain ⟨j, hj⟩ := h.held jd hjd hjout.2
    have hjk : j ≠ k := by
      rintro rfl
      exact hjout.1 (Option.some.inj (hj.symm.trans hid))
    exact ⟨j, (giveBack_slot_of_ne hjk clear b).trans hj⟩

theorem obtainAll (h : Balanced P b) (hl : l.Nodup) (hfree : ∀ k ∈ l, ¬P k) :
    Balanced (fun j => P j ∨ j ∈ l) (b.obtainAll l) := by
  induction l generalizing P b with
  | nil => exact h.congr fun j => by simp
  | cons k l ih =>
    obtain ⟨hkl, hl⟩ := List.nodup_cons.mp hl
    rw [obtainAll_cons]
    refine (ih (h.obtain (hfree k (List.mem_cons_self ..))) hl ?_).congr fun j => ?_
    · rintro j hj (hpj | rfl)
      · exact hfree j (List.mem_cons_of_mem _ hj) hpj
      · exact hkl hj
    · rw [List.mem_cons, or_assoc]

theorem giveBackAll (h : Balanced P b) (hl : l.Nodup) (hlive : ∀ k ∈ l, P k) (clear : Bool) :
    Balanced (fun j => P j ∧ j ∉ l) (b.giveBackAll clear l) := by
  induction l generalizing P b with
  | nil => exact h.congr fun j => by simp
  | cons k l ih =>
    obtain ⟨hkl, hl⟩ := List.nodup_cons.mp hl
    rw [giveBackAll_cons]
    refine (ih (h.giveBack (hlive k (List.mem_cons_self ..)) clear) hl ?_).congr fun j => ?_
    · intro j hj
      refine ⟨hlive j (List.mem_cons_of_mem _ hj), ?_⟩
      rintro rfl
      exact hkl hj
    · rw [List.mem_cons, not_or, and_assoc]

end Balanced

end Leases
