import Mathlib.Algebra.Order.Ring.Nat
import Mathlib.Data.List.Pairwise

/-! Queues whose finished items stand in front, in the order they finished, followed by the
open items in strictly ascending order of their keys. -/

namespace ReadyQueue

variable {α κ : Type*} [LinearOrder κ] {done : α → Prop} {key : α → κ}

structure Split (done : α → Prop) (key : α → κ) (ms us : List α) : Prop where
  ready : ∀ a ∈ ms, done a
  waiting : ∀ a ∈ us, ¬ done a
  ascending : us.Pairwise fun a b => key a < key b

theorem Split.pop {m : α} {ms us : List α} (h : Split done key (m :: ms) us) :
    Split done key ms us :=
  ⟨fun a ha => h.ready a (List.mem_cons_of_mem _ ha), h.waiting, h.ascending⟩

theorem Split.erase {ms l r : List α} {a : α} (h : Split done key ms (l ++ a :: r)) :
    Split done key ms (l ++ r) := by
  refine ⟨h.ready, fun b hb => h.waiting b ?_, h.ascending.sublist ?_⟩
  · simp only [List.mem_append, List.mem_cons] at hb ⊢
    exact hb.imp id Or.inr
  · exact List.Sublist.append (List.Sublist.refl l) (List.sublist_cons_self a r)

theorem Split.drop_front {ms l r : List α} (h : Split done key ms (l ++ r)) :
    Split done key ms r :=
  ⟨h.ready, fun b hb => h.waiting b (List.mem_append_right l hb),
    h.ascending.sublist (List.sublist_append_right l r)⟩

theorem Split.finish_front {ms r : List α} {a b : α} (h : Split done key ms (a :: r))
    (hb : done b) : Split done key (ms ++ [b]) r := by
  refine ⟨fun c hc => ?_, fun c hc => h.waiting c (List.mem_cons_of_mem _ hc),
    (List.pairwise_cons.mp h.ascending).2⟩
  rcases List.mem_append.mp hc with hc | hc
  · exact h.ready c hc
  · rwa [List.mem_singleton.mp hc]

theorem Split.insert {ms l r : List α} {b : α} (h : Split done key ms (l ++ r))
    (hb : ¬ done b) (hl : ∀ a ∈ l, key a < key b) (hr : ∀ a ∈ r, key b < key a) :
    Split done key ms (l ++ b :: r) := by
  obtain ⟨hpl, hpr, hlr⟩ := List.pairwise_append.mp h.ascending
  refine ⟨h.ready, fun c hc => ?_, List.pairwise_append.mpr ⟨hpl, ?_, ?_⟩⟩
  · rcases List.mem_append.mp hc with hc | hc
    · exact h.waiting c (List.mem_append_left r hc)
    · rcases List.mem_cons.mp hc with rfl | hc
      · exact hb
      · exact h.waiting c (List.mem_append_right l hc)
  · exact List.pairwise_cons.mpr ⟨hr, hpr⟩
  · intro a ha c hc
    rcases List.mem_cons.mp hc with rfl | hc
    · exact hl a ha
    · exact hlr a ha c hc

theorem Split.rewrite {ms l r : List α} {a b : α} (h : Split done key ms (l ++ a :: r))
    (hb : ¬ done b) (hk : key b = key a) : Split done key ms (l ++ b :: r) := by
  obtain ⟨_, hpr, hlr⟩ := List.pairwise_append.mp h.ascending
  refine h.erase.insert hb (fun c hc => ?_) fun c hc => ?_
  · rw [hk]
    exact hlr c hc a (List.mem_cons_self ..)
  · rw [hk]
    exact (List.pairwise_cons.mp hpr).1 c hc

theorem ascending_cut {us : List α} (h : us.Pairwise fun a b => key a < key b) (k : κ) :
    ∃ l r, us = l ++ r ∧ (∀ a ∈ l, key a < k) ∧
      ((∀ a ∈ r, k < key a) ∨ ∃ a r', r = a :: r' ∧ key a = k) := by
  induction us with
  | nil => exact ⟨[], [], rfl, by simp, Or.inl (by simp)⟩
  | cons a us ih =>
    obtain ⟨ha, hus⟩ := List.pairwise_cons.mp h
    rcases lt_trichotomy (key a) k with hlt | heq | hgt
    · obtain ⟨l, r, rfl, hl, hr⟩ := ih hus
      refine ⟨a :: l, r, rfl, ?_, hr⟩
      simpa using ⟨hlt, hl⟩
    · exact ⟨[], a :: us, rfl, by simp, Or.inr ⟨a, us, rfl, heq⟩⟩
    · refine ⟨[], a :: us, rfl, by simp, Or.inl ?_⟩
      simpa using ⟨hgt, fun b hb => lt_trans hgt (ha b hb)⟩

end ReadyQueue
