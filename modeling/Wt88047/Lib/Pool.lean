import Mathlib.Data.List.Nodup
import Mathlib.Data.List.Pairwise
import Mathlib.Data.List.Perm.Basic

/-! A roster of items lent out from a free list. The items that are out are matched with the loans
they serve, as lists up to their order, so that each stands for exactly one of the other. -/

namespace Pool

variable {α β : Type*} [DecidableEq α]

def out (roster free : List α) : List α := roster.filter (· ∉ free)

variable {roster free : List α} {a : α} {f g : α → β} {loans : List β}

@[simp] theorem mem_out : a ∈ out roster free ↔ a ∈ roster ∧ a ∉ free := by simp [out]

theorem out_nodup (hr : roster.Nodup) : (out roster free).Nodup := hr.filter _

theorem out_except (hr : roster.Nodup) (ha : a ∈ roster) (hfree : a ∉ free) (free' : List α)
    (h : ∀ b, b ∈ free' ↔ b = a ∨ b ∈ free) : (out roster free).Perm (a :: out roster free') := by
  have hnot : a ∉ out roster free' := fun hmem => (mem_out.mp hmem).2 ((h a).mpr (.inl rfl))
  refine (List.perm_ext_iff_of_nodup (out_nodup hr) (List.nodup_cons.mpr ⟨hnot, out_nodup hr⟩)).mpr ?_
  intro b
  rw [List.mem_cons, mem_out, mem_out, h]
  by_cases hb : b = a
  · subst hb
    exact iff_of_true ⟨ha, hfree⟩ (.inl rfl)
  · simp [hb]

def Matched (roster free : List α) (f : α → β) (loans : List β) : Prop :=
  ((out roster free).map f).Perm loans

namespace Matched

theorem congr (hm : Matched roster free f loans) (h : ∀ b ∈ out roster free, g b = f b) :
    Matched roster free g loans := by
  unfold Matched
  rw [List.map_congr_left h]
  exact hm

theorem take (hm : Matched roster (a :: free) f loans) (hr : roster.Nodup) (ha : a ∈ roster)
    (hfree : a ∉ free) (h : ∀ b ∈ out roster (a :: free), g b = f b) :
    Matched roster free g (loans ++ [g a]) := by
  have hout := (out_except hr ha hfree _ fun b => List.mem_cons).map g
  rw [List.map_cons, List.map_congr_left h] at hout
  exact hout.trans ((hm.cons (g a)).trans (List.perm_append_singleton (g a) loans).symm)

theorem give (hm : Matched roster free f loans) (hr : roster.Nodup) (ha : a ∈ out roster free)
    {rest : List β} (hl : loans.Perm (f a :: rest)) : Matched roster (free ++ [a]) f rest := by
  obtain ⟨hroster, hfree⟩ := mem_out.mp ha
  have hout := (out_except hr hroster hfree (free ++ [a]) fun b => by
    rw [List.mem_append, List.mem_singleton, or_comm]).map f
  exact List.Perm.cons_inv (hout.symm.trans (hm.trans hl))

theorem mem_loans (hm : Matched roster free f loans) (ha : a ∈ out roster free) : f a ∈ loans :=
  hm.subset (List.mem_map_of_mem ha)

theorem existsUnique (hm : Matched roster free f loans) (hl : loans.Nodup) {b : β} (hb : b ∈ loans) :
    ∃! a, a ∈ out roster free ∧ f a = b := by
  obtain ⟨a, ha, hab⟩ := List.mem_map.mp (hm.symm.subset hb)
  have hinj := List.inj_on_of_nodup_map (hm.nodup_iff.mpr hl)
  exact ⟨a, ⟨ha, hab⟩, fun c hc => hinj hc.1 ha (hc.2.trans hab.symm)⟩

theorem eq_nil (hm : Matched roster free f loans) (h : loans = []) : ∀ a ∈ roster, a ∈ free := by
  subst h
  intro a ha
  by_contra hfree
  cases hm.mem_loans (mem_out.mpr ⟨ha, hfree⟩)

end Matched

def Stocked (roster free : List α) (h : α → List β) (left all : List β) : Prop :=
  (left ++ (out roster free).flatMap h).Perm all

namespace Stocked

variable {h h' : α → List β} {left all : List β}

theorem congr (hm : Stocked roster free h left all) (he : ∀ b ∈ out roster free, h' b = h b) :
    Stocked roster free h' left all := by
  unfold Stocked
  rw [List.flatMap_congr he]
  exact hm

theorem take (hm : Stocked roster (a :: free) h (h' a ++ left) all) (hr : roster.Nodup)
    (ha : a ∈ roster) (hfree : a ∉ free) (he : ∀ b ∈ out roster (a :: free), h' b = h b) :
    Stocked roster free h' left all := by
  have hout := (out_except hr ha hfree _ fun b => List.mem_cons).flatMap_right h'
  rw [List.flatMap_cons, List.flatMap_congr he] at hout
  refine ((hout.append_left left).trans ?_).trans hm
  rw [← List.append_assoc]
  exact List.perm_append_comm.append_right _

theorem give (hm : Stocked roster free h left all) (hr : roster.Nodup) (ha : a ∈ out roster free) :
    Stocked roster (free ++ [a]) h (left ++ h a) all := by
  obtain ⟨hroster, hfree⟩ := mem_out.mp ha
  have hout := (out_except hr hroster hfree (free ++ [a]) fun b => by
    rw [List.mem_append, List.mem_singleton, or_comm]).flatMap_right h
  rw [List.flatMap_cons] at hout
  have hleft := hout.append_left left
  rw [← List.append_assoc] at hleft
  exact hleft.symm.trans hm

/-- A member of the stock is left, or one item that is out holds it, but not both. -/
theorem left_or_held (hm : Stocked roster free h left all) (hall : all.Nodup) {b : β}
    (hb : b ∈ all) : b ∈ left ∧ (∀ a ∈ out roster free, b ∉ h a) ∨
      b ∉ left ∧ ∃! a, a ∈ out roster free ∧ b ∈ h a := by
  obtain ⟨-, hheld, hdis⟩ := List.nodup_append.mp (hm.nodup_iff.mpr hall)
  rcases List.mem_append.mp (hm.symm.subset hb) with hl | hh
  · exact .inl ⟨hl, fun a ha hba => hdis b hl b (List.mem_flatMap.mpr ⟨a, ha, hba⟩) rfl⟩
  · obtain ⟨a, ha, hba⟩ := List.mem_flatMap.mp hh
    refine .inr ⟨fun hl => hdis b hl b hh rfl, a, ⟨ha, hba⟩, fun c hc => ?_⟩
    by_contra hca
    have hsymm : Std.Symm (Function.onFun List.Disjoint h) :=
      ⟨fun x y hxy z hz hz' => hxy hz' hz⟩
    exact (List.nodup_flatMap.mp hheld).2.forall hc.1 ha hca hc.2 hba

end Stocked

theorem perm_cons_eraseP {p : β → Bool} {l : List β} {b : β} (hb : b ∈ l) (hp : p b = true)
    (h : ∀ c ∈ l, p c = true → c = b) : l.Perm (b :: l.eraseP p) := by
  obtain ⟨c, l₁, l₂, -, hc, rfl, herase⟩ := List.exists_of_eraseP hb hp
  obtain rfl : c = b := h c (by simp) hc
  rw [herase]
  exact List.perm_middle

theorem perm_cons_eraseP_of_find? {p : β → Bool} {l : List β} {b : β} (h : l.find? p = some b) :
    l.Perm (b :: l.eraseP p) := by
  induction l with
  | nil => cases h
  | cons c l ih =>
    cases hc : p c with
    | true =>
      rw [List.find?_cons_of_pos hc] at h
      obtain rfl := Option.some.inj h
      rw [List.eraseP_cons_of_pos hc]
    | false =>
      rw [List.find?_cons_of_neg (by simp [hc])] at h
      rw [List.eraseP_cons_of_neg (by simp [hc])]
      exact ((ih h).cons c).trans (List.Perm.swap b c _)

end Pool
