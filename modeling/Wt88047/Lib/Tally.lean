import Mathlib.Data.List.Basic

/-! Counts over a duplicate-free list when one member changes: how many meet a test, and how often
something stands in the lists that belong to them. -/

namespace Tally

variable {α : Type*} {p q : α → Bool} {l : List α} {a : α}

theorem countP_congr_mem (h : ∀ b ∈ l, p b = q b) : l.countP p = l.countP q :=
  List.countP_congr fun b hb => by rw [h b hb]

theorem countP_flip (hl : l.Nodup) (ha : a ∈ l) (hp : p a = false) (hq : q a = true)
    (h : ∀ b, b ≠ a → p b = q b) : l.countP q = l.countP p + 1 := by
  induction l with
  | nil => cases ha
  | cons b l ih =>
    obtain ⟨hb, hl⟩ := List.nodup_cons.mp hl
    by_cases hba : b = a
    · subst hba
      have hrest : l.countP p = l.countP q :=
        countP_congr_mem fun c hc => h c (by rintro rfl; exact hb hc)
      rw [List.countP_cons_of_pos hq, List.countP_cons_of_neg (by simp [hp]), hrest]
    · have hal : a ∈ l := (List.mem_cons.mp ha).resolve_left fun he => hba he.symm
      rw [List.countP_cons, List.countP_cons, ih hl hal, h b hba]
      omega

theorem countP_exchange (hl : l.Nodup) (ha : a ∈ l) (h : ∀ b, b ≠ a → p b = q b) :
    l.countP q + (if p a then 1 else 0) = l.countP p + if q a then 1 else 0 := by
  have hsame : p a = q a → l.countP q = l.countP p := fun heq =>
    countP_congr_mem fun b _ => (em (b = a)).elim (fun hb => hb ▸ heq.symm) fun hb => (h b hb).symm
  cases hp : p a <;> cases hq : q a
  · rw [hsame (hp.trans hq.symm)]
  · simpa using countP_flip hl ha hp hq h
  · simpa using (countP_flip hl ha hq hp fun b hb => (h b hb).symm).symm
  · rw [hsame (hp.trans hq.symm)]

theorem count_flatMap_exchange {β : Type*} [DecidableEq β] {f g : α → List β} (hl : l.Nodup) (ha : a ∈ l)
    (h : ∀ c ∈ l, c ≠ a → g c = f c) (b : β) :
    (l.flatMap g).count b + (f a).count b = (l.flatMap f).count b + (g a).count b := by
  induction l with
  | nil => cases ha
  | cons c l ih =>
    obtain ⟨hc, hl⟩ := List.nodup_cons.mp hl
    simp only [List.flatMap_cons, List.count_append]
    by_cases hca : c = a
    · subst hca
      have hrest : l.flatMap g = l.flatMap f := by
        rw [List.flatMap_congr fun d hd => h d (List.mem_cons_of_mem _ hd) fun hdc => hc (hdc ▸ hd)]
      rw [hrest]
      omega
    · have hal : a ∈ l := (List.mem_cons.mp ha).resolve_left fun he => hca he.symm
      have hih := ih hl hal fun d hd => h d (List.mem_cons_of_mem _ hd)
      rw [h c (List.mem_cons_self ..) hca]
      omega

end Tally
