import Mathlib.Data.List.Induction

/-! Histories, which grow at their end: those whose every entry is allowed by the entries before it, and the temporal
operator "since". -/

namespace Trace

variable {α : Type*} {P Q : List α → α → Prop} {l k : List α} {a : α}

def Each (P : List α → α → Prop) (l : List α) : Prop :=
  ∀ pre a post, l = pre ++ a :: post → P pre a

theorem Each.nil : Each P [] := by
  intro pre a post h
  exact absurd h (by simp)

theorem Each.concat (h : Each P l) (ha : P l a) : Each P (l ++ [a]) := by
  intro pre b post heq
  rcases List.eq_nil_or_concat post with rfl | ⟨post, c, rfl⟩
  · obtain ⟨rfl, hb⟩ := List.append_inj' heq rfl
    obtain rfl := List.singleton_inj.mp hb
    exact ha
  · rw [List.concat_eq_append, ← List.cons_append, ← List.append_assoc] at heq
    exact h pre b post (List.append_inj' heq rfl).1

end Trace

section

variable {α : Type*}

/-- An entry of the history has `P`, given what came before it, and all later ones have `Q`. -/
def Since (P : List α → α → Prop) (Q : α → Prop) (l : List α) : Prop :=
  ∃ old a new, l = old ++ a :: new ∧ P old a ∧ ∀ b ∈ new, Q b

namespace Since

variable {P : List α → α → Prop} {Q : α → Prop}

@[simp] theorem nil : ¬ Since P Q [] := by
  rintro ⟨old, a, new, h, -⟩
  simp at h

theorem of_last {l : List α} {a : α} (h : P l a) : Since P Q (l ++ [a]) :=
  ⟨l, a, [], rfl, h, by simp⟩

theorem extend {l : List α} {b : α} (h : Since P Q l) (hb : Q b) : Since P Q (l ++ [b]) := by
  obtain ⟨old, a, new, rfl, ha, hnew⟩ := h
  refine ⟨old, a, new ++ [b], by simp, ha, ?_⟩
  intro c hc
  rcases List.mem_append.mp hc with hc | hc
  · exact hnew c hc
  · obtain rfl := List.mem_singleton.mp hc
    exact hb

theorem append_singleton {l : List α} {b : α} :
    Since P Q (l ++ [b]) ↔ P l b ∨ Since P Q l ∧ Q b := by
  constructor
  · rintro ⟨old, a, new, hl, ha, hnew⟩
    rcases List.eq_nil_or_concat new with rfl | ⟨new, c, rfl⟩
    · obtain ⟨rfl, hab⟩ := List.append_inj' hl rfl
      obtain rfl := List.singleton_inj.mp hab
      exact .inl ha
    · have hl' : l ++ [b] = (old ++ a :: new) ++ [c] := by simpa using hl
      obtain ⟨rfl, hbc⟩ := List.append_inj' hl' rfl
      obtain rfl := List.singleton_inj.mp hbc
      refine .inr ⟨⟨old, a, new, rfl, ha, fun d hd => hnew d ?_⟩, hnew b ?_⟩
      · simp [hd]
      · simp
  · rintro (h | ⟨h, hb⟩)
    · exact of_last h
    · exact h.extend hb

end Since

end
