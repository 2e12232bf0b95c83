import Mathlib.Data.List.Basic

/-! Lists searched from the front, in which the first match of a key is replaced, or a new entry
put at the end. -/

namespace Upsert

variable {α : Type*} {p q : α → Bool} {f : α → α} {new : α} {l : List α}

def upsert (p : α → Bool) (f : α → α) (new : α) : List α → List α
  | [] => [new]
  | a :: l => if p a then f a :: l else a :: upsert p f new l

theorem find_same (hf : ∀ a, p a → p (f a)) (hnew : p new) :
    (upsert p f new l).find? p = some (((l.find? p).map f).getD new) := by
  induction l with
  | nil => simp [upsert, hnew]
  | cons a l ih =>
    rw [upsert]
    by_cases ha : p a = true
    · rw [if_pos ha, List.find?_cons_of_pos (hf a ha), List.find?_cons_of_pos ha]
      rfl
    · rw [if_neg ha, List.find?_cons_of_neg ha, List.find?_cons_of_neg ha, ih]

theorem find_other (hpq : ∀ a, p a → ¬q a) (hf : ∀ a, p a → ¬q (f a)) (hnew : ¬q new) :
    (upsert p f new l).find? q = l.find? q := by
  induction l with
  | nil => simp [upsert, hnew]
  | cons a l ih =>
    rw [upsert]
    by_cases ha : p a = true
    · rw [if_pos ha, List.find?_cons_of_neg (hf a ha), List.find?_cons_of_neg (hpq a ha)]
    · rw [if_neg ha, List.find?_cons, List.find?_cons, ih]

theorem upsert_split {pre post : List α} {a : α} (hpre : ∀ x ∈ pre, ¬p x) (ha : p a) :
    upsert p f new (pre ++ a :: post) = pre ++ f a :: post := by
  induction pre with
  | nil => exact if_pos ha
  | cons x pre ih =>
    have hx := hpre x (List.mem_cons_self ..)
    have hrest := ih fun y hy => hpre y (List.mem_cons_of_mem _ hy)
    rw [List.cons_append, upsert, if_neg hx, hrest]
    rfl

theorem upsert_new (h : ∀ x ∈ l, ¬p x) : upsert p f new l = l ++ [new] := by
  induction l with
  | nil => rfl
  | cons x l ih =>
    have hx := h x (List.mem_cons_self ..)
    have hrest := ih fun y hy => h y (List.mem_cons_of_mem _ hy)
    rw [upsert, if_neg hx, hrest]
    rfl

theorem split_or_none (p : α → Bool) (l : List α) :
    (∃ pre a post, l = pre ++ a :: post ∧ (∀ x ∈ pre, ¬p x) ∧ p a) ∨ ∀ x ∈ l, ¬p x := by
  induction l with
  | nil => exact .inr fun x hx => absurd hx List.not_mem_nil
  | cons x l ih =>
    by_cases hx : p x = true
    · exact .inl ⟨[], x, l, rfl, fun y hy => absurd hy List.not_mem_nil, hx⟩
    rcases ih with ⟨pre, a, post, rfl, hpre, ha⟩ | hnone
    · refine .inl ⟨x :: pre, a, post, rfl, fun y hy => ?_, ha⟩
      rcases List.mem_cons.mp hy with rfl | hy
      · exact hx
      · exact hpre y hy
    · refine .inr fun y hy => ?_
      rcases List.mem_cons.mp hy with rfl | hy
      · exact hx
      · exact hnone y hy

end Upsert
