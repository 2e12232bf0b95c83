import Mathlib.Data.List.Basic

/-! The longest part of a text whose encoding fits in the room that there is, where each symbol is encoded by
itself. -/

namespace FittingPrefix

variable {α β : Type*} (code : α → List β)

def encode (s : List α) : List β := s.flatMap code

def fitting : Nat → List α → List α
  | _, [] => []
  | room, a :: s => if (code a).length ≤ room then a :: fitting (room - (code a).length) s else []

variable {code}

@[simp] theorem encode_nil : encode code [] = [] := rfl

theorem encode_cons (a : α) (s : List α) : encode code (a :: s) = code a ++ encode code s := List.flatMap_cons

theorem fitting_nil (room : Nat) : fitting code room [] = [] := by
  cases room <;> rfl

theorem fitting_isPrefix (room : Nat) (s : List α) : fitting code room s <+: s := by
  induction s generalizing room with
  | nil => simp only [fitting_nil, List.nil_prefix]
  | cons a s ih =>
    rw [fitting]
    split
    · exact (List.prefix_cons_inj a).mpr (ih _)
    · exact List.nil_prefix

theorem length_encode_fitting (room : Nat) (s : List α) : (encode code (fitting code room s)).length ≤ room := by
  induction s generalizing room with
  | nil =>
    rw [fitting_nil]
    exact Nat.zero_le room
  | cons a s ih =>
    rw [fitting]
    split
    case isTrue ha =>
      have hrest := ih (room - (code a).length)
      rw [encode_cons, List.length_append]
      omega
    case isFalse => exact Nat.zero_le room

theorem fitting_longest {room : Nat} {p s : List α} (hp : p <+: s) (hroom : (encode code p).length ≤ room) :
    p <+: fitting code room s := by
  induction s generalizing room p with
  | nil =>
    rw [List.prefix_nil.mp hp]
    exact List.nil_prefix
  | cons a s ih =>
    cases p with
    | nil => exact List.nil_prefix
    | cons b p =>
      obtain ⟨rfl, hrest⟩ := List.cons_prefix_cons.mp hp
      rw [encode_cons, List.length_append] at hroom
      rw [fitting, if_pos (by omega)]
      exact (List.prefix_cons_inj b).mpr (ih hrest (by omega))

theorem fitting_eq_self {room : Nat} {s : List α} (h : (encode code s).length ≤ room) : fitting code room s = s :=
  (fitting_isPrefix room s).eq_of_length_le (fitting_longest List.prefix_rfl h).length_le

end FittingPrefix
