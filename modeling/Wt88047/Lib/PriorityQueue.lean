import Mathlib.Algebra.Order.Group.Multiset

/-! What a priority queue is, over any ranking: a multiset with pushes, pops of an element that
nothing outranks, and removals by identity. -/

namespace Wt88047.PriorityQueue

variable {α : Type}

inductive Op (α : Type)
  | push (x : α)
  | pop
  | remove (x : α)

/-- Reads "`a` ranks at least as high as `b`". -/
def AtLeast (outRanks : α → α → Bool) (a b : α) : Prop := outRanks b a = false

/-- `a` is in the queue, and nothing there outranks it. -/
def IsTop (outRanks : α → α → Bool) (s : Multiset α) (a : α) : Prop :=
  a ∈ s ∧ ∀ b ∈ s, AtLeast outRanks a b

inductive Step (outRanks : α → α → Bool) : Multiset α → Op α → Option α → Multiset α → Prop
  | push {s : Multiset α} {x : α} : Step outRanks s (.push x) none (x ::ₘ s)
  | popEmpty : Step outRanks 0 .pop none 0
  | pop {s t : Multiset α} {x : α} :
    s = x ::ₘ t → IsTop outRanks s x → Step outRanks s .pop (some x) t
  | remove {s t : Multiset α} {x : α} : s = x ::ₘ t → Step outRanks s (.remove x) (some x) t
  | removeMissing {s : Multiset α} {x : α} : x ∉ s → Step outRanks s (.remove x) none s

inductive Run (outRanks : α → α → Bool) : List (Op α) → List (Option α) → Multiset α → Prop
  | nil : Run outRanks [] [] 0
  | snoc {ops : List (Op α)} {answers : List (Option α)} {s t : Multiset α} {op : Op α}
      {answer : Option α} : Run outRanks ops answers s → Step outRanks s op answer t →
    Run outRanks (ops ++ [op]) (answers ++ [answer]) t

def pushed (ops : List (Op α)) : Multiset α :=
  Multiset.ofList (ops.filterMap fun
    | .push x => some x
    | _ => none)

def returned (answers : List (Option α)) : Multiset α := Multiset.ofList (answers.filterMap id)

variable {outRanks : α → α → Bool}

theorem Step.balance {s t : Multiset α} {op : Op α} {answer : Option α}
    (h : Step outRanks s op answer t) : t + returned [answer] = s + pushed [op] := by
  have hcons : ∀ (u : Multiset α) (x : α), u + {x} = x ::ₘ u := fun u x =>
    (add_comm u {x}).trans (Multiset.singleton_add x u)
  cases h with
  | push => simp [returned, pushed, hcons]
  | popEmpty => rfl
  | pop hs _ => simp [returned, pushed, hs, hcons]
  | remove hs => simp [returned, pushed, hs, hcons]
  | removeMissing _ => simp [returned, pushed]

theorem Run.balance {ops : List (Op α)} {answers : List (Option α)} {s : Multiset α}
    (h : Run outRanks ops answers s) : s + returned answers = pushed ops := by
  induction h with
  | nil => rfl
  | @snoc ops answers s t op answer _ hstep ih =>
    have hr : returned (answers ++ [answer]) = returned answers + returned [answer] := by
      simp only [returned, List.filterMap_append, ← Multiset.coe_add]
    have hp : pushed (ops ++ [op]) = pushed ops + pushed [op] := by
      simp only [pushed, List.filterMap_append, ← Multiset.coe_add]
    calc t + returned (answers ++ [answer])
        = t + returned [answer] + returned answers := by
          rw [hr, add_comm (returned answers), add_assoc]
      _ = s + returned answers + pushed [op] := by rw [hstep.balance, add_right_comm]
      _ = pushed (ops ++ [op]) := by rw [ih, hp]

end Wt88047.PriorityQueue
