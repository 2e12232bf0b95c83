import Mathlib.Data.List.Nodup
import Mathlib.Data.List.Perm.Basic

/-! What an allocator has given out. A block is taken back once; to give one back that is not out is
recorded as wrong. -/

namespace Allocation

structure Heap (α : Type*) where
  live : List α := []
  wrong : List α := []

namespace Heap

variable {α : Type*} {h : Heap α} {l m : List α} {a : α}

def alloc (a : α) (h : Heap α) : Heap α := { h with live := h.live ++ [a] }

def free [DecidableEq α] (a : α) (h : Heap α) : Heap α :=
  if a ∈ h.live then { h with live := h.live.erase a } else { h with wrong := a :: h.wrong }

def freeAll [DecidableEq α] (l : List α) (h : Heap α) : Heap α := l.foldl (fun h a => h.free a) h

/-- The blocks that are out are those of the list, each once, and none was given back wrongly. -/
structure Exactly (h : Heap α) (l : List α) : Prop where
  live : h.live.Perm l
  nodup : l.Nodup
  wrong : h.wrong = []

theorem exactly_nil : Exactly ({} : Heap α) [] := ⟨.refl _, .nil, rfl⟩

namespace Exactly

theorem mem (he : Exactly h l) : a ∈ h.live ↔ a ∈ l := he.live.mem_iff

theorem alloc (he : Exactly h l) (ha : a ∉ l) : Exactly (h.alloc a) (l ++ [a]) where
  live := he.live.append_right [a]
  nodup := by
    rw [List.nodup_append]
    refine ⟨he.nodup, List.nodup_singleton a, fun b hb c hc => ?_⟩
    rw [List.mem_singleton.mp hc]
    rintro rfl
    exact ha hb
  wrong := he.wrong

theorem free [DecidableEq α] (he : Exactly h (a :: l)) : Exactly (h.free a) l := by
  have hmem : a ∈ h.live := he.mem.mpr (List.mem_cons_self ..)
  unfold Heap.free
  rw [if_pos hmem]
  exact ⟨by simpa using he.live.erase a, (List.nodup_cons.mp he.nodup).2, he.wrong⟩

theorem congr (he : Exactly h l) (hp : l.Perm m) : Exactly h m :=
  ⟨he.live.trans hp, hp.nodup_iff.mp he.nodup, he.wrong⟩

theorem freeAll [DecidableEq α] (he : Exactly h l) : Exactly (h.freeAll l) [] := by
  induction l generalizing h with
  | nil => exact he
  | cons a l ih => exact ih he.free

end Exactly

end Heap

end Allocation
