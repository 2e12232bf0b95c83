import Wt88047.Lib.Runs

/-! What one thread does to locks that are not recursive: the locks it holds before and after a
sequence of operations. -/

namespace Locks

inductive Op (L : Type*)
  | lock (l : L)
  | unlock (l : L)
  | destroy (l : L)
  deriving DecidableEq

variable {L : Type*} [DecidableEq L]

/-- A thread that takes a lock it holds never goes on; giving back a lock that is not held and
destroying one that is are errors. -/
def step (held : List L) : Op L → Option (List L)
  | .lock l => if l ∈ held then none else some (l :: held)
  | .unlock l => if l ∈ held then some (held.erase l) else none
  | .destroy l => if l ∈ held then none else some held

/-- A thread that holds `held` may do `ops` and then holds `left`. -/
def Leads (held : List L) (ops : List (Op L)) (left : List L) : Prop :=
  Runs.play step held ops = some left

namespace Leads

variable {held mid left : List L} {ops more : List (Op L)}

theorem nil : Leads held [] held := rfl

theorem append (h : Leads held ops mid) (hm : Leads mid more left) :
    Leads held (ops ++ more) left := by
  induction ops generalizing held with
  | nil =>
    obtain rfl := Option.some.inj h
    exact hm
  | cons op ops ih =>
    obtain ⟨next, hn, hr⟩ := Runs.play_cons.mp h
    exact Runs.play_cons.mpr ⟨next, hn, ih hr⟩

theorem unique (h : Leads held ops left) {other : List L} (ho : Leads held ops other) :
    left = other :=
  Option.some.inj (h.symm.trans ho)

theorem lock {l : L} (hl : l ∉ held) (h : Leads (l :: held) ops left) :
    Leads held (.lock l :: ops) left :=
  Runs.play_cons.mpr ⟨l :: held, if_neg hl, h⟩

theorem unlock {l : L} (hl : l ∈ held) (h : Leads (held.erase l) ops left) :
    Leads held (.unlock l :: ops) left :=
  Runs.play_cons.mpr ⟨held.erase l, if_pos hl, h⟩

theorem destroy {l : L} (hl : l ∉ held) (h : Leads held ops left) :
    Leads held (.destroy l :: ops) left :=
  Runs.play_cons.mpr ⟨held, if_neg hl, h⟩

theorem bracket {l : L} (hl : l ∉ held) (h : Leads (l :: held) ops (l :: held)) :
    Leads held (.lock l :: (ops ++ [.unlock l])) held := by
  have hback : Leads (l :: held) [.unlock l] held := by
    apply unlock (List.mem_cons_self ..)
    rw [List.erase_cons_head]
    exact nil
  exact lock hl (h.append hback)

theorem handOver {k l : L} (hne : l ≠ k) : Leads [k] [.lock l, .unlock k] [l] := by
  apply lock (by simpa using hne)
  apply unlock (by simp)
  rw [List.erase_cons_tail (by simpa using hne), List.erase_cons_head]
  exact nil

theorem flatMap {α : Type*} {f : α → List (Op L)} {xs : List α}
    (h : ∀ x ∈ xs, Leads held (f x) held) : Leads held (xs.flatMap f) held := by
  induction xs with
  | nil => exact nil
  | cons x xs ih =>
    rw [List.flatMap_cons]
    exact (h x (List.mem_cons_self ..)).append (ih fun y hy => h y (List.mem_cons_of_mem x hy))

end Leads

end Locks
