import Mathlib.Logic.Relation

/-! Imperative loops as the iteration of a partial body under a round budget.
A loop that exhausts its budget has no result, so divergence stays visible. -/

namespace Loop

variable {σ : Type*}

/-- Repeat `body` until it breaks (`none`), for at most the given number of rounds. -/
def run (body : σ → Option σ) : Nat → σ → Option σ
  | 0, s => if (body s).isNone then some s else none
  | n + 1, s => match body s with
    | none => some s
    | some t => run body n t

variable {body : σ → Option σ}

theorem run_break {s : σ} (h : body s = none) (n : Nat) : run body n s = some s := by
  cases n with
  | zero => simp [run, h]
  | succ n => simp [run, h]

theorem run_turn {s t : σ} (h : body s = some t) (n : Nat) : run body (n + 1) s = run body n t := by
  simp [run, h]

theorem run_zero {s t : σ} (h : run body 0 s = some t) : t = s ∧ body s = none := by
  cases hb : body s with
  | none => simpa [run, hb, eq_comm] using h
  | some u => simp [run, hb] at h

theorem run_path {n : Nat} {s t : σ} (h : run body n s = some t) :
    Relation.ReflTransGen (fun a b => body a = some b) s t ∧ body t = none := by
  induction n generalizing s with
  | zero =>
    obtain ⟨rfl, hb⟩ := run_zero h
    exact ⟨.refl, hb⟩
  | succ n ih =>
    cases hb : body s with
    | none =>
      rw [run_break hb] at h
      obtain rfl := Option.some.inj h
      exact ⟨.refl, hb⟩
    | some u =>
      rw [run_turn hb] at h
      exact ⟨.head hb (ih h).1, (ih h).2⟩

theorem run_invariant {I : σ → Prop} (hstep : ∀ s t, I s → body s = some t → I t) {n : Nat}
    {s t : σ} (hs : I s) (h : run body n s = some t) : I t := by
  have hp := (run_path h).1
  clear h
  induction hp with
  | refl => exact hs
  | tail _ hb ih => exact hstep _ _ ih hb

/-- A variant that falls at every turn bounds the rounds the loop needs. -/
theorem run_total {I : σ → Prop} {v : σ → Nat}
    (hstep : ∀ s t, I s → body s = some t → I t ∧ v t < v s) {n : Nat} {s : σ} (hs : I s)
    (hn : v s ≤ n) : ∃ t, run body n s = some t := by
  induction n generalizing s with
  | zero =>
    cases hb : body s with
    | none => exact ⟨s, run_break hb 0⟩
    | some u =>
      have hh := (hstep s u hs hb).2
      omega
  | succ n ih =>
    cases hb : body s with
    | none => exact ⟨s, run_break hb _⟩
    | some u =>
      obtain ⟨hu, hv⟩ := hstep s u hs hb
      rw [run_turn hb]
      exact ih hu (by omega)

end Loop
