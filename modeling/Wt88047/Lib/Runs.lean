import Mathlib.Data.List.Basic

/-! Finite runs of a partial step driven by events, with the rules that carry
an invariant along a run whose events meet a side condition. -/

namespace Runs

variable {σ ε : Type*}

/-- Feed the events to the machine in order; a refused event ends the run with `none`. -/
def play (step : σ → ε → Option σ) : σ → List ε → Option σ
  | s, [] => some s
  | s, e :: es => (step s e).bind fun t => play step t es

@[simp] theorem play_nil (step : σ → ε → Option σ) (s : σ) : play step s [] = some s := rfl

variable {step : σ → ε → Option σ} {s : σ} {es : List ε}

theorem play_cons {t : σ} {e : ε} :
    play step s (e :: es) = some t ↔ ∃ u, step s e = some u ∧ play step u es = some t := by
  simp [play, Option.bind_eq_some_iff]

theorem play_append {t : σ} {fs : List ε} :
    play step s (es ++ fs) = some t ↔ ∃ u, play step s es = some u ∧ play step u fs = some t := by
  induction es generalizing s with
  | nil => simp
  | cons e es ih =>
    rw [List.cons_append, play_cons]
    constructor
    · rintro ⟨u, hu, hrest⟩
      obtain ⟨v, hv, ht⟩ := ih.mp hrest
      exact ⟨v, play_cons.mpr ⟨u, hu, hv⟩, ht⟩
    · rintro ⟨v, hes, ht⟩
      obtain ⟨u, hu, hv⟩ := play_cons.mp hes
      exact ⟨u, hu, ih.mpr ⟨v, hv, ht⟩⟩

/-- Every event of the run meets `P` in the state that receives it. -/
def Along (step : σ → ε → Option σ) (P : σ → ε → Prop) : σ → List ε → Prop
  | _, [] => True
  | s, e :: es => P s e ∧ ∀ t, step s e = some t → Along step P t es

instance Along.decidable {step : σ → ε → Option σ} {P : σ → ε → Prop} [∀ s e, Decidable (P s e)] :
    ∀ s es, Decidable (Along step P s es)
  | _, [] => isTrue trivial
  | s, e :: es =>
    have : ∀ t, Decidable (Along step P t es) := fun t => Along.decidable t es
    inferInstanceAs (Decidable (P s e ∧ ∀ t ∈ step s e, Along step P t es))

variable {P : σ → ε → Prop}

theorem Along.head {e : ε} (h : Along step P s (e :: es)) : P s e := h.1

theorem Along.tail {t : σ} {e : ε} (h : Along step P s (e :: es)) (ht : step s e = some t) :
    Along step P t es := h.2 t ht

theorem Along.of_forall (h : ∀ e ∈ es, ∀ s, P s e) (s : σ) : Along step P s es := by
  induction es generalizing s with
  | nil => trivial
  | cons e es ih =>
    refine ⟨h e (List.mem_cons_self ..) s, fun t _ => ih (fun f hf => h f (List.mem_cons_of_mem _ hf)) t⟩

theorem Along.imp {Q : σ → ε → Prop} (hpq : ∀ s e, P s e → Q s e) (h : Along step P s es) :
    Along step Q s es := by
  induction es generalizing s with
  | nil => trivial
  | cons e es ih => exact ⟨hpq s e h.head, fun t ht => ih (h.tail ht)⟩

theorem Along.and {Q : σ → ε → Prop} (hp : Along step P s es) (hq : Along step Q s es) :
    Along step (fun t e => P t e ∧ Q t e) s es := by
  induction es generalizing s with
  | nil => trivial
  | cons e es ih => exact ⟨⟨hp.head, hq.head⟩, fun t ht => ih (hp.tail ht) (hq.tail ht)⟩

theorem Along.append_left {fs : List ε} (h : Along step P s (es ++ fs)) : Along step P s es := by
  induction es generalizing s with
  | nil => trivial
  | cons e es ih => exact ⟨h.head, fun t ht => ih (h.tail ht)⟩

theorem Along.append_right {t : σ} {fs : List ε} (h : Along step P s (es ++ fs))
    (ht : play step s es = some t) : Along step P t fs := by
  induction es generalizing s with
  | nil =>
    obtain rfl := Option.some.inj ht
    exact h
  | cons e es ih =>
    obtain ⟨u, hu, hp⟩ := play_cons.mp ht
    exact ih (h.tail hu) hp

variable {I : σ → Prop}

/-- The invariant rule: what every admissible step preserves holds at the end of every run. -/
theorem play_invariant (hstep : ∀ s e t, I s → P s e → step s e = some t → I t) {t : σ} (hs : I s)
    (hp : Along step P s es) (h : play step s es = some t) : I t := by
  induction es generalizing s with
  | nil =>
    obtain rfl := Option.some.inj h
    exact hs
  | cons e es ih =>
    obtain ⟨u, hu, ht⟩ := play_cons.mp h
    exact ih (hstep s e u hs hp.head hu) (hp.tail hu) ht

/-- What an admissible event shows in an invariant state holds all along a run. -/
theorem Along.of_invariant {Q : σ → ε → Prop}
    (hstep : ∀ s e t, I s → P s e → step s e = some t → I t) (hshow : ∀ s e, I s → P s e → Q s e)
    (hs : I s) (hp : Along step P s es) : Along step Q s es := by
  induction es generalizing s with
  | nil => trivial
  | cons e es ih =>
    exact ⟨hshow s e hs hp.head, fun t ht => ih (hstep s e t hs hp.head ht) (hp.tail ht)⟩

/-- A machine that refuses no event from an invariant state completes every run. -/
theorem play_total (hstep : ∀ s e, I s → P s e → ∃ t, step s e = some t ∧ I t) (hs : I s)
    (hp : Along step P s es) : ∃ t, play step s es = some t ∧ I t := by
  induction es generalizing s with
  | nil => exact ⟨s, rfl, hs⟩
  | cons e es ih =>
    obtain ⟨u, hu, hi⟩ := hstep s e hs hp.head
    obtain ⟨t, ht, hit⟩ := ih hi (hp.tail hu)
    exact ⟨t, play_cons.mpr ⟨u, hu, ht⟩, hit⟩

theorem along_iff_prefixes {R : σ → ε → Prop} {Q : σ → Prop}
    (hkeep : ∀ s e t, I s → R s e → P s e → step s e = some t → I t) (hshow : ∀ s, I s → Q s)
    (hback : ∀ s e t, I s → R s e → step s e = some t → Q t → P s e) {t : σ} (hs : I s)
    (hr : Along step R s es) (h : play step s es = some t) :
    Along step P s es ↔
      ∀ pre post, es = pre ++ post → ∀ u, play step s pre = some u → Q u := by
  constructor
  · rintro hp pre post rfl u hu
    have hboth := (hr.and hp).append_left
    exact hshow u (play_invariant (fun a e b ha hre hab => hkeep a e b ha hre.1 hre.2 hab) hs hboth hu)
  · intro hq
    induction es generalizing s with
    | nil => trivial
    | cons e es ih =>
      obtain ⟨u, hu, hp⟩ := play_cons.mp h
      have hqu := hq [e] es rfl u (play_cons.mpr ⟨u, hu, rfl⟩)
      have hpe := hback s e u hs hr.head hu hqu
      refine ⟨hpe, fun v hv => ?_⟩
      obtain rfl := Option.some.inj (hu.symm.trans hv)
      refine ih (hkeep s e u hs hr.head hpe hu) (hr.tail hu) hp ?_
      intro pre post he w hw
      exact hq (e :: pre) post (by rw [he]; rfl) w (play_cons.mpr ⟨u, hu, hw⟩)

theorem play_eq_foldl (f : σ → ε → σ) (s : σ) (es : List ε) :
    play (fun s e => some (f s e)) s es = some (es.foldl f s) := by
  induction es generalizing s with
  | nil => rfl
  | cons e es ih => exact ih (f s e)

/-- Its steps all meet the condition under which a step keeps the invariant just if the invariant
holds all along. -/
theorem along_foldl_iff_prefixes {f : σ → ε → σ} (hstep : ∀ {s}, I s → ∀ e, I (f s e) ↔ P s e)
    (hs : I s) (es : List ε) :
    Along (fun s e => some (f s e)) P s es ↔ ∀ pre post, es = pre ++ post → I (pre.foldl f s) := by
  have hkeep : ∀ s e t, I s → True → P s e → some (f s e) = some t → I t := by
    rintro s e t hi - hp ht
    obtain rfl := Option.some.inj ht
    exact (hstep hi e).mpr hp
  have hback : ∀ s e t, I s → True → some (f s e) = some t → I t → P s e := by
    rintro s e t hi - ht hi'
    obtain rfl := Option.some.inj ht
    exact (hstep hi e).mp hi'
  rw [along_iff_prefixes hkeep (fun _ h => h) hback hs (Along.of_forall (fun _ _ _ => trivial) _)
    (play_eq_foldl f s es)]
  constructor
  · intro h pre post he
    exact h pre post he _ (play_eq_foldl f s pre)
  · intro h pre post he u hu
    obtain rfl := Option.some.inj ((play_eq_foldl f s pre).symm.trans hu)
    exact h pre post he

theorem along_iff_splits :
    Along step P s es ↔
      ∀ pre e post, es = pre ++ e :: post → ∀ t, play step s pre = some t → P t e := by
  constructor
  · rintro h pre e post rfl t ht
    exact (h.append_right ht).head
  · intro h
    induction es generalizing s with
    | nil => trivial
    | cons e es ih =>
      refine ⟨h [] e es rfl s rfl, fun t ht => ih ?_⟩
      intro pre f post he u hu
      exact h (e :: pre) f post (by rw [he]; rfl) u (play_cons.mpr ⟨t, ht, hu⟩)

end Runs
