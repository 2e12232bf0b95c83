import Mathlib.Data.List.Nodup

/-! A record of what was taken and what was given back, read one resource at a time. -/

namespace Custody

variable {κ : Type*}

inductive Event (κ : Type*)
  | take (k : κ)
  | give (k : κ)
  deriving DecidableEq

/-- Takings and givings back of one resource: a taken one cannot be taken, nor one given back that
was not taken. -/
def walk : Bool → List Bool → Option Bool
  | held, [] => some held
  | held, e :: l => if e = held then none else walk e l

@[simp] theorem walk_nil (held : Bool) : walk held [] = some held := rfl

@[simp] theorem walk_cons (held e : Bool) (l : List Bool) :
    walk held (e :: l) = if e = held then none else walk e l := rfl

theorem walk_append (held : Bool) (l m : List Bool) :
    walk held (l ++ m) = (walk held l).bind fun h => walk h m := by
  induction l generalizing held with
  | nil => rfl
  | cons e l ih =>
    rw [List.cons_append, walk_cons, walk_cons]
    by_cases he : e = held
    · rw [if_pos he, if_pos he]
      rfl
    · rw [if_neg he, if_neg he, ih]

variable [DecidableEq κ]

def Event.of (k : κ) : Event κ → Option Bool
  | .take j => if j = k then some true else none
  | .give j => if j = k then some false else none

def story (k : κ) (log : List (Event κ)) : List Bool := log.filterMap (Event.of k)

def takes (l : List κ) : List (Event κ) := l.map Event.take

def gives (l : List κ) : List (Event κ) := l.map Event.give

@[simp] theorem story_nil (k : κ) : story k [] = [] := rfl

@[simp] theorem story_append (k : κ) (a b : List (Event κ)) : story k (a ++ b) = story k a ++ story k b :=
  List.filterMap_append

@[simp] theorem story_take (k j : κ) (log : List (Event κ)) :
    story k (.take j :: log) = if j = k then true :: story k log else story k log := by
  by_cases h : j = k <;> simp [story, Event.of, h]

@[simp] theorem story_give (k j : κ) (log : List (Event κ)) :
    story k (.give j :: log) = if j = k then false :: story k log else story k log := by
  by_cases h : j = k <;> simp [story, Event.of, h]

theorem story_takes_of_not_mem {k : κ} {l : List κ} (h : k ∉ l) : story k (takes l) = [] := by
  induction l with
  | nil => rfl
  | cons j l ih =>
    obtain ⟨hj, hl⟩ := not_or.mp (mt List.mem_cons.mpr h)
    change story k (.take j :: takes l) = []
    rw [story_take, if_neg (Ne.symm hj), ih hl]

theorem story_gives_of_not_mem {k : κ} {l : List κ} (h : k ∉ l) : story k (gives l) = [] := by
  induction l with
  | nil => rfl
  | cons j l ih =>
    obtain ⟨hj, hl⟩ := not_or.mp (mt List.mem_cons.mpr h)
    change story k (.give j :: gives l) = []
    rw [story_give, if_neg (Ne.symm hj), ih hl]

theorem story_takes (k : κ) {l : List κ} (hl : l.Nodup) :
    story k (takes l) = if k ∈ l then [true] else [] := by
  induction l with
  | nil => rfl
  | cons j l ih =>
    obtain ⟨hj, hl⟩ := List.nodup_cons.mp hl
    change story k (.take j :: takes l) = _
    rw [story_take]
    by_cases h : j = k
    · subst h
      rw [story_takes_of_not_mem hj]
      simp
    · rw [ih hl]
      simp [h, Ne.symm h]

theorem story_gives (k : κ) {l : List κ} (hl : l.Nodup) :
    story k (gives l) = if k ∈ l then [false] else [] := by
  induction l with
  | nil => rfl
  | cons j l ih =>
    obtain ⟨hj, hl⟩ := List.nodup_cons.mp hl
    change story k (.give j :: gives l) = _
    rw [story_give]
    by_cases h : j = k
    · subst h
      rw [story_gives_of_not_mem hj]
      simp
    · rw [ih hl]
      simp [h, Ne.symm h]

/-- Whether the resource is out; `none` when it was taken twice or given back while in. -/
def status (k : κ) (log : List (Event κ)) : Option Bool := walk false (story k log)

/-- Each resource that was taken was given back exactly once before it was taken again; nothing else
was given back, and nothing is out. -/
def Settled (log : List (Event κ)) : Prop := ∀ k, status k log = some false

theorem settled_nil : Settled ([] : List (Event κ)) := fun _ => rfl

theorem status_append (k : κ) (a b : List (Event κ)) :
    status k (a ++ b) = (status k a).bind fun held => walk held (story k b) := by
  rw [status, story_append, walk_append]
  rfl

theorem Settled.append_iff {a b : List (Event κ)} (h : Settled a) : Settled (a ++ b) ↔ Settled b := by
  apply forall_congr'
  intro k
  rw [status_append, h k]
  rfl

def Out (P : κ → Prop) (log : List (Event κ)) : Prop :=
  ∀ k, ∃ held, status k log = some held ∧ (held = true ↔ P k)

theorem out_nil : Out (fun _ : κ => False) [] := fun _ => ⟨false, rfl, by simp⟩

theorem settled_iff_out {log : List (Event κ)} : Settled log ↔ Out (fun _ => False) log := by
  constructor
  · intro h k
    exact ⟨false, h k, by simp⟩
  · intro h k
    obtain ⟨held, hheld, hiff⟩ := h k
    cases held with
    | false => exact hheld
    | true => exact (hiff.mp rfl).elim

namespace Out

variable {P Q : κ → Prop} {log : List (Event κ)} {k : κ}

theorem congr (h : Out P log) (hpq : ∀ k, P k ↔ Q k) : Out Q log := by
  intro k
  obtain ⟨held, hheld, hiff⟩ := h k
  exact ⟨held, hheld, hiff.trans (hpq k)⟩

theorem unique (hp : Out P log) (hq : Out Q log) (k : κ) : P k ↔ Q k := by
  obtain ⟨held, hheld, hiff⟩ := hp k
  obtain ⟨held', hheld', hiff'⟩ := hq k
  obtain rfl := Option.some.inj (hheld.symm.trans hheld')
  exact hiff.symm.trans hiff'

theorem take (h : Out P log) (hk : ¬P k) : Out (fun j => P j ∨ j = k) (log ++ [.take k]) := by
  intro j
  obtain ⟨held, hheld, hiff⟩ := h j
  rw [status_append, hheld]
  by_cases hj : k = j
  · subst hj
    have hin : held = false := Bool.eq_false_iff.mpr (mt hiff.mp hk)
    exact ⟨true, by simp [hin], by simp⟩
  · exact ⟨held, by simp [hj], by simp [hiff, Ne.symm hj]⟩

theorem give (h : Out P log) (hk : P k) : Out (fun j => P j ∧ j ≠ k) (log ++ [.give k]) := by
  intro j
  obtain ⟨held, hheld, hiff⟩ := h j
  rw [status_append, hheld]
  by_cases hj : k = j
  · subst hj
    have hout : held = true := hiff.mpr hk
    exact ⟨false, by simp [hout], by simp⟩
  · exact ⟨held, by simp [hj], by simp [hiff, Ne.symm hj]⟩

end Out

end Custody
