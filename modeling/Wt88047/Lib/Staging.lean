import Mathlib.Data.List.Nodup
import Mathlib.Logic.Function.Basic
import Wt88047.Lib.Upsert

/-! Values that are staged in a list, one for each key, before they are committed to a function. -/

namespace Staging

variable {κ ν : Type*} [DecidableEq κ] {k j : κ} {v w : ν} {m want : List (κ × ν)} {f : κ → Option ν}

def find (m : List (κ × ν)) (k : κ) : Option ν := (m.find? fun e => e.1 = k).map Prod.snd

def put (m : List (κ × ν)) (k : κ) (v : ν) : List (κ × ν) :=
  Upsert.upsert (fun e => e.1 = k) (fun _ => (k, v)) (k, v) m

def drop (m : List (κ × ν)) (k : κ) : List (κ × ν) := m.filter fun e => e.1 ≠ k

def commit : List (κ × ν) → (κ → Option ν) → κ → Option ν
  | [], f => f
  | e :: m, f => commit m (Function.update f e.1 (some e.2))

def through (m : List (κ × ν)) (f : κ → Option ν) (k : κ) : Option ν := (find m k).or (f k)

def Unique (m : List (κ × ν)) : Prop := (m.map Prod.fst).Nodup

theorem find_cons (e : κ × ν) : find (e :: m) k = if e.1 = k then some e.2 else find m k := by
  unfold find
  rw [List.find?_cons]
  by_cases he : e.1 = k
  · simp [he]
  · simp [he]

theorem find_put_same : find (put m k v) k = some v := by
  have hfind := @Upsert.find_same (κ × ν) (fun e => e.1 = k) (fun _ => (k, v)) (k, v) m
    (fun _ _ => by simp) (by simp)
  unfold find put
  rw [hfind]
  cases m.find? fun e => e.1 = k <;> rfl

theorem find_put_other (h : j ≠ k) : find (put m k v) j = find m j := by
  have hfind := @Upsert.find_other (κ × ν) (fun e => e.1 = k) (fun e => e.1 = j) (fun _ => (k, v))
    (k, v) m (fun a ha => by simp_all [eq_comm]) (fun _ _ => by simpa using h.symm) (by simpa using h.symm)
  unfold find put
  rw [hfind]

theorem find_drop_same : find (drop m k) k = none := by
  unfold find drop
  rw [Option.map_eq_none_iff, List.find?_eq_none]
  intro e he
  simpa using (List.mem_filter.mp he).2

theorem find_drop_other (h : j ≠ k) : find (drop m k) j = find m j := by
  induction m with
  | nil => rfl
  | cons e m ih =>
    unfold drop at ih ⊢
    by_cases he : e.1 = k
    · have hj : e.1 ≠ j := fun hj => h (hj.symm.trans he)
      rw [List.filter_cons_of_neg (by simpa using he), ih, find_cons, if_neg hj]
    · rw [List.filter_cons_of_pos (by simpa using he), find_cons, find_cons, ih]

theorem find_none_iff : find m k = none ↔ k ∉ m.map Prod.fst := by
  unfold find
  rw [Option.map_eq_none_iff, List.find?_eq_none]
  constructor
  · intro h hk
    obtain ⟨e, he, rfl⟩ := List.mem_map.mp hk
    simpa using h e he
  · intro h e he
    have hne : e.1 ≠ k := fun hk => h (hk ▸ List.mem_map_of_mem he)
    simpa using hne

theorem Unique.put (h : Unique m) (k : κ) (v : ν) : Unique (put m k v) := by
  unfold Staging.put
  rcases Upsert.split_or_none (fun e : κ × ν => e.1 = k) m with ⟨pre, a, post, rfl, hpre, ha⟩ | hnone
  · rw [Upsert.upsert_split hpre ha]
    have hk : a.1 = k := by simpa using ha
    unfold Unique at h ⊢
    rw [List.map_append, List.map_cons] at h ⊢
    rw [hk] at h
    exact h
  · rw [Upsert.upsert_new hnone]
    unfold Unique at h ⊢
    rw [List.map_append, List.nodup_append]
    refine ⟨h, List.nodup_singleton _, fun x hx y hy hxy => ?_⟩
    obtain ⟨e, he, rfl⟩ := List.mem_map.mp hx
    have hyk : y = k := List.mem_singleton.mp hy
    exact hnone e he (by simpa using hxy.trans hyk)

/-- Where each key is there once, the order in which the values are set does not matter. -/
theorem commit_eq (h : Unique m) : commit m f = through m f := by
  induction m generalizing f with
  | nil => rfl
  | cons e m ih =>
    obtain ⟨hnot, hrest⟩ := List.nodup_cons.mp h
    have hnone : find m e.1 = none := find_none_iff.mpr hnot
    rw [commit, ih hrest]
    funext k
    unfold through
    rw [find_cons]
    by_cases hk : e.1 = k
    · rw [if_pos hk, ← hk, hnone, Function.update_self]
      rfl
    · rw [if_neg hk, Function.update_of_ne (Ne.symm hk)]

theorem through_of_some (h : find m k = some v) : through m f k = some v := by
  unfold through
  rw [h]
  rfl

theorem through_of_none (h : find m k = none) : through m f k = f k := by
  unfold through
  rw [h]
  rfl

theorem through_put : through (put m k v) f = Function.update (through m f) k (some v) := by
  funext j
  unfold through
  by_cases hj : j = k
  · rw [hj, find_put_same, Function.update_self]
    rfl
  · rw [find_put_other hj, Function.update_of_ne hj]

@[simp] theorem through_put_self : through (put m k v) f k = some v := by
  rw [through_put, Function.update_self]

theorem through_put_of_ne (h : j ≠ k) : through (put m k v) f j = through m f j := by
  rw [through_put]
  exact Function.update_of_ne h _ _

/-- A value set at once is not read where one is staged. -/
theorem through_update_of_ne (h : j ≠ k) (o : Option ν) : through m (Function.update f k o) j = through m f j := by
  unfold through
  rw [Function.update_of_ne h]

theorem through_through : through m (through m f) = through m f := by
  funext k
  unfold through
  cases find m k <;> rfl

def Agrees (want : List (κ × ν)) (g : κ → Option ν) : Prop := ∀ k v, find want k = some v → g k = some v

variable {g g' : κ → Option ν}

theorem Agrees.nil : Agrees [] g := fun _ _ h => nomatch h

theorem Agrees.put (h : Agrees want g) (k : κ) (v : ν) :
    Agrees (put want k v) (Function.update g k (some v)) := by
  intro j u hj
  by_cases hjk : j = k
  · rw [hjk, find_put_same] at hj
    rw [hjk, Function.update_self, hj]
  · rw [find_put_other hjk] at hj
    rw [Function.update_of_ne hjk]
    exact h j u hj

theorem Agrees.drop (h : Agrees want g) (hg : ∀ j, j ≠ k → g' j = g j) : Agrees (drop want k) g' := by
  intro j u hj
  have hjk : j ≠ k := by
    rintro rfl
    rw [find_drop_same] at hj
    cases hj
  rw [find_drop_other hjk] at hj
  rw [hg j hjk]
  exact h j u hj

end Staging
