import Mathlib.Data.List.Nodup

/-! Doubly linked rings with a sentinel. The nodes are of any type; a list whose ends have no neighbours is a ring too,
with the lack of a node as its sentinel. -/

namespace LinkedRing

variable {ν : Type*}

structure Links (ν : Type*) where
  next : ν → ν
  prev : ν → ν

def Linked (l : Links ν) (a b : ν) : Prop := l.next a = b ∧ l.prev b = a

def Path (l : Links ν) : ν → List ν → ν → Prop
  | a, [], b => Linked l a b
  | a, x :: xs, b => Linked l a x ∧ Path l x xs b

structure Around (l : Links ν) (head : ν) (xs : List ν) : Prop where
  nodup : (head :: xs).Nodup
  path : Path l head xs head

def Links.flip (l : Links ν) : Links ν := ⟨l.prev, l.next⟩

variable {l l' : Links ν} {head a b p x : ν} {xs ys : List ν}

theorem path_append : Path l a (xs ++ x :: ys) b ↔ Path l a xs x ∧ Path l x ys b := by
  induction xs generalizing a with
  | nil => exact Iff.rfl
  | cons y xs ih => rw [List.cons_append, Path, Path, ih, and_assoc]

theorem path_flip : Path l.flip b xs.reverse a ↔ Path l a xs b := by
  induction xs generalizing a with
  | nil => exact and_comm
  | cons x xs ih =>
    rw [List.reverse_cons, path_append, ih, and_comm]
    exact and_congr_left fun _ => and_comm

theorem Around.flip (h : Around l head xs) : Around l.flip head xs.reverse := by
  refine ⟨?_, path_flip.mpr h.path⟩
  rw [List.nodup_cons, List.mem_reverse, List.nodup_reverse]
  exact List.nodup_cons.mp h.nodup

theorem Path.congr (h : Path l a xs b) (hnext : ∀ n ∈ a :: xs, l'.next n = l.next n)
    (hprev : ∀ n, n ∈ xs ∨ n = b → l'.prev n = l.prev n) : Path l' a xs b := by
  induction xs generalizing a with
  | nil => exact ⟨(hnext a List.mem_cons_self).trans h.1, (hprev b (.inr rfl)).trans h.2⟩
  | cons x xs ih =>
    refine ⟨⟨(hnext a List.mem_cons_self).trans h.1.1, (hprev x (.inl List.mem_cons_self)).trans h.1.2⟩, ih h.2 ?_ ?_⟩
    · exact fun n hn => hnext n (List.mem_cons_of_mem a hn)
    · exact fun n hn => hprev n (hn.imp_left (List.mem_cons_of_mem x))

theorem Path.next_first (h : Path l a xs b) : l.next a = xs.headD b := by
  cases xs with
  | nil => exact h.1
  | cons x xs => exact h.1.1

theorem Path.prev_last (h : Path l a xs b) : l.prev b = xs.getLastD a := by
  induction xs generalizing a with
  | nil => exact h.2
  | cons x xs ih =>
    rw [List.getLastD_cons]
    exact ih h.2

theorem Around.next_head (h : Around l head xs) : l.next head = xs.headD head := h.path.next_first

theorem Around.prev_head (h : Around l head xs) : l.prev head = xs.getLastD head := h.path.prev_last

theorem Around.next_mem (h : Around l head (xs ++ x :: ys)) : l.next x = ys.headD head :=
  (path_append.mp h.path).2.next_first

theorem Around.prev_mem (h : Around l head (xs ++ x :: ys)) : l.prev x = xs.getLastD head :=
  (path_append.mp h.path).1.prev_last

theorem Around.prev_next_head (h : Around l head xs) : l.prev (l.next head) = head := by
  have hpath := h.path
  rw [h.next_head]
  cases xs with
  | nil => exact hpath.2
  | cons x xs => exact hpath.1.2

theorem around_nil (hnext : l.next head = head) (hprev : l.prev head = head) : Around l head [] :=
  ⟨List.nodup_singleton head, hnext, hprev⟩

theorem headD_mem (xs : List ν) (head : ν) : xs.headD head ∈ head :: xs := by
  cases xs with
  | nil => exact List.mem_cons_self
  | cons x xs => exact List.mem_cons_of_mem head List.mem_cons_self

theorem getLastD_mem (xs : List ν) (head : ν) : xs.getLastD head ∈ head :: xs := by
  induction xs generalizing head with
  | nil => exact List.mem_cons_self
  | cons x xs ih =>
    rw [List.getLastD_cons]
    exact List.mem_cons_of_mem head (ih x)

variable [DecidableEq ν]

def Links.setNext (l : Links ν) (p v : ν) : Links ν := ⟨fun n => if n = p then v else l.next n, l.prev⟩

def Links.setPrev (l : Links ν) (p v : ν) : Links ν := ⟨l.next, fun n => if n = p then v else l.prev n⟩

@[simp] theorem Links.setNext_next (l : Links ν) (p v n : ν) :
    (l.setNext p v).next n = if n = p then v else l.next n := rfl

@[simp] theorem Links.setNext_prev (l : Links ν) (p v : ν) : (l.setNext p v).prev = l.prev := rfl

@[simp] theorem Links.setPrev_prev (l : Links ν) (p v n : ν) :
    (l.setPrev p v).prev n = if n = p then v else l.prev n := rfl

@[simp] theorem Links.setPrev_next (l : Links ν) (p v : ν) : (l.setPrev p v).next = l.next := rfl

theorem Around.push (h : Around l head xs) (hx : x ∉ head :: xs)
    (hnext : ∀ n ∈ x :: head :: xs, l'.next n =
      if n = x then l.next head else if n = head then x else l.next n)
    (hprev : ∀ n ∈ x :: head :: xs, l'.prev n =
      if n = x then head else if n = l.next head then x else l.prev n) : Around l' head (x :: xs) := by
  have hne : head ≠ x := fun heq => hx (heq ▸ List.mem_cons_self)
  have hnd := List.nodup_cons.mp h.nodup
  have hlink : Linked l' head x := by
    refine ⟨?_, ?_⟩
    · rw [hnext head (by simp), if_neg hne, if_pos rfl]
    · rw [hprev x (by simp), if_pos rfl]
  refine ⟨?_, hlink, ?_⟩
  · rw [List.nodup_cons, List.nodup_cons, List.mem_cons, not_or]
    rw [List.mem_cons, not_or] at hx
    exact ⟨⟨hne, hnd.1⟩, hx.2, hnd.2⟩
  · have hfirst := h.next_head
    have hpath := h.path
    cases xs with
    | nil =>
      refine ⟨?_, ?_⟩
      · rw [hnext x (by simp), if_pos rfl, hfirst]
        rfl
      · rw [hprev head (by simp), if_neg hne, hfirst]
        exact if_pos rfl
    | cons y ys =>
      have hfirst : l.next head = y := hfirst
      have hnd' := List.nodup_cons.mp hnd.2
      have hne_of : ∀ n ∈ y :: ys, n ≠ x := fun n hn heq => hx (heq ▸ List.mem_cons_of_mem head hn)
      refine ⟨⟨?_, ?_⟩, hpath.2.congr (fun n hn => ?_) fun n hn => ?_⟩
      · rw [hnext x (by simp), if_pos rfl, hfirst]
      · rw [hprev y (by simp), if_neg (hne_of y List.mem_cons_self), hfirst, if_pos rfl]
      · rw [hnext n (by simp [List.mem_cons.mp hn]), if_neg (hne_of n hn),
          if_neg fun heq : n = head => hnd.1 (heq ▸ hn)]
      · rcases hn with hn | rfl
        · have hmem := List.mem_cons_of_mem y hn
          rw [hprev n (by simp [hn]), if_neg (hne_of n hmem), hfirst, if_neg fun heq : n = y => hnd'.1 (heq ▸ hn)]
        · rw [hprev n (by simp), if_neg hne, hfirst, if_neg fun heq : n = y => hnd.1 (heq ▸ List.mem_cons_self)]

theorem Around.append (h : Around l head xs) (hx : x ∉ head :: xs)
    (hnext : ∀ n ∈ x :: head :: xs, l'.next n =
      if n = x then head else if n = l.prev head then x else l.next n)
    (hprev : ∀ n ∈ x :: head :: xs, l'.prev n =
      if n = x then l.prev head else if n = head then x else l.prev n) : Around l' head (xs ++ [x]) := by
  have hpush : Around l'.flip head (x :: xs.reverse) := h.flip.push (by simpa using hx)
    (fun n hn => hprev n (by simpa using hn)) (fun n hn => hnext n (by simpa using hn))
  have hflip := hpush.flip
  rw [List.reverse_cons, List.reverse_reverse] at hflip
  exact hflip

theorem Path.skip (hp : Linked l p x) (hys : Path l x ys b) (hnd : (p :: x :: ys).Nodup) (hb : b ∉ x :: ys)
    (hnext : ∀ n, n ≠ x → l'.next n = if n = l.prev x then l.next x else l.next n)
    (hprev : ∀ n, n ≠ x → l'.prev n = if n = l.next x then l.prev x else l.prev n) : Path l' p ys b := by
  obtain ⟨hpx, hnd⟩ := List.nodup_cons.mp hnd
  obtain ⟨hxys, hnd⟩ := List.nodup_cons.mp hnd
  rw [List.mem_cons, not_or] at hpx hb
  have hfirst : l.next x = ys.headD b := hys.next_first
  cases ys with
  | nil =>
    refine ⟨?_, ?_⟩
    · rw [hnext p hpx.1, hp.2, if_pos rfl]
      exact hfirst
    · rw [hprev b hb.1, hfirst, hp.2]
      exact if_pos rfl
  | cons y ys =>
    replace hfirst : l.next x = y := hfirst
    have hy := List.nodup_cons.mp hnd
    have hyx : y ≠ x := fun heq => hxys (heq ▸ List.mem_cons_self)
    refine ⟨⟨?_, ?_⟩, hys.2.congr (fun n hn => ?_) fun n hn => ?_⟩
    · rw [hnext p hpx.1, hp.2, if_pos rfl, hfirst]
    · rw [hprev y hyx, hfirst, if_pos rfl, hp.2]
    · rw [hnext n fun heq => hxys (heq ▸ hn), hp.2, if_neg fun heq : n = p => hpx.2 (heq ▸ hn)]
    · rcases hn with hn | rfl
      · rw [hprev n fun heq => hxys (heq ▸ List.mem_cons_of_mem y hn), hfirst,
          if_neg fun heq : n = y => hy.1 (heq ▸ hn)]
      · rw [hprev n hb.1, hfirst, if_neg fun heq : n = y => hb.2 (heq ▸ List.mem_cons_self)]

theorem Around.unlink (h : Around l head (xs ++ x :: ys))
    (hnext : ∀ n, n ≠ x → l'.next n = if n = l.prev x then l.next x else l.next n)
    (hprev : ∀ n, n ≠ x → l'.prev n = if n = l.next x then l.prev x else l.prev n) : Around l' head (xs ++ ys) := by
  have hnd := h.nodup
  obtain ⟨hxs, hys⟩ := path_append.mp h.path
  have hsub : (head :: (xs ++ ys)).Sublist (head :: (xs ++ x :: ys)) :=
    ((List.sublist_cons_self x ys).append_left xs).cons_cons head
  refine ⟨hnd.sublist hsub, ?_⟩
  have hhead := (List.nodup_cons.mp hnd).1
  rcases List.eq_nil_or_concat xs with rfl | ⟨xs, p, rfl⟩
  · exact Path.skip hxs hys hnd (fun hmem => hhead hmem) hnext hprev
  · rw [List.concat_eq_append] at *
    obtain ⟨hfront, hlink⟩ := path_append.mp hxs
    have hlink : Linked l p x := hlink
    have hapart : ∀ n ∈ head :: (xs ++ [p]), ∀ m ∈ x :: ys, n ≠ m := by
      rw [← List.cons_append, List.nodup_append] at hnd
      exact hnd.2.2
    have hp : ∀ n ∈ head :: xs, n ≠ p := by
      rw [← List.cons_append, List.nodup_append, ← List.cons_append, List.nodup_append] at hnd
      exact fun n hn => hnd.1.2.2 n hn p List.mem_cons_self
    have hback : (p :: x :: ys).Nodup := by
      rw [List.append_assoc] at hnd
      exact hnd.sublist ((List.sublist_append_right xs _).cons head)
    rw [List.append_assoc, List.singleton_append, path_append]
    refine ⟨hfront.congr (fun n hn => ?_) fun n hn => ?_,
      Path.skip hlink hys hback (fun hmem => hapart head List.mem_cons_self head hmem rfl) hnext hprev⟩
    · have hmem : n ∈ head :: (xs ++ [p]) := List.cons_append ▸ List.mem_append_left [p] hn
      rw [hnext n (hapart n hmem x List.mem_cons_self), hlink.2, if_neg (hp n hn)]
    · have hmem : n ∈ xs ++ [p] := by simpa using hn
      have hne : n ≠ l.next x := by
        rw [hys.next_first]
        rcases List.mem_cons.mp (headD_mem ys head) with heq | hin
        · rw [heq]
          exact fun hn => hhead (hn ▸ List.mem_append_left _ hmem)
        · exact hapart n (List.mem_cons_of_mem head hmem) _ (List.mem_cons_of_mem x hin)
      rw [hprev n (hapart n (List.mem_cons_of_mem head hmem) x List.mem_cons_self), if_neg hne]

end LinkedRing
