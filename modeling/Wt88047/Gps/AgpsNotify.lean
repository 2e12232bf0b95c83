import Wt88047.Gps.AgpsSubscribers
import Mathlib.Data.List.Nodup
import Mathlib.Logic.Function.Basic

/-! The walk of `notifySubscribers` over subscribers that are objects in memory. The receiver of a notification may be
one of them: once the walk has deleted it, the comparisons that follow read freed memory. -/

namespace Wt88047.Agps

open Subscriber

class SubscriberKind (S : Type) extends Subscriber S where
  silent : ∀ nif s, rsrcStatusCalls nif s .subscribe = none ∧ rsrcStatusCalls nif s .max = none
  differs : ∀ s, ∃ t, equals s t = false

theorem ne_add_one (n : UInt32) : n ≠ n + 1 := by
  intro h
  simp at h

instance : SubscriberKind BITSubscriber where
  silent _ _ := ⟨rfl, rfl⟩
  differs s := by
    refine ⟨{ s with ID := s.ID + 1 }, ?_⟩
    show (s.ID == s.ID + 1 && _) = false
    rw [beq_eq_false_iff_ne.mpr (ne_add_one s.ID), Bool.false_and]

instance : SubscriberKind ATLSubscriber where
  silent _ _ := ⟨rfl, rfl⟩
  differs s := ⟨{ s with ID := s.ID + 1 }, beq_eq_false_iff_ne.mpr (ne_add_one s.ID)⟩

instance : SubscriberKind WIFISubscriber where
  silent _ _ := ⟨rfl, rfl⟩
  differs s := by
    by_cases h : s.senderId = .quipc
    · refine ⟨{ s with senderId := .msapm }, beq_eq_false_iff_ne.mpr fun hsame => ?_⟩
      rw [h] at hsame
      cases hsame
    · exact ⟨{ s with senderId := .quipc }, beq_eq_false_iff_ne.mpr h⟩

instance : SubscriberKind DSSubscriber where
  silent _ _ := ⟨rfl, rfl⟩
  differs s := ⟨{ s with ID := s.ID + 1 }, beq_eq_false_iff_ne.mpr (ne_add_one s.ID)⟩

abbrev Objects (S : Type) := Nat → S

def Notification.read {S : Type} (n : Notification Nat) (mem : Objects S) : Notification S where
  rcver := n.rcver.map mem
  groupID := n.groupID
  rsrcStatus := n.rsrcStatus
  postNotifyDelete := n.postNotifyDelete

section

variable {S : Type} [Subscriber S]

/-- `notifySubscriber` on the object at an address. -/
def notifyAt (nif : Nif) (mem : Objects S) (n : Notification Nat) (a : Nat) : Bool × List (Nat × Notice S) :=
  let q := notifySubscriber nif (n.read mem) (mem a)
  (q.1, q.2.map (Prod.mk a))

/-- The loop that deletes, for at most so many rounds. `stale` is what is found where an object was. -/
def notifyDelete (nif : Nif) (stale : Objects S) (n : Notification Nat) :
    Nat → Objects S → List Nat → Option (List Nat × List (Nat × Notice S))
  | 0, _, _ => none
  | rounds + 1, mem, l =>
    let r := linkedListSearch (notifyAt nif mem n) true l
    match r.1 with
    | some a => (notifyDelete nif stale n rounds (Function.update mem a (stale a)) r.2.1).map
        fun rest => (rest.1, r.2.2 ++ rest.2)
    | none => some r.2

/-- `notifySubscribers`: what is left of the list, and who was told. -/
def notifyObjects (nif : Nif) (stale : Objects S) (n : Notification Nat) (rounds : Nat) (mem : Objects S)
    (l : List Nat) : Option (List Nat × List (Nat × Notice S)) :=
  if n.postNotifyDelete then notifyDelete nif stale n rounds mem l
  else some (linkedListSearch (notifyAt nif mem n) false l).2

def matching (nif : Nif) (mem : Objects S) (n : Notification Nat) (a : Nat) : Bool :=
  forMe (n.read mem) (mem a) && (rsrcStatusCalls nif (mem a) n.rsrcStatus).isSome

def notice (nif : Nif) (mem : Objects S) (n : Notification Nat) (a : Nat) : Nat × Notice S :=
  (a, ⟨mem a, n.rsrcStatus, (rsrcStatusCalls nif (mem a) n.rsrcStatus).getD []⟩)

variable {nif : Nif} {stale mem mem' : Objects S} {n : Notification Nat} {a : Nat} {l : List Nat}

theorem notifyAt_eq : notifyAt nif mem n a =
    (matching nif mem n a && n.postNotifyDelete, if matching nif mem n a then [notice nif mem n a] else []) := by
  rw [notifyAt, notifySubscriber, notifyRsrcStatus, matching, notice]
  cases forMe (n.read mem) (mem a) with
  | false => rfl
  | true =>
    cases h : rsrcStatusCalls nif (mem a) n.rsrcStatus with
    | none => simp [Notification.read, h]
    | some calls => simp [Notification.read, h]

theorem matching_congr (ha : mem' a = mem a) (hr : ∀ r, n.rcver = some r → mem' r = mem r) :
    matching nif mem' n a = matching nif mem n a := by
  have hread : n.read mem' = n.read mem := by
    rw [Notification.read, Notification.read]
    cases h : n.rcver with
    | none => rfl
    | some r => rw [Option.map_some, Option.map_some, hr r h]
  rw [matching, matching, hread, ha]

theorem notice_congr (ha : mem' a = mem a) : notice nif mem' n a = notice nif mem n a := by
  rw [notice, notice, ha]

theorem search_matching {before after : List Nat} (hd : n.postNotifyDelete = true)
    (hbefore : ∀ b ∈ before, matching nif mem n b = false) (ha : matching nif mem n a = true) :
    linkedListSearch (notifyAt nif mem n) true (before ++ a :: after) =
      (some a, before ++ after, [notice nif mem n a]) := by
  induction before with
  | nil => simp [linkedListSearch, notifyAt_eq, ha, hd]
  | cons b before ih =>
    have hb := hbefore b List.mem_cons_self
    rw [List.cons_append, linkedListSearch, ih fun c hc => hbefore c (List.mem_cons_of_mem b hc)]
    simp [notifyAt_eq, hb]

theorem search_none (h : ∀ b ∈ l, matching nif mem n b = false) :
    linkedListSearch (notifyAt nif mem n) true l = (none, l, []) := by
  induction l with
  | nil => rfl
  | cons b l ih =>
    have hb := h b List.mem_cons_self
    rw [linkedListSearch, ih fun c hc => h c (List.mem_cons_of_mem b hc)]
    simp [notifyAt_eq, hb]

theorem search_keep (hd : n.postNotifyDelete = false) :
    (linkedListSearch (notifyAt nif mem n) false l).2 =
      (l, (l.filter (matching nif mem n)).map (notice nif mem n)) := by
  induction l with
  | nil => rfl
  | cons b l ih =>
    have hno : (notifyAt nif mem n b).1 = false := by rw [notifyAt_eq, hd, Bool.and_false]
    rw [linkedListSearch, if_neg (by rw [hno]; exact Bool.false_ne_true)]
    dsimp only
    rw [ih, notifyAt_eq]
    cases hb : matching nif mem n b <;> simp [hb]

theorem notifyDelete_matching {before after : List Nat} (hd : n.postNotifyDelete = true)
    (hbefore : ∀ b ∈ before, matching nif mem n b = false) (ha : matching nif mem n a = true) (rounds : Nat) :
    notifyDelete nif stale n (rounds + 1) mem (before ++ a :: after) =
      (notifyDelete nif stale n rounds (Function.update mem a (stale a)) (before ++ after)).map
        fun rest => (rest.1, notice nif mem n a :: rest.2) := by
  rw [notifyDelete, search_matching hd hbefore ha]
  rfl

theorem notifyDelete_none (h : ∀ b ∈ l, matching nif mem n b = false) (rounds : Nat) :
    notifyDelete nif stale n (rounds + 1) mem l = some (l, []) := by
  rw [notifyDelete, search_none h]

/-- The walk over a part of the list that the receiver is not in: what matches goes, in its order. The memory of all
else stays. -/
theorem notifyDelete_part (hd : n.postNotifyDelete = true) {before part after : List Nat}
    (hnodup : (before ++ part).Nodup) (hbefore : ∀ b ∈ before, matching nif mem n b = false)
    (hr : ∀ r, n.rcver = some r → r ∉ part) :
    ∃ mem', (∀ b, (b ∈ part → matching nif mem n b = false) → mem' b = mem b) ∧ ∀ rounds,
      notifyDelete nif stale n (rounds + (part.filter (matching nif mem n)).length) mem (before ++ part ++ after) =
        (notifyDelete nif stale n rounds mem' (before ++ part.filter (fun b => !matching nif mem n b) ++ after)).map
          fun rest => (rest.1, (part.filter (matching nif mem n)).map (notice nif mem n) ++ rest.2) := by
  induction part generalizing before mem with
  | nil =>
    refine ⟨mem, fun _ _ => rfl, fun rounds => ?_⟩
    cases h : notifyDelete nif stale n rounds mem (before ++ [] ++ after) <;> simp
  | cons a part ih =>
    have hrpart : ∀ r, n.rcver = some r → r ∉ part := fun r hrcver h => hr r hrcver (List.mem_cons_of_mem a h)
    have hcons : (before ++ [a] ++ part).Nodup := by rwa [List.append_assoc]
    cases ha : matching nif mem n a with
    | false =>
      have hbefore' : ∀ b ∈ before ++ [a], matching nif mem n b = false := by
        intro b hb
        rcases List.mem_append.mp hb with hb | hb
        · exact hbefore b hb
        · rwa [List.mem_singleton.mp hb]
      obtain ⟨mem', hmem, heq⟩ := ih hcons hbefore' hrpart
      refine ⟨mem', fun b hb => hmem b fun h => hb (List.mem_cons_of_mem a h), fun rounds => ?_⟩
      simpa [ha] using heq rounds
    | true =>
      have hnot : a ∉ before ++ part := (List.nodup_middle.mp hnodup).notMem
      have hra : ∀ r, n.rcver = some r → Function.update mem a (stale a) r = mem r := by
        intro r hrcver
        refine Function.update_of_ne ?_ _ _
        rintro rfl
        exact hr r hrcver List.mem_cons_self
      have hkeep : ∀ b, b ∈ before ++ part → Function.update mem a (stale a) b = mem b := fun b hb =>
        Function.update_of_ne (ne_of_mem_of_not_mem hb hnot) _ _
      have hsame : ∀ b, b ∈ before ++ part →
          matching nif (Function.update mem a (stale a)) n b = matching nif mem n b := fun b hb =>
        matching_congr (hkeep b hb) hra
      have hfilter : part.filter (matching nif (Function.update mem a (stale a)) n) =
          part.filter (matching nif mem n) :=
        List.filter_congr fun b hb => hsame b (List.mem_append_right _ hb)
      have hrest : part.filter (fun b => !matching nif (Function.update mem a (stale a)) n b) =
          part.filter (fun b => !matching nif mem n b) :=
        List.filter_congr fun b hb => congrArg _ (hsame b (List.mem_append_right _ hb))
      have hnotice : (part.filter (matching nif mem n)).map (notice nif (Function.update mem a (stale a)) n) =
          (part.filter (matching nif mem n)).map (notice nif mem n) :=
        List.map_congr_left fun b hb => notice_congr (hkeep b (List.mem_append_right _ (List.mem_filter.mp hb).1))
      obtain ⟨mem', hmem, heq⟩ := ih (List.nodup_middle.mp hnodup).of_cons
        (fun b hb => (hsame b (List.mem_append_left _ hb)).trans (hbefore b hb)) hrpart
      rw [hfilter, hrest, hnotice] at heq
      refine ⟨mem', fun b hb => ?_, fun rounds => ?_⟩
      · have hne : b ≠ a := by
          rintro rfl
          rw [hb List.mem_cons_self] at ha
          cases ha
        rw [hmem b fun h => (hsame b (List.mem_append_right _ h)).trans (hb (List.mem_cons_of_mem a h)),
          Function.update_of_ne hne]
      · rw [List.filter_cons_of_pos ha, List.filter_cons_of_neg (by simp [ha]), List.length_cons, ← Nat.add_assoc,
          List.append_assoc, List.cons_append, notifyDelete_matching hd hbefore ha, ← List.append_assoc, heq,
          Option.map_map]
        rfl

theorem notifyDelete_outside (hd : n.postNotifyDelete = true) (hnodup : l.Nodup)
    (hr : ∀ r, n.rcver = some r → r ∉ l) :
    ∃ rounds, notifyDelete nif stale n rounds mem l =
      some (l.filter (fun b => !matching nif mem n b), (l.filter (matching nif mem n)).map (notice nif mem n)) := by
  obtain ⟨mem', hmem, heq⟩ := @notifyDelete_part _ _ nif stale mem n hd [] l [] hnodup nofun hr
  have hnone : ∀ b ∈ l.filter (fun b => !matching nif mem n b), matching nif mem' n b = false := by
    intro b hb
    have hno : matching nif mem n b = false := by simpa using (List.mem_filter.mp hb).2
    rw [matching_congr (hmem b fun _ => hno) fun r hrcver => hmem r fun h => absurd h (hr r hrcver)]
    exact hno
  refine ⟨_, (congrArg _ (by simp)).trans (heq 1) |>.trans ?_⟩
  rw [List.nil_append, List.append_nil, notifyDelete_none hnone]
  simp

theorem notifyDelete_inside (hd : n.postNotifyDelete = true) {before after : List Nat} {r : Nat}
    (hnodup : (before ++ r :: after).Nodup) (hrcver : n.rcver = some r) (hmatch : matching nif mem n r = true) :
    ∃ mem', mem' r = stale r ∧
      (∀ b ∈ before.filter (fun b => !matching nif mem n b) ++ after, mem' b = mem b) ∧ ∀ rounds,
      notifyDelete nif stale n (rounds + 1 + (before.filter (matching nif mem n)).length) mem (before ++ r :: after) =
        (notifyDelete nif stale n rounds mem' (before.filter (fun b => !matching nif mem n b) ++ after)).map
          fun rest => (rest.1, (before.filter (matching nif mem n)).map (notice nif mem n) ++
            notice nif mem n r :: rest.2) := by
  have hnot : r ∉ before ++ after := (List.nodup_middle.mp hnodup).notMem
  have hr : ∀ r', n.rcver = some r' → r' ∉ before := by
    intro r' hr' h
    obtain rfl := Option.some.inj (hrcver.symm.trans hr')
    exact hnot (List.mem_append_left _ h)
  obtain ⟨mem', hmem, heq⟩ := @notifyDelete_part _ _ nif stale mem n hd [] before (r :: after)
    (List.nodup_append.mp hnodup).1 nofun hr
  have hreceiver : mem' r = mem r := hmem r fun h => absurd (List.mem_append_left _ h) hnot
  have hrcver' : ∀ r', n.rcver = some r' → mem' r' = mem r' := fun r' hr' => hmem r' fun h => absurd h (hr r' hr')
  have hnone : ∀ b ∈ before.filter (fun b => !matching nif mem n b), matching nif mem' n b = false := by
    intro b hb
    have hno : matching nif mem n b = false := by simpa using (List.mem_filter.mp hb).2
    rw [matching_congr (hmem b fun _ => hno) hrcver']
    exact hno
  have hmatch' : matching nif mem' n r = true := (matching_congr hreceiver hrcver').trans hmatch
  refine ⟨Function.update mem' r (stale r), Function.update_self .., fun b hb => ?_, fun rounds => ?_⟩
  · have hsub : b ∈ before ++ after := by
      rcases List.mem_append.mp hb with hb | hb
      · exact List.mem_append_left _ (List.mem_filter.mp hb).1
      · exact List.mem_append_right _ hb
    rw [Function.update_of_ne (ne_of_mem_of_not_mem hsub hnot)]
    refine hmem b fun h => ?_
    rcases List.mem_append.mp hb with hb | hb
    · simpa using (List.mem_filter.mp hb).2
    · exact absurd rfl ((List.nodup_append.mp hnodup).2.2 b h b (List.mem_cons_of_mem r hb))
  · have hwalk := heq (rounds + 1)
    rw [List.nil_append, List.nil_append] at hwalk
    rw [hwalk, notifyDelete_matching hd hnone hmatch', Option.map_map, notice_congr hreceiver]
    rfl

theorem notifyDelete_mono {rounds : Nat} {res : List Nat × List (Nat × Notice S)}
    (h : notifyDelete nif stale n rounds mem l = some res) (more : Nat) :
    notifyDelete nif stale n (rounds + more) mem l = some res := by
  induction rounds generalizing mem l res with
  | zero => cases h
  | succ rounds ih =>
    rw [Nat.add_right_comm, notifyDelete]
    rw [notifyDelete] at h
    cases hfound : (linkedListSearch (notifyAt nif mem n) true l).1 with
    | none =>
      simp only [hfound] at h ⊢
      exact h
    | some a =>
      simp only [hfound] at h ⊢
      obtain ⟨rest, hrest, rfl⟩ := Option.map_eq_some_iff.mp h
      rw [ih hrest]
      rfl

theorem notifyDelete_unique {rounds rounds' : Nat} {res res' : List Nat × List (Nat × Notice S)}
    (h : notifyDelete nif stale n rounds mem l = some res) (h' : notifyDelete nif stale n rounds' mem l = some res') :
    res = res' := by
  have hmore := notifyDelete_mono h rounds'
  rw [Nat.add_comm, notifyDelete_mono h' rounds] at hmore
  exact (Option.some.inj hmore).symm

theorem notifyDelete_ends (mem : Objects S) (l : List Nat) :
    ∃ res, notifyDelete nif stale n (l.length + 1) mem l = some res := by
  induction hlen : l.length generalizing mem l with
  | zero =>
    rw [List.length_eq_zero_iff.mp hlen]
    exact ⟨_, rfl⟩
  | succ k ih =>
    rw [notifyDelete]
    cases hfound : (linkedListSearch (notifyAt nif mem n) true l).1 with
    | none => exact ⟨_, rfl⟩
    | some a =>
      have hlength := (linkedListSearch_some (Option.isSome_of_eq_some hfound)).1
      have hshort : (linkedListSearch (notifyAt nif mem n) true l).2.1.length = k := by omega
      obtain ⟨res, hres⟩ := ih (Function.update mem a (stale a)) _ hshort
      exact ⟨_, congrArg (Option.map _) hres⟩

theorem linkedListSearch_map (rm : Bool) :
    linkedListSearch (notifySubscriber nif (n.read mem)) rm (l.map mem) =
      let r := linkedListSearch (notifyAt nif mem n) rm l
      (r.1.map mem, r.2.1.map mem, r.2.2.map Prod.snd) := by
  induction l with
  | nil => rfl
  | cons b l ih =>
    have hfirst : (notifyAt nif mem n b).1 = (notifySubscriber nif (n.read mem) (mem b)).1 := rfl
    have htold : (notifyAt nif mem n b).2.map Prod.snd = (notifySubscriber nif (n.read mem) (mem b)).2 := by
      simp [notifyAt]
    rw [List.map_cons, linkedListSearch, linkedListSearch, hfirst]
    by_cases h : (notifySubscriber nif (n.read mem) (mem b)).1 = true
    · rw [if_pos h, if_pos h]
      cases rm <;> simp [htold]
    · rw [if_neg h, if_neg h, ih]
      simp [htold]

theorem deleteMatching_map {rounds : Nat} {res : List Nat × List (Nat × Notice S)}
    (h : notifyDelete nif mem n rounds mem l = some res) :
    deleteMatching (notifySubscriber nif (n.read mem)) rounds (l.map mem) = (res.1.map mem, res.2.map Prod.snd) := by
  induction rounds generalizing l res with
  | zero => cases h
  | succ rounds ih =>
    rw [notifyDelete] at h
    rw [deleteMatching, linkedListSearch_map]
    cases hfound : (linkedListSearch (notifyAt nif mem n) true l).1 with
    | none =>
      simp only [hfound, Option.some.injEq] at h ⊢
      rw [← h]
      rfl
    | some a =>
      simp only [hfound, Function.update_eq_self] at h ⊢
      obtain ⟨rest, hrest, rfl⟩ := Option.map_eq_some_iff.mp h
      simp [ih hrest]

/-- Where a deleted object still reads as before, the walk over the objects does what `notifySubscribers` does to
the list of what they hold. -/
theorem notifySubscribers_objects (m : AgpsStateMachine S) :
    ∃ res, notifyObjects m.nif mem n (l.length + 1) mem l = some res ∧
      AgpsStateMachine.notifySubscribers (n.read mem) { m with mSubscribers := l.map mem } =
        AgpsStateMachine.tell (res.2.map Prod.snd) { m with mSubscribers := res.1.map mem } := by
  cases hd : n.postNotifyDelete with
  | false =>
    refine ⟨_, by rw [notifyObjects, if_neg (by simp [hd])], ?_⟩
    rw [AgpsStateMachine.notifySubscribers, if_neg (by simp [Notification.read, hd])]
    dsimp only
    rw [linkedListSearch_map]
    dsimp only
    rw [search_keep hd]
  | true =>
    obtain ⟨res, hres⟩ := @notifyDelete_ends _ _ m.nif mem n mem l
    refine ⟨res, by rw [notifyObjects, if_pos hd, hres], ?_⟩
    rw [AgpsStateMachine.notifySubscribers, if_pos (show (n.read mem).postNotifyDelete = true from hd)]
    dsimp only
    rw [List.length_map, deleteMatching_map hres]

end

/-- Each subscriber that matches is told once, in the order of the list, and no other; if the notification deletes,
these are taken from the list. This holds whatever is found where an object was. -/
def Delivers {S : Type} [Subscriber S] (nif : Nif) (mem : Objects S) (n : Notification Nat) (l : List Nat) : Prop :=
  ∀ stale, ∃ rounds, notifyObjects nif stale n rounds mem l =
    some (if n.postNotifyDelete then l.filter (fun a => !matching nif mem n a) else l,
      (l.filter (matching nif mem n)).map (notice nif mem n))

/-- No comparison is made with the receiver after it was deleted. -/
def ReceiverLast {S : Type} [Subscriber S] (mem : Objects S) (n : Notification Nat) (l : List Nat) : Prop :=
  n.postNotifyDelete = true → n.rsrcStatus ≠ .subscribe → n.rsrcStatus ≠ .max →
    ∀ r ∈ l, n.rcver = some r → l.getLast? = some r ∧ ∀ a ∈ l, equals (mem a) (mem r) = true

section

variable {S : Type} [SubscriberKind S] {nif : Nif} {mem : Objects S} {n : Notification Nat} {l : List Nat}

theorem matching_of_silent (h : n.rsrcStatus = .subscribe ∨ n.rsrcStatus = .max) (a : Nat) :
    matching nif mem n a = false := by
  obtain ⟨hsubscribe, hmax⟩ := SubscriberKind.silent nif (mem a)
  rw [matching]
  rcases h with h | h
  · rw [h, hsubscribe, Option.isSome_none, Bool.and_false]
  · rw [h, hmax, Option.isSome_none, Bool.and_false]

theorem matching_rcver (hs : n.rsrcStatus ≠ .subscribe) (hm : n.rsrcStatus ≠ .max) {r : Nat} (hr : n.rcver = some r)
    (a : Nat) : matching nif mem n a = equals (mem a) (mem r) := by
  rw [matching, handled nif (mem a) _ hs hm, Bool.and_true, forMe, Notification.read, hr]
  rfl

theorem ReceiverLast.delivers (h : ReceiverLast mem n l) (hnodup : l.Nodup) : Delivers nif mem n l := by
  intro stale
  cases hd : n.postNotifyDelete with
  | false =>
    refine ⟨0, ?_⟩
    rw [notifyObjects, if_neg (by simp [hd]), search_keep hd]
    rfl
  | true =>
    rw [if_pos rfl]
    simp only [notifyObjects, hd, ↓reduceIte]
    by_cases hin : ∃ r ∈ l, n.rcver = some r
    · obtain ⟨r, hr, hrcver⟩ := hin
      by_cases hsilent : n.rsrcStatus = .subscribe ∨ n.rsrcStatus = .max
      · refine ⟨1, ?_⟩
        rw [notifyDelete_none fun b _ => matching_of_silent hsilent b]
        simp [matching_of_silent hsilent]
      · obtain ⟨hs, hm⟩ := not_or.mp hsilent
        obtain ⟨hlast, hequal⟩ := h hd hs hm r hr hrcver
        obtain ⟨before, rfl⟩ := List.getLast?_eq_some_iff.mp hlast
        have hall : ∀ a ∈ before ++ [r], matching nif mem n a = true := fun a ha =>
          (matching_rcver hs hm hrcver a).trans (hequal a ha)
        have hbefore : before.filter (matching nif mem n) = before :=
          List.filter_eq_self.mpr fun a ha => hall a (List.mem_append_left _ ha)
        have hnone : before.filter (fun a => !matching nif mem n a) = [] :=
          List.filter_eq_nil_iff.mpr fun a ha => by simp [hall a (List.mem_append_left _ ha)]
        obtain ⟨mem', -, -, hwalk⟩ := @notifyDelete_inside _ _ nif stale mem n hd before [] r hnodup hrcver
          (hall r (List.mem_append_right _ (List.mem_singleton_self r)))
        refine ⟨_, (hwalk 1).trans ?_⟩
        have hend := @notifyDelete_none _ _ nif stale mem' n [] nofun 0
        rw [hnone, hbefore, List.append_nil, hend, List.filter_eq_self.mpr hall,
          List.filter_eq_nil_iff.mpr fun a ha => by simp [hall a ha]]
        simp
    · exact notifyDelete_outside hd hnodup fun r hrcver hr => hin ⟨r, hr, hrcver⟩

/-- If somebody is left when the receiver is deleted, something may be found in its place that tells them from it, or
that does not tell them from it. -/
theorem Delivers.nobody_left {before after : List Nat} {r : Nat} (h : Delivers nif mem n (before ++ r :: after))
    (hnodup : (before ++ r :: after).Nodup) (hd : n.postNotifyDelete = true) (hs : n.rsrcStatus ≠ .subscribe)
    (hm : n.rsrcStatus ≠ .max) (hrcver : n.rcver = some r) (x : Nat) :
    x ∉ before.filter (fun b => !matching nif mem n b) ++ after := by
  intro hx
  have hmatch : matching nif mem n r = true := (matching_rcver hs hm hrcver r).trans (equals_self _)
  -- what is found tells the opposite of what was true
  obtain ⟨t, ht⟩ : ∃ t, equals (mem x) t = !matching nif mem n x := by
    cases hmx : matching nif mem n x with
    | true => exact SubscriberKind.differs (mem x)
    | false => exact ⟨mem x, equals_self _⟩
  have hsub : ∀ b ∈ before.filter (fun b => !matching nif mem n b) ++ after, b ∈ before ++ after := by
    intro b hb
    rcases List.mem_append.mp hb with hb | hb
    · exact List.mem_append_left _ (List.mem_filter.mp hb).1
    · exact List.mem_append_right _ hb
  have hnot : r ∉ before ++ after := (List.nodup_middle.mp hnodup).notMem
  have hrest : (before.filter (fun b => !matching nif mem n b) ++ after).Nodup :=
    (List.nodup_middle.mp hnodup).of_cons.sublist (List.filter_sublist.append_right after)
  obtain ⟨mem', hr', hmem, hwalk⟩ :=
    @notifyDelete_inside _ _ nif (fun _ => t) mem n hd before after r hnodup hrcver hmatch
  have hout : ∀ r', n.rcver = some r' → r' ∉ before.filter (fun b => !matching nif mem n b) ++ after := by
    intro r' hrcver' hmem'
    obtain rfl := Option.some.inj (hrcver.symm.trans hrcver')
    exact hnot (hsub r hmem')
  obtain ⟨more, hmore⟩ := @notifyDelete_outside _ _ nif (fun _ => t) mem' n _ hd hrest hout
  have hend := hwalk more
  rw [hmore] at hend
  obtain ⟨rounds, hdelivered⟩ := h fun _ => t
  simp only [notifyObjects, hd, ↓reduceIte] at hdelivered
  have hlists := congrArg Prod.fst (notifyDelete_unique hend hdelivered)
  have hx' : matching nif mem' n x = !matching nif mem n x := by
    rw [matching_rcver hs hm hrcver, hmem x hx, hr', ht]
  have hin : x ∈ before ++ r :: after := by
    rw [List.mem_append, List.mem_cons]
    exact (List.mem_append.mp (hsub x hx)).imp_right Or.inr
  have hiff := iff_of_eq (congrArg (x ∈ ·) hlists)
  dsimp only at hiff
  rw [List.mem_filter, List.mem_filter, hx', Bool.not_not, and_iff_right hx, and_iff_right hin] at hiff
  cases hmx : matching nif mem n x <;> simp [hmx] at hiff

theorem Delivers.receiverLast (h : Delivers nif mem n l) (hnodup : l.Nodup) : ReceiverLast mem n l := by
  intro hd hs hm r hr hrcver
  obtain ⟨before, after, rfl⟩ := List.append_of_mem hr
  have hleft := h.nobody_left hnodup hd hs hm hrcver
  obtain rfl : after = [] := List.eq_nil_iff_forall_not_mem.mpr fun x hx => hleft x (List.mem_append_right _ hx)
  refine ⟨List.getLast?_concat, fun a ha => ?_⟩
  have hmatch : matching nif mem n a = true := by
    by_contra hno
    rcases List.mem_append.mp ha with ha | ha
    · exact hleft a (List.mem_append_left _ (List.mem_filter.mpr ⟨ha, by simpa using hno⟩))
    · rw [List.mem_singleton.mp ha, matching_rcver hs hm hrcver] at hno
      exact hno (equals_self _)
  rwa [matching_rcver hs hm hrcver] at hmatch

end

structure ObjectList where
  addrs : List Nat
  nodup : addrs.Nodup

/-- Everyone is told and deleted as they should be, exactly if the receiver is not compared with after its end. -/
theorem notify_subscribers_iff {S : Type} [SubscriberKind S] (nif : Nif) (mem : Objects S) (n : Notification Nat)
    (l : ObjectList) : Delivers nif mem n l.addrs ↔ ReceiverLast mem n l.addrs :=
  ⟨fun h => h.receiverLast l.nodup, fun h => h.delivers l.nodup⟩

/-- The subscriber at 1 leaves, while another is on the list behind it. -/
theorem freed_receiver_compared :
    ¬∀ (nif : Nif) (mem : Objects ATLSubscriber) (n : Notification Nat) (l : ObjectList),
      Delivers nif mem n l.addrs := by
  intro h
  have hlast := (h ⟨0, none, 0⟩ (fun a => ⟨UInt32.ofNat a, false⟩) ⟨some 1, none, .unsubscribe, true⟩
    ⟨[1, 2], by decide⟩).receiverLast (by decide)
  have hreceiver := (hlast rfl (by decide) (by decide) 1 (by decide) rfl).1
  exact absurd hreceiver (by decide)

end Wt88047.Agps
