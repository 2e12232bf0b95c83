import Wt88047.Gps.LocHeap
import Mathlib.Data.List.Induction

/-! The heap keeps its sizes and its order, and is a priority queue. -/

namespace Wt88047.Loc

open LocRankable PriorityQueue

variable {α : Type}

namespace LocHeapNode

def elems : LocHeapNode α → Multiset α
  | null => 0
  | node _ left data right => data ::ₘ (left.elems + right.elems)

def Sized : LocHeapNode α → Prop
  | null => True
  | node size left _ right =>
    size = left.elems.card + right.elems.card + 1 ∧ left.Sized ∧ right.Sized

variable [LocRankable α]

def Ordered : LocHeapNode α → Prop
  | null => True
  | node _ left data right =>
    (∀ a ∈ left.mData, outRanks a data = false) ∧ (∀ b ∈ right.mData, outRanks b data = false) ∧
      left.Ordered ∧ right.Ordered

def Below (data : α) (t : LocHeapNode α) : Prop := ∀ a ∈ t.elems, outRanks a data = false

omit [LocRankable α] in
theorem Sized.mSize_eq {t : LocHeapNode α} (h : t.Sized) : t.mSize = t.elems.card := by
  cases t with
  | null => rfl
  | node size left data right =>
    have hs : size = left.elems.card + right.elems.card + 1 := h.1
    simp only [mSize, elems, Multiset.card_cons, Multiset.card_add]
    omega

theorem push_cases (data : α) (size : Int) (left : LocHeapNode α) (top : α)
    (right : LocHeapNode α) :
    ∃ high low, (outRanks data top = true ∧ high = data ∧ low = top ∨
        outRanks data top = false ∧ high = top ∧ low = data) ∧
      (push data (node size left top right) = node (size + 1) (push low left) high right ∨
        push data (node size left top right) = node (size + 1) left high (push low right)) := by
  refine ⟨if outRanks data top then data else top, if outRanks data top then top else data, ?_, ?_⟩
  · cases h : outRanks data top with
    | true => exact Or.inl ⟨rfl, rfl, rfl⟩
    | false => exact Or.inr ⟨rfl, rfl, rfl⟩
  · cases left with
    | null => exact Or.inl rfl
    | node m l d r => cases right with
      | null => exact Or.inr rfl
      | node m' l' d' r' =>
        by_cases hle : (node m l d r).mSize ≤ (node m' l' d' r').mSize
        · exact Or.inl (if_pos hle)
        · exact Or.inr (if_neg hle)

theorem elems_push (data : α) (t : LocHeapNode α) : (push data t).elems = data ::ₘ t.elems := by
  induction t generalizing data with
  | null => rfl
  | node size left top right ihl ihr =>
    obtain ⟨high, low, hlow, hpush⟩ := push_cases data size left top right
    have hswap : high ::ₘ low ::ₘ (left.elems + right.elems) =
        data ::ₘ top ::ₘ (left.elems + right.elems) := by
      rcases hlow with ⟨-, rfl, rfl⟩ | ⟨-, rfl, rfl⟩
      · rfl
      · exact Multiset.cons_swap ..
    rcases hpush with h | h
    · rw [h, elems, ihl, Multiset.cons_add, hswap, elems]
    · rw [h, elems, ihr, Multiset.add_cons, hswap, elems]

theorem sized_push (data : α) {t : LocHeapNode α} (h : t.Sized) : (push data t).Sized := by
  induction t generalizing data with
  | null => exact ⟨rfl, trivial, trivial⟩
  | node size left top right ihl ihr =>
    obtain ⟨hs, hl, hr⟩ := h
    obtain ⟨high, low, -, hpush⟩ := push_cases data size left top right
    rcases hpush with h | h
    · rw [h]
      refine ⟨?_, ihl low hl, hr⟩
      rw [elems_push, Multiset.card_cons]
      omega
    · rw [h]
      refine ⟨?_, hl, ihr low hr⟩
      rw [elems_push, Multiset.card_cons]
      omega

theorem popNode_cases (data : α) (size : Int) (left : LocHeapNode α) (top : α)
    (right : LocHeapNode α) :
    (left = null ∧ right = null ∧ popNode data (node size left top right) = (data, null)) ∨
      (∃ a, left.mData = some a ∧ (∀ b ∈ right.mData, outRanks a b = true) ∧
        popNode data (node size left top right) =
          ((popNode data left).1, node (size - 1) (popNode data left).2 a right)) ∨
      ∃ b, right.mData = some b ∧ (∀ a ∈ left.mData, outRanks a b = false) ∧
        popNode data (node size left top right) =
          ((popNode data right).1, node (size - 1) left b (popNode data right).2) := by
  cases left with
  | null => cases right with
    | null => exact Or.inl ⟨rfl, rfl, rfl⟩
    | node _ _ b _ => exact Or.inr (Or.inr ⟨b, rfl, by simp [mData], rfl⟩)
  | node _ _ a _ => cases right with
    | null => exact Or.inr (Or.inl ⟨a, rfl, by simp [mData], rfl⟩)
    | node _ _ b _ =>
      cases h : outRanks a b with
      | true =>
        refine Or.inr (Or.inl ⟨a, rfl, by simp [mData, h], ?_⟩)
        rw [popNode]
        simp only [subTop, h, if_true]
      | false =>
        refine Or.inr (Or.inr ⟨b, rfl, by simp [mData, h], ?_⟩)
        rw [popNode]
        simp [subTop, h]

theorem popNode_fst (data : α) (t : LocHeapNode α) : (popNode data t).1 = data := by
  induction t with
  | null => rfl
  | node size left top right ihl ihr =>
    rcases popNode_cases data size left top right with ⟨-, -, h⟩ | ⟨a, -, -, h⟩ | ⟨b, -, -, h⟩
    · rw [h]
    · rw [h]
      exact ihl
    · rw [h]
      exact ihr

theorem elems_popNode (data : α) {t : LocHeapNode α} {top : α} (ht : t.mData = some top) :
    top ::ₘ (popNode data t).2.elems = t.elems := by
  induction t generalizing top with
  | null => cases ht
  | node size left d right ihl ihr =>
    have hd : d = top := Option.some.inj ht
    subst hd
    rcases popNode_cases data size left d right with ⟨rfl, rfl, h⟩ | ⟨a, ha, -, h⟩ | ⟨b, hb, -, h⟩
    · rw [h]
      rfl
    · rw [h]
      simp only [elems]
      rw [← Multiset.cons_add, ihl ha]
    · rw [h]
      simp only [elems]
      rw [← Multiset.add_cons, ihr hb]

theorem sized_popNode (data : α) {t : LocHeapNode α} (h : t.Sized) :
    (popNode data t).2.Sized := by
  induction t with
  | null => trivial
  | node size left top right ihl ihr =>
    obtain ⟨hs, hl, hr⟩ := h
    rcases popNode_cases data size left top right with ⟨-, -, h⟩ | ⟨a, ha, -, h⟩ | ⟨b, hb, -, h⟩
    · rw [h]
      trivial
    · rw [h]
      refine ⟨?_, ihl hl, hr⟩
      have hcard := congrArg Multiset.card (elems_popNode data ha)
      rw [Multiset.card_cons] at hcard
      omega
    · rw [h]
      refine ⟨?_, hl, ihr hr⟩
      have hcard := congrArg Multiset.card (elems_popNode data hb)
      rw [Multiset.card_cons] at hcard
      omega

theorem elems_pop {t : LocHeapNode α} {x : α} (h : t.pop.1 = some x) :
    t.mData = some x ∧ x ::ₘ t.pop.2.elems = t.elems := by
  cases t with
  | null => cases h
  | node size left top right =>
    have hx : top = x := (popNode_fst top (node size left top right)).symm.trans (Option.some.inj h)
    subst hx
    exact ⟨rfl, elems_popNode top rfl⟩

theorem sized_pop {t : LocHeapNode α} (h : t.Sized) : t.pop.2.Sized := by
  cases t with
  | null => trivial
  | node size left top right => exact sized_popNode top h

section Remove

variable [DecidableEq α]

theorem remove_cases {x top : α} (hne : x ≠ top) (size : Int) (left right : LocHeapNode α) :
    (remove x (node size left top right) = (none, node size left top right) ∧
        outRanks x top = true) ∨
      ∃ removed, remove x (node size left top right) =
          (removed, node (if removed.isSome then size - 1 else size) (remove x left).2 top
            (if (remove x left).1.isNone then (remove x right).2 else right)) ∧
        removed = if (remove x left).1.isNone then (remove x right).1 else (remove x left).1 := by
  cases h : outRanks x top with
  | true => exact Or.inl ⟨by simp [remove, hne, h], rfl⟩
  | false =>
    refine Or.inr ⟨_, ?_, rfl⟩
    cases hl : (remove x left).1 with
    | none => simp [remove, hne, h, hl]
    | some y => simp [remove, hne, h, hl]

theorem remove_spec (x : α) (t : LocHeapNode α) :
    ((remove x t).1 = none ∧ (remove x t).2 = t) ∨
      ((remove x t).1 = some x ∧ x ::ₘ (remove x t).2.elems = t.elems) := by
  induction t with
  | null => exact Or.inl ⟨rfl, rfl⟩
  | node size left top right ihl ihr =>
    by_cases hx : x = top
    · subst hx
      have hpop : remove x (node size left x right) = pop (node size left x right) := by
        simp [remove]
      rw [hpop]
      have hfst : (pop (node size left x right)).1 = some x := by
        rw [pop]
        exact congrArg some (popNode_fst x _)
      exact Or.inr ⟨hfst, (elems_pop hfst).2⟩
    · rcases remove_cases hx size left right with ⟨h, -⟩ | ⟨removed, h, hr⟩
      · rw [h]
        exact Or.inl ⟨rfl, rfl⟩
      · rw [h]
        rcases ihl with ⟨hl1, hl2⟩ | ⟨hl1, hl2⟩
        · rw [hl1] at hr
          rcases ihr with ⟨hr1, hr2⟩ | ⟨hr1, hr2⟩
          · refine Or.inl ⟨hr.trans hr1, ?_⟩
            have hnone : removed = none := hr.trans hr1
            simp [hnone, hl1, hl2, hr2]
          · refine Or.inr ⟨hr.trans hr1, ?_⟩
            simp only [hl1, hl2, elems, Option.isNone_none, if_true]
            rw [Multiset.cons_swap, ← Multiset.add_cons, hr2]
        · rw [hl1] at hr
          refine Or.inr ⟨hr, ?_⟩
          simp only [hl1, elems, Option.isNone_some, if_false, Bool.false_eq_true]
          rw [Multiset.cons_swap, ← Multiset.cons_add, hl2]

theorem sized_remove (x : α) {t : LocHeapNode α} (h : t.Sized) : (remove x t).2.Sized := by
  induction t with
  | null => trivial
  | node size left top right ihl ihr =>
    obtain ⟨hs, hl, hr⟩ := h
    by_cases hx : x = top
    · subst hx
      have hpop : remove x (node size left x right) = pop (node size left x right) := by
        simp [remove]
      rw [hpop]
      exact sized_pop ⟨hs, hl, hr⟩
    · rcases remove_cases hx size left right with ⟨h, -⟩ | ⟨removed, h, hrem⟩
      · rw [h]
        exact ⟨hs, hl, hr⟩
      · rw [h]
        rcases remove_spec x left with ⟨hl1, hl2⟩ | ⟨hl1, hl2⟩
        · rw [hl1] at hrem
          rcases remove_spec x right with ⟨hr1, hr2⟩ | ⟨hr1, hr2⟩
          · have hnone : removed = none := hrem.trans hr1
            simp only [hnone, hl1, hl2, hr2]
            exact ⟨hs, hl, hr⟩
          · have hsome : removed = some x := hrem.trans hr1
            simp only [hsome, hl1, hl2, Option.isNone_none, Option.isSome_some, if_true]
            have hcard := congrArg Multiset.card hr2
            rw [Multiset.card_cons] at hcard
            have hsize : size - 1 = left.elems.card + (remove x right).2.elems.card + 1 := by omega
            exact ⟨hsize, hl, ihr hr⟩
        · have hsome : removed = some x := by
            rw [hl1] at hrem
            exact hrem
          simp only [hsome, hl1, Option.isNone_some, Option.isSome_some, if_true, if_false,
            Bool.false_eq_true]
          have hcard := congrArg Multiset.card hl2
          rw [Multiset.card_cons] at hcard
          have hsize : size - 1 = (remove x left).2.elems.card + right.elems.card + 1 := by omega
          exact ⟨hsize, ihl hl, hr⟩

theorem mData_remove {x top : α} {t : LocHeapNode α} (ht : t.mData = some top) (hne : x ≠ top) :
    (remove x t).2.mData = some top := by
  cases t with
  | null => cases ht
  | node size left d right =>
    have hd : d = top := Option.some.inj ht
    subst hd
    rcases remove_cases hne size left right with ⟨h, -⟩ | ⟨removed, h, -⟩
    · rw [h]
      rfl
    · rw [h]
      rfl

end Remove

theorem mData_push (x : α) (t : LocHeapNode α) :
    (push x t).mData = some x ∧ (∀ top ∈ t.mData, outRanks x top = true) ∨
      (push x t).mData = t.mData ∧ ∃ top ∈ t.mData, outRanks x top = false := by
  cases t with
  | null => exact Or.inl ⟨rfl, by simp [mData]⟩
  | node size left top right =>
    obtain ⟨high, low, hlow, hpush⟩ := push_cases x size left top right
    have hdata : (push x (node size left top right)).mData = some high := by
      rcases hpush with h | h <;> rw [h] <;> rfl
    rcases hlow with ⟨h, rfl, rfl⟩ | ⟨h, rfl, rfl⟩
    · exact Or.inl ⟨hdata, by simpa [mData] using h⟩
    · exact Or.inr ⟨hdata, high, rfl, h⟩

section Order

-- The ranking is a total preorder.
variable [Std.Total (AtLeast (outRanks (α := α)))] [IsTrans α (AtLeast outRanks)]

omit [IsTrans α (AtLeast outRanks)] in
theorem not_outRanks_of {a b : α} (h : outRanks a b = true) : outRanks b a = false := by
  rcases Std.Total.total (r := AtLeast outRanks) a b with hab | hba
  · exact hab
  · have hba' : outRanks a b = false := hba
    rw [h] at hba'
    cases hba'

omit [IsTrans α (AtLeast outRanks)] in
theorem not_outRanks_self (a : α) : outRanks a a = false := by
  rcases Std.Total.total (r := AtLeast outRanks) a a with h | h <;> exact h

omit [Std.Total (AtLeast (outRanks (α := α)))] in
theorem not_outRanks_trans {a b c : α} (hab : outRanks b a = false) (hbc : outRanks c b = false) :
    outRanks c a = false :=
  IsTrans.trans (r := AtLeast outRanks) a b c hab hbc

theorem Ordered.below {t : LocHeapNode α} {top : α} (h : t.Ordered) (ht : t.mData = some top) :
    t.Below top := by
  induction t generalizing top with
  | null => cases ht
  | node size left d right ihl ihr =>
    obtain ⟨hleft, hright, hl, hr⟩ := h
    have hd : d = top := Option.some.inj ht
    subst hd
    intro x hx
    have hsub : ∀ {s : LocHeapNode α}, (∀ a ∈ s.mData, outRanks a d = false) →
        (∀ {a}, s.mData = some a → s.Below a) → x ∈ s.elems → outRanks x d = false := by
      intro s htop hbelow hmem
      cases s with
      | null => simp [elems] at hmem
      | node m l a r => exact not_outRanks_trans (htop a rfl) (hbelow rfl x hmem)
    simp only [elems, Multiset.mem_cons, Multiset.mem_add] at hx
    rcases hx with rfl | hx | hx
    · exact not_outRanks_self x
    · exact hsub hleft (ihl hl) hx
    · exact hsub hright (ihr hr) hx

theorem ordered_push (x : α) {t : LocHeapNode α} (h : t.Ordered) : (push x t).Ordered := by
  induction t generalizing x with
  | null => exact ⟨by simp [mData], by simp [mData], trivial, trivial⟩
  | node size left top right ihl ihr =>
    obtain ⟨hleft, hright, hl, hr⟩ := h
    obtain ⟨high, low, hlow, hpush⟩ := push_cases x size left top right
    have hlh : outRanks low high = false := by
      rcases hlow with ⟨h, rfl, rfl⟩ | ⟨h, rfl, rfl⟩
      · exact not_outRanks_of h
      · exact h
    have hth : outRanks top high = false := by
      rcases hlow with ⟨h, rfl, rfl⟩ | ⟨h, rfl, rfl⟩
      · exact not_outRanks_of h
      · exact not_outRanks_self _
    have hchild : ∀ {s : LocHeapNode α}, (∀ a ∈ s.mData, outRanks a top = false) →
        ∀ a ∈ s.mData, outRanks a high = false := fun hs a ha => not_outRanks_trans hth (hs a ha)
    have hnew : ∀ {s : LocHeapNode α}, (∀ a ∈ s.mData, outRanks a top = false) →
        ∀ a ∈ (push low s).mData, outRanks a high = false := by
      intro s hs a ha
      rcases mData_push low s with ⟨hd, -⟩ | ⟨hd, -⟩
      · rw [hd] at ha
        obtain rfl := Option.mem_some_iff.mp ha
        exact hlh
      · rw [hd] at ha
        exact hchild hs a ha
    rcases hpush with h | h
    · rw [h]
      exact ⟨hnew hleft, hchild hright, ihl low hl, hr⟩
    · rw [h]
      exact ⟨hchild hleft, hnew hright, hl, ihr low hr⟩

omit [Std.Total (AtLeast (outRanks (α := α)))] [IsTrans α (AtLeast outRanks)]
  [LocRankable α] in
theorem mem_of_mData {t : LocHeapNode α} {a : α} (h : a ∈ t.mData) : a ∈ t.elems := by
  cases t with
  | null => cases h
  | node size left d right =>
    have hd : d = a := Option.some.inj h
    simp [elems, hd]

omit [Std.Total (AtLeast (outRanks (α := α)))] [IsTrans α (AtLeast outRanks)] in
theorem mem_of_popNode {x a : α} {t : LocHeapNode α} (h : a ∈ (popNode x t).2.elems) :
    a ∈ t.elems := by
  cases ht : t.mData with
  | none =>
    cases t with
    | null => exact h
    | node => cases ht
  | some top =>
    rw [← elems_popNode x ht]
    exact Multiset.mem_cons_of_mem h

theorem ordered_popNode (x : α) {t : LocHeapNode α} (h : t.Ordered) :
    (popNode x t).2.Ordered := by
  induction t with
  | null => trivial
  | node size left top right ihl ihr =>
    obtain ⟨-, -, hl, hr⟩ := h
    rcases popNode_cases x size left top right with ⟨-, -, h⟩ | ⟨a, ha, hab, h⟩ | ⟨b, hb, hab, h⟩
    · rw [h]
      trivial
    · rw [h]
      have hrest : ∀ c ∈ (popNode x left).2.mData, outRanks c a = false := fun c hc =>
        hl.below ha c (mem_of_popNode (mem_of_mData hc))
      exact ⟨hrest, fun b hb => not_outRanks_of (hab b hb), ihl hl, hr⟩
    · rw [h]
      have hrest : ∀ c ∈ (popNode x right).2.mData, outRanks c b = false := fun c hc =>
        hr.below hb c (mem_of_popNode (mem_of_mData hc))
      exact ⟨hab, hrest, hl, ihr hr⟩

theorem ordered_pop {t : LocHeapNode α} (h : t.Ordered) : t.pop.2.Ordered := by
  cases t with
  | null => trivial
  | node size left top right => exact ordered_popNode top h

variable [DecidableEq α]

omit [Std.Total (AtLeast (outRanks (α := α)))] [IsTrans α (AtLeast outRanks)] in
theorem mem_of_remove {x a : α} {t : LocHeapNode α} (h : a ∈ (remove x t).2.elems) :
    a ∈ t.elems := by
  rcases remove_spec x t with ⟨-, ht⟩ | ⟨-, ht⟩
  · rwa [ht] at h
  · rw [← ht]
    exact Multiset.mem_cons_of_mem h

theorem ordered_remove (x : α) {t : LocHeapNode α} (h : t.Ordered) :
    (remove x t).2.Ordered := by
  induction t with
  | null => trivial
  | node size left top right ihl ihr =>
    by_cases hx : x = top
    · subst hx
      have hpop : remove x (node size left x right) = pop (node size left x right) := by
        simp [remove]
      rw [hpop]
      exact ordered_pop h
    · have hbelow := h.below rfl
      obtain ⟨hleft, hright, hl, hr⟩ := h
      rcases remove_cases hx size left right with ⟨h, -⟩ | ⟨removed, h, -⟩
      · rw [h]
        exact ⟨hleft, hright, hl, hr⟩
      · rw [h]
        have hl' : ∀ a ∈ (remove x left).2.mData, outRanks a top = false := fun a ha => by
          apply hbelow
          simp [elems, mem_of_remove (mem_of_mData ha)]
        have hr' : ∀ a ∈ (remove x right).2.mData, outRanks a top = false := fun a ha => by
          apply hbelow
          simp [elems, mem_of_remove (mem_of_mData ha)]
        cases (remove x left).1.isNone with
        | true => exact ⟨hl', hr', ihl hl, ihr hr⟩
        | false => exact ⟨hl', hright, ihl hl, hr⟩

theorem remove_found {x : α} {t : LocHeapNode α} (h : t.Ordered) (hx : x ∈ t.elems) :
    (remove x t).1 = some x := by
  induction t with
  | null => simp [elems] at hx
  | node size left top right ihl ihr =>
    by_cases hxt : x = top
    · subst hxt
      have hpop : remove x (node size left x right) = pop (node size left x right) := by
        simp [remove]
      rw [hpop, pop]
      exact congrArg some (popNode_fst x _)
    · have hbelow := h.below rfl x hx
      obtain ⟨-, -, hl, hr⟩ := h
      rcases remove_cases hxt size left right with ⟨-, hout⟩ | ⟨removed, h, hrem⟩
      · rw [hout] at hbelow
        cases hbelow
      · rw [h]
        simp only [elems, Multiset.mem_cons, Multiset.mem_add, hxt, false_or] at hx
        by_cases hxl : x ∈ left.elems
        · rw [ihl hl hxl] at hrem
          exact hrem
        · have hxr := ihr hr (hx.resolve_left hxl)
          rcases remove_spec x left with ⟨hl1, -⟩ | ⟨-, hl2⟩
          · rw [hl1, hxr] at hrem
            exact hrem
          · exact absurd (hl2 ▸ Multiset.mem_cons_self ..) hxl

end Order

theorem checkNodes_iff {t : LocHeapNode α} : t.checkNodes = true ↔ t.Sized ∧ t.Ordered := by
  induction t with
  | null => exact ⟨fun _ => ⟨trivial, trivial⟩, fun _ => rfl⟩
  | node size left top right ihl ihr =>
    have hall : ∀ s : LocHeapNode α, (s.mData.all fun a => !outRanks a top) = true ↔
        ∀ a ∈ s.mData, outRanks a top = false := by
      intro s
      cases s.mData <;> simp
    simp only [checkNodes, Bool.and_eq_true, hall, ihl, ihr, beq_iff_eq]
    constructor
    · rintro ⟨⟨⟨⟨hleft, hsl, hol⟩, hright⟩, hsr, hor⟩, hsize⟩
      rw [hsl.mSize_eq, hsr.mSize_eq] at hsize
      exact ⟨⟨by omega, hsl, hsr⟩, hleft, hright, hol, hor⟩
    · rintro ⟨⟨hsize, hsl, hsr⟩, hleft, hright, hol, hor⟩
      refine ⟨⟨⟨⟨hleft, hsl, hol⟩, hright⟩, hsr, hor⟩, ?_⟩
      rw [hsl.mSize_eq, hsr.mSize_eq]
      omega

end LocHeapNode

namespace LocHeap

def elems (heap : LocHeap α) : Multiset α := heap.mTree.elems

structure WellFormed [LocRankable α] (heap : LocHeap α) : Prop where
  sized : heap.mTree.Sized
  ordered : heap.mTree.Ordered

variable [LocRankable α]

theorem wellFormed_empty : (empty : LocHeap α).WellFormed := ⟨trivial, trivial⟩

omit [LocRankable α] in
theorem peek_none {heap : LocHeap α} : heap.peek = none ↔ heap.elems = 0 := by
  obtain ⟨tree⟩ := heap
  cases tree with
  | null => simp [peek, elems, LocHeapNode.mData, LocHeapNode.elems]
  | node => simp [peek, elems, LocHeapNode.mData, LocHeapNode.elems]

theorem pop_peek (heap : LocHeap α) : heap.pop.1 = heap.peek := by
  obtain ⟨tree⟩ := heap
  cases tree with
  | null => rfl
  | node size left top right => exact congrArg some (LocHeapNode.popNode_fst top _)

section Order

variable [Std.Total (AtLeast (outRanks (α := α)))] [IsTrans α (AtLeast outRanks)]

theorem peek_isTop {heap : LocHeap α} (h : heap.WellFormed) {x : α} (hx : heap.peek = some x) :
    IsTop outRanks heap.elems x :=
  ⟨LocHeapNode.mem_of_mData hx, h.ordered.below hx⟩

theorem push_refines (x : α) {heap : LocHeap α} (h : heap.WellFormed) :
    (heap.push x).WellFormed ∧ Step outRanks heap.elems (.push x) none (heap.push x).elems := by
  refine ⟨⟨LocHeapNode.sized_push x h.sized, LocHeapNode.ordered_push x h.ordered⟩, ?_⟩
  have helems : (heap.push x).elems = x ::ₘ heap.elems := LocHeapNode.elems_push x heap.mTree
  rw [helems]
  exact .push

theorem pop_refines {heap : LocHeap α} (h : heap.WellFormed) :
    heap.pop.2.WellFormed ∧ Step outRanks heap.elems .pop heap.pop.1 heap.pop.2.elems := by
  refine ⟨⟨LocHeapNode.sized_pop h.sized, LocHeapNode.ordered_pop h.ordered⟩, ?_⟩
  cases hx : heap.pop.1 with
  | none =>
    rw [pop_peek, peek_none] at hx
    have hnull : heap.mTree = .null := by
      cases ht : heap.mTree with
      | null => rfl
      | node => simp [elems, ht, LocHeapNode.elems] at hx
    have hpop : heap.pop.2.elems = 0 := by
      simp [pop, elems, hnull, LocHeapNode.pop, LocHeapNode.elems]
    rw [hx, hpop]
    exact .popEmpty
  | some x =>
    have hrest := (LocHeapNode.elems_pop hx).2
    rw [pop_peek] at hx
    exact .pop hrest.symm (peek_isTop h hx)

variable [DecidableEq α]

theorem remove_refines (x : α) {heap : LocHeap α} (h : heap.WellFormed) :
    (heap.remove x).2.WellFormed ∧
      Step outRanks heap.elems (.remove x) (heap.remove x).1 (heap.remove x).2.elems := by
  refine ⟨⟨LocHeapNode.sized_remove x h.sized, LocHeapNode.ordered_remove x h.ordered⟩, ?_⟩
  rcases LocHeapNode.remove_spec x heap.mTree with ⟨h1, h2⟩ | ⟨h1, h2⟩
  · have hmissing : x ∉ heap.elems := by
      intro hx
      rw [LocHeapNode.remove_found h.ordered hx] at h1
      cases h1
    have hanswer : (heap.remove x).1 = none := h1
    have hsame : (heap.remove x).2.elems = heap.elems := congrArg LocHeapNode.elems h2
    rw [hanswer, hsame]
    exact .removeMissing hmissing
  · have hanswer : (heap.remove x).1 = some x := h1
    rw [hanswer]
    exact .remove h2.symm

end Order

section Runs

variable [DecidableEq α]

def step (heap : LocHeap α) : Op α → Option α × LocHeap α
  | .push x => (none, heap.push x)
  | .pop => heap.pop
  | .remove x => heap.remove x

def run (ops : List (Op α)) : List (Option α) × LocHeap α :=
  ops.foldl (fun r op => (r.1 ++ [(step r.2 op).1], (step r.2 op).2)) ([], empty)

variable [Std.Total (AtLeast (outRanks (α := α)))] [IsTrans α (AtLeast outRanks)]

theorem step_refines {heap : LocHeap α} (h : heap.WellFormed) (op : Op α) :
    (step heap op).2.WellFormed ∧
      Step outRanks heap.elems op (step heap op).1 (step heap op).2.elems := by
  cases op with
  | push x => exact push_refines x h
  | pop => exact pop_refines h
  | remove x => exact remove_refines x h

theorem run_refines (ops : List (Op α)) : (run ops).2.WellFormed ∧
    Run outRanks ops (run ops).1 (run ops).2.elems := by
  induction ops using List.reverseRecOn with
  | nil => exact ⟨wellFormed_empty, .nil⟩
  | append_singleton ops op ih =>
    have hlast := step_refines ih.1 op
    simp only [run, List.foldl_append, List.foldl_cons, List.foldl_nil] at ih hlast ⊢
    exact ⟨hlast.1, .snoc ih.2 hlast.2⟩

/-- Any ranking that is a total preorder, and any sequence of operations: every answer is one of
a priority queue, and the heap holds what was pushed and not returned. -/
theorem priority_queue (ops : List (Op α)) :
    let heap := (run ops).2
    heap.mTree.Sized ∧ heap.mTree.Ordered ∧ heap.checkTree = true ∧
      heap.elems + returned (run ops).1 = pushed ops ∧
      (heap.pop.1 = none ↔ heap.elems = 0) ∧
      (∀ x, heap.pop.1 = some x → IsTop outRanks heap.elems x ∧
        x ::ₘ heap.pop.2.elems = heap.elems) ∧
      (∀ x, x ∈ heap.elems → (heap.remove x).1 = some x ∧
        x ::ₘ (heap.remove x).2.elems = heap.elems) ∧
      ∀ x, x ∉ heap.elems → heap.remove x = (none, heap) := by
  intro heap
  obtain ⟨hwf, hrun⟩ := run_refines ops
  refine ⟨hwf.sized, hwf.ordered, LocHeapNode.checkNodes_iff.mpr ⟨hwf.sized, hwf.ordered⟩,
    hrun.balance, ?_, ?_, ?_, ?_⟩
  · rw [pop_peek, peek_none]
  · intro x hx
    have hrest := (LocHeapNode.elems_pop hx).2
    rw [pop_peek] at hx
    exact ⟨peek_isTop hwf hx, hrest⟩
  · intro x hx
    rcases LocHeapNode.remove_spec x heap.mTree with ⟨h1, -⟩ | ⟨h1, h2⟩
    · rw [LocHeapNode.remove_found hwf.ordered hx] at h1
      cases h1
    · exact ⟨h1, h2⟩
  · intro x hx
    rcases LocHeapNode.remove_spec x heap.mTree with ⟨h1, h2⟩ | ⟨-, h2⟩
    · have hsame : (heap.remove x).2 = heap := congrArg LocHeap.mk h2
      exact Prod.ext h1 hsame
    · have hmem : x ∈ heap.elems := by
        have := Multiset.mem_cons_self x (LocHeapNode.remove x heap.mTree).2.elems
        rwa [h2] at this
      exact absurd hmem hx

end Runs

end LocHeap

/-- The data of the heap's own test, ranked by `mID` with the smaller one first. -/
structure LocHeapDebugData where
  address : Nat
  mID : Int
  deriving DecidableEq

namespace LocHeapDebugData

instance : LocRankable LocHeapDebugData where
  ranks a b := b.mID - a.mID

theorem atLeast_iff {a b : LocHeapDebugData} : AtLeast outRanks a b ↔ a.mID ≤ b.mID := by
  have hranks : ranks b a = a.mID - b.mID := rfl
  simp only [AtLeast, outRanks, hranks, gt_iff_lt, decide_eq_false_iff_not]
  omega

instance : Std.Total (AtLeast (outRanks (α := LocHeapDebugData))) where
  total a b := by
    simp only [atLeast_iff]
    omega

instance : IsTrans LocHeapDebugData (AtLeast outRanks) where
  trans a b c hab hbc := by
    rw [atLeast_iff] at *
    omega

end LocHeapDebugData

/-- The second of two equals leaves before the first. -/
theorem LocHeap.priority_queue_ties :
    let ops : List (Op LocHeapDebugData) :=
      [.push ⟨0, 3⟩, .push ⟨1, 1⟩, .push ⟨2, 1⟩, .remove ⟨2, 1⟩]
    (LocHeap.run ops).2.checkTree = true ∧
      (LocHeap.run ops).2.elems + returned (LocHeap.run ops).1 = pushed ops :=
  let h := LocHeap.priority_queue (α := LocHeapDebugData)
    [.push ⟨0, 3⟩, .push ⟨1, 1⟩, .push ⟨2, 1⟩, .remove ⟨2, 1⟩]
  ⟨h.2.2.1, h.2.2.2.1⟩

end Wt88047.Loc
