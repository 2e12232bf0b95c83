import Wt88047.Lib.LinkedRing

/-! The lists of nodes with a dummy head in which the camera keeps its queues, in the memory that the nodes are
allocated in. -/

namespace Wt88047.CamList

open LinkedRing

abbrev Addr := Nat

def head : Addr := 0

structure Heap (α : Type) where
  live : List Addr
  links : Links Addr
  data : Addr → α

variable {α : Type}

def Valid (live : List Addr) (p : Addr) : Prop := p = head ∨ p ∈ live

instance (live : List Addr) (p : Addr) : Decidable (Valid live p) := inferInstanceAs (Decidable (_ ∨ _))

namespace Heap

def readNext (m : Heap α) (p : Addr) : Option Addr := if Valid m.live p then some (m.links.next p) else none

def readPrev (m : Heap α) (p : Addr) : Option Addr := if Valid m.live p then some (m.links.prev p) else none

def readData (m : Heap α) (p : Addr) : Option α := if p ∈ m.live then some (m.data p) else none

def writeNext (m : Heap α) (p v : Addr) : Option (Heap α) :=
  if Valid m.live p then some { m with links := m.links.setNext p v } else none

def writePrev (m : Heap α) (p v : Addr) : Option (Heap α) :=
  if Valid m.live p then some { m with links := m.links.setPrev p v } else none

def alloc (m : Heap α) (p : Addr) (data : α) : Heap α :=
  { m with live := p :: m.live, data := fun n => if n = p then data else m.data n }

def free (m : Heap α) (p : Addr) : Option (Heap α) :=
  if p ∈ m.live then some { m with live := m.live.erase p } else none

def Fresh (m : Heap α) (p : Addr) : Prop := p ≠ head ∧ p ∉ m.live

instance (m : Heap α) (p : Addr) : Decidable (m.Fresh p) := inferInstanceAs (Decidable (_ ∧ _))

def init (data : α) : Heap α := ⟨[], ⟨fun _ => head, fun _ => head⟩, fun _ => data⟩

def addTailNode (m : Heap α) (item head : Addr) : Option (Heap α) := do
  let prev ← m.readPrev head
  let m ← m.writePrev head item
  let m ← m.writeNext item head
  let m ← m.writePrev item prev
  m.writeNext prev item

def insertBeforeNode (m : Heap α) (item node : Addr) : Option (Heap α) := do
  let m ← m.writeNext item node
  let prev ← m.readPrev node
  let m ← m.writePrev item prev
  let prev ← m.readPrev item
  let m ← m.writeNext prev item
  m.writePrev node item

def delNode (m : Heap α) (ptr : Addr) : Option (Heap α) := do
  let prev ← m.readPrev ptr
  let next ← m.readNext ptr
  let ptrPrev ← m.readPrev ptr
  let m ← m.writePrev next ptrPrev
  let ptrNext ← m.readNext ptr
  let m ← m.writeNext prev ptrNext
  let m ← m.writeNext ptr ptr
  m.writePrev ptr ptr

end Heap

theorem addTailNode_eq {m : Heap α} {item : Addr} (hitem : Valid m.live item)
    (hprev : Valid m.live (m.links.prev head)) :
    m.addTailNode item head = some { m with
      links := (((m.links.setPrev head item).setNext item head).setPrev item (m.links.prev head)).setNext
        (m.links.prev head) item } := by
  have hhead : Valid m.live head := .inl rfl
  simp [Heap.addTailNode, Heap.readPrev, Heap.writePrev, Heap.writeNext, hhead, hitem, hprev]

theorem insertBeforeNode_eq {m : Heap α} {item node : Addr} (hitem : Valid m.live item) (hnode : Valid m.live node)
    (hprev : Valid m.live (m.links.prev node)) :
    m.insertBeforeNode item node = some { m with
      links := (((m.links.setNext item node).setPrev item (m.links.prev node)).setNext
        (m.links.prev node) item).setPrev node item } := by
  simp [Heap.insertBeforeNode, Heap.readPrev, Heap.writePrev, Heap.writeNext, hitem, hnode, hprev]

theorem delNode_eq {m : Heap α} {ptr : Addr} (hptr : Valid m.live ptr) (hprev : Valid m.live (m.links.prev ptr))
    (hnext : Valid m.live (m.links.next ptr)) :
    m.delNode ptr = some { m with
      links := (((m.links.setPrev (m.links.next ptr) (m.links.prev ptr)).setNext (m.links.prev ptr)
        (m.links.next ptr)).setNext ptr ptr).setPrev ptr ptr } := by
  simp [Heap.delNode, Heap.readPrev, Heap.readNext, Heap.writePrev, Heap.writeNext, hptr, hprev, hnext]

structure Heap.Holds (m : Heap α) (nodes : List Addr) : Prop where
  ring : Around m.links head nodes
  live : ∀ n ∈ nodes, n ∈ m.live
  nodup : m.live.Nodup
  apart : head ∉ m.live

namespace Heap.Holds

variable {m : Heap α} {nodes xs ys : List Addr} {p : Addr}

theorem head_not_mem (h : m.Holds nodes) : head ∉ nodes := (List.nodup_cons.mp h.ring.nodup).1

theorem valid (h : m.Holds nodes) {n : Addr} (hn : n ∈ head :: nodes) : Valid m.live n := by
  rcases List.mem_cons.mp hn with rfl | hn
  · exact .inl rfl
  · exact .inr (h.live n hn)

theorem length_le (h : m.Holds nodes) : nodes.length ≤ m.live.length :=
  List.Nodup.length_le_of_subset (List.nodup_cons.mp h.ring.nodup).2 fun n hn => h.live n hn

theorem readNext_head (h : m.Holds nodes) : m.readNext head = some (nodes.headD head) :=
  (if_pos (.inl rfl)).trans (congrArg some h.ring.next_head)

theorem readNext_mem (h : m.Holds (xs ++ p :: ys)) : m.readNext p = some (ys.headD head) :=
  (if_pos (.inr (h.live p (List.mem_append_right xs List.mem_cons_self)))).trans (congrArg some h.ring.next_mem)

theorem readData_mem (h : m.Holds nodes) {n : Addr} (hn : n ∈ nodes) : m.readData n = some (m.data n) :=
  if_pos (h.live n hn)

theorem ne_head (h : m.Holds nodes) {n : Addr} (hn : n ∈ nodes) : n ≠ head := by
  rintro rfl
  exact h.head_not_mem hn

theorem not_mem_of_fresh (h : m.Holds nodes) (hp : m.Fresh p) : p ∉ head :: nodes := by
  rw [List.mem_cons, not_or]
  exact ⟨hp.1, fun hmem => hp.2 (h.live p hmem)⟩

theorem map_alloc (h : m.Holds nodes) (hp : m.Fresh p) (data : α) :
    nodes.map (m.alloc p data).data = nodes.map m.data := by
  refine List.map_congr_left fun n hn => if_neg ?_
  rintro rfl
  exact hp.2 (h.live n hn)

theorem insert (h : m.Holds nodes) (hp : m.Fresh p) {data : α} {links : Links Addr}
    (hring : Around links head (xs ++ p :: ys)) (hnodes : nodes = xs ++ ys) :
    ({ m.alloc p data with links := links } : Heap α).Holds (xs ++ p :: ys) := by
  refine ⟨hring, fun n hn => ?_, List.nodup_cons.mpr ⟨hp.2, h.nodup⟩, ?_⟩
  · rcases List.mem_append.mp hn with hn | hn
    · exact List.mem_cons_of_mem p (h.live n (hnodes ▸ List.mem_append_left ys hn))
    · rcases List.mem_cons.mp hn with rfl | hn
      · exact List.mem_cons_self
      · exact List.mem_cons_of_mem p (h.live n (hnodes ▸ List.mem_append_right xs hn))
  · intro hmem
    rcases List.mem_cons.mp hmem with heq | hmem
    · exact hp.1 heq.symm
    · exact h.apart hmem

theorem add_tail (h : m.Holds nodes) (hp : m.Fresh p) (data : α) :
    ∃ m', (m.alloc p data).addTailNode p head = some m' ∧ m'.Holds (nodes ++ [p]) ∧
      (nodes ++ [p]).map m'.data = nodes.map m.data ++ [data] := by
  have hx := h.not_mem_of_fresh hp
  have hlast : Valid (p :: m.live) (m.links.prev head) :=
    (h.valid (h.ring.prev_head ▸ getLastD_mem nodes head)).imp_right (List.mem_cons_of_mem p)
  refine ⟨_, addTailNode_eq (.inr List.mem_cons_self) hlast,
    @Holds.insert _ _ _ nodes [] _ h hp _ _ (h.ring.append hx (fun n _ => ?_) fun n _ => ?_)
      (List.append_nil nodes).symm, ?_⟩
  · have hne : m.links.prev head ≠ p := fun heq => hx (heq ▸ h.ring.prev_head ▸ getLastD_mem nodes head)
    by_cases hn : n = p
    · simp [hn, alloc, hne.symm]
    · simp [hn, alloc]
  · simp [alloc]
  · rw [List.map_append, h.map_alloc hp]
    simp [alloc]

theorem add_head (h : m.Holds nodes) (hp : m.Fresh p) {data : α} {links : Links Addr}
    (hnext : ∀ n, links.next n = if n = p then m.links.next head else if n = head then p else m.links.next n)
    (hprev : ∀ n, links.prev n = if n = p then head else if n = m.links.next head then p else m.links.prev n) :
    ({ m.alloc p data with links := links } : Heap α).Holds (p :: nodes) ∧
      (p :: nodes).map (m.alloc p data).data = data :: nodes.map m.data := by
  refine ⟨@Holds.insert _ _ _ [] nodes _ h hp _ _
    (h.ring.push (h.not_mem_of_fresh hp) (fun n _ => hnext n) fun n _ => hprev n) rfl, ?_⟩
  rw [List.map_cons, h.map_alloc hp]
  simp [alloc]

theorem insert_before_first (h : m.Holds nodes) (hp : m.Fresh p) (data : α) :
    ∃ m', (m.alloc p data).insertBeforeNode p (m.links.next head) = some m' ∧ m'.Holds (p :: nodes) ∧
      (p :: nodes).map m'.data = data :: nodes.map m.data := by
  have hback := h.ring.prev_next_head
  have hfirst := h.ring.next_head ▸ headD_mem nodes head
  have hnext : Valid (p :: m.live) (m.links.next head) := (h.valid hfirst).imp_right (List.mem_cons_of_mem p)
  have hne : m.links.next head ≠ p := fun heq => h.not_mem_of_fresh hp (heq ▸ hfirst)
  have hinsert := @insertBeforeNode_eq _ (m.alloc p data) p (m.links.next head) (.inr List.mem_cons_self) hnext
    (.inl hback)
  refine ⟨_, hinsert, h.add_head hp (fun n => ?_) fun n => ?_⟩
  · by_cases hn : n = p
    · simp [alloc, hback, hn, hp.1]
    · simp [alloc, hback, hn]
  · by_cases hn : n = p
    · simp [alloc, hback, hn, hne.symm]
    · simp [alloc, hn]

theorem del (h : m.Holds (xs ++ p :: ys)) :
    ∃ m', m.delNode p = some m' ∧ m'.data = m.data ∧ p ∈ m'.live ∧
      ∃ m'', m'.free p = some m'' ∧ m''.Holds (xs ++ ys) ∧ m''.data = m.data ∧ p ∉ m''.live := by
  have hp : p ∈ xs ++ p :: ys := List.mem_append_right xs List.mem_cons_self
  have hsub : ∀ n, n ∈ head :: xs ∨ n ∈ head :: ys → n ∈ head :: (xs ++ p :: ys) := by
    intro n hn
    simp only [List.mem_cons, List.mem_append] at hn ⊢
    tauto
  have hprev := h.valid (hsub _ (.inl (h.ring.prev_mem ▸ getLastD_mem xs head)))
  have hnext := h.valid (hsub _ (.inr (h.ring.next_mem ▸ headD_mem ys head)))
  have hlive := h.live p hp
  refine ⟨_, delNode_eq (.inr hlive) hprev hnext, rfl, hlive, _, if_pos hlive, ⟨?_, fun n hn => ?_, ?_, ?_⟩, rfl, ?_⟩
  · refine h.ring.unlink (fun n hn => ?_) fun n hn => ?_
    · simp [hn]
    · simp [hn]
  · have hne : n ≠ p := by
      rintro rfl
      have hnd := (List.nodup_cons.mp h.ring.nodup).2
      rw [List.nodup_middle, List.nodup_cons] at hnd
      exact hnd.1 hn
    refine (List.mem_erase_of_ne hne).mpr (h.live n ?_)
    rcases List.mem_append.mp hn with hn | hn
    · exact List.mem_append_left _ hn
    · exact List.mem_append_right xs (List.mem_cons_of_mem p hn)
  · exact h.nodup.erase p
  · exact fun hmem => h.apart (List.mem_of_mem_erase hmem)
  · exact fun hmem => h.nodup.not_mem_erase hmem

end Heap.Holds

theorem holds_init (data : α) : (Heap.init data).Holds [] :=
  ⟨around_nil rfl rfl, nofun, List.nodup_nil, List.not_mem_nil⟩

def Heap.Lists (m : Heap α) (size : Int) (xs : List α) : Prop :=
  ∃ nodes, m.Holds nodes ∧ nodes.map m.data = xs ∧ size = nodes.length

namespace Heap.Lists

variable {m : Heap α} {size : Int} {xs : List α} {p : Addr}

theorem size_eq_zero_iff (h : m.Lists size xs) : size = 0 ↔ xs = [] := by
  obtain ⟨nodes, -, rfl, hsize⟩ := h
  rw [hsize, List.map_eq_nil_iff, ← List.length_eq_zero_iff]
  exact Int.natCast_eq_zero

theorem add_tail (h : m.Lists size xs) (hp : m.Fresh p) (data : α) :
    ∃ m', (m.alloc p data).addTailNode p head = some m' ∧ m'.Lists (size + 1) (xs ++ [data]) := by
  obtain ⟨nodes, hholds, rfl, rfl⟩ := h
  obtain ⟨m', hadd, hholds', hdata⟩ := hholds.add_tail hp data
  exact ⟨m', hadd, nodes ++ [p], hholds', hdata, by simp⟩

theorem first (h : m.Lists size xs) :
    xs = [] ∧ m.readNext head = some head ∨
      ∃ data rest pos m' m'', xs = data :: rest ∧ m.readNext head = some pos ∧ pos ≠ head ∧ m.delNode pos = some m' ∧
        m'.readData pos = some data ∧ m'.free pos = some m'' ∧ m''.Lists (size - 1) rest := by
  obtain ⟨nodes, hholds, rfl, rfl⟩ := h
  cases nodes with
  | nil => exact .inl ⟨rfl, hholds.readNext_head⟩
  | cons p nodes =>
    obtain ⟨m', hdel, hdata, hlive, m'', hfree, hholds', hdata', -⟩ := @Heap.Holds.del _ _ [] nodes p hholds
    have hread : m'.readData p = some (m.data p) := (if_pos hlive).trans (congrArg some (congrFun hdata p))
    exact .inr ⟨m.data p, nodes.map m.data, p, m', m'', rfl, hholds.readNext_head, hholds.ne_head List.mem_cons_self,
      hdel, hread, hfree, nodes, hholds', by rw [hdata'], by simp⟩

theorem last (h : m.Lists size xs) :
    xs = [] ∧ m.readPrev head = some head ∨
      ∃ data rest pos m' m'', xs = rest ++ [data] ∧ m.readPrev head = some pos ∧ pos ≠ head ∧ m.delNode pos = some m' ∧
        m'.readData pos = some data ∧ m'.free pos = some m'' ∧ m''.Lists (size - 1) rest := by
  obtain ⟨nodes, hholds, rfl, rfl⟩ := h
  have hprev : m.readPrev head = some (nodes.getLastD head) :=
    (if_pos (.inl rfl)).trans (congrArg some hholds.ring.prev_head)
  rcases List.eq_nil_or_concat nodes with rfl | ⟨nodes, p, rfl⟩
  · exact .inl ⟨rfl, hprev⟩
  · rw [List.concat_eq_append] at *
    obtain ⟨m', hdel, hdata, hlive, m'', hfree, hholds', hdata', -⟩ := hholds.del
    have hread : m'.readData p = some (m.data p) := (if_pos hlive).trans (congrArg some (congrFun hdata p))
    rw [List.append_nil] at hholds'
    refine .inr ⟨m.data p, nodes.map m.data, p, m', m'', by simp, ?_, hholds.ne_head (by simp), hdel, hread, hfree,
      nodes, hholds', by rw [hdata'], by simp⟩
    rw [hprev]
    simp

end Heap.Lists

theorem lists_init (data : α) : (Heap.init data).Lists 0 [] := ⟨[], holds_init data, rfl, rfl⟩

end Wt88047.CamList
